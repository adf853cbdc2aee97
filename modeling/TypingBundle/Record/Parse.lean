import TypingBundle.Indent
import TypingBundle.Line.Specifier
import TypingBundle.Options.Resolve
import TypingBundle.Record.Basic
import TypingBundle.Record.Comment
import TypingBundle.Store.Basic

/-!
From the text of a declaration file to its record. Every line is read on its own into what it
contributes, and the record collects the contributions.
-/

namespace TypingBundle

/-- The declaration files that get a module block of their own. -/
structure Sources where
  files : List Path

namespace Sources

/-- Whether a path denotes a source. -/
def contains (sources : Sources) (path : Path) : Bool := sources.files.any (·.same path)

end Sources

/-- What a line contributes to the record of its file. -/
inductive Reading where
  /-- Nothing: a comment, or a private member. -/
  | nothing
  | blank
  | reference (target : Location)
  /-- An import by the name of a module. -/
  | externalImport (specifier : Text)
  /-- An import for effects alone of something without declarations. -/
  | untypedImport (specifier : Text)
  /-- An import of a file; `renamed` is the line with the name of that file in the bundle. -/
  | relativeImport (specifier : Text) (target : Location) (renamed : Text)
  | moduleDeclaration (name : Text)
  | code
deriving DecidableEq

variable {σ : Type} [FileStore σ]

/-- The file that a specifier leads to: with the ending of declaration files, or the index of a
directory if only that exists. -/
def resolveSpecifier (store : σ) (dir : Path) (specifier : Text) : Location :=
  let base := dir.locate ⟨specifier⟩
  let file := base.addDeclarationEnding
  let index := base.child Name.directoryIndex
  if !FileStore.isFile store file && FileStore.isFile store index then index else file

/-- What an import line contributes. -/
def readImport (store : σ) (settings : Settings) (dir : Path) (found : Line.Import) : Reading :=
  let specifier := found.spec.specifier
  if !Specifier.isPath specifier then .externalImport specifier
  else
    let target := resolveSpecifier store dir specifier
    if found.style = .sideEffect && !FileStore.isFile store target then .untypedImport specifier
    else .relativeImport specifier target (found.spec.withSpecifier (settings.exportedName target))

/-- What a line of a class contributes. -/
def readLine (store : σ) (settings : Settings) (dir : Path) : Line.Class → Reading
  | .blank => .blank
  | .reference path => .reference (dir.locate ⟨path⟩)
  | .importing found => readImport store settings dir found
  | .moduleDeclaration found => .moduleDeclaration found.specifier
  | .code => .code
  | _ => .nothing

/-- The entry of a line; what can be renamed is marked only where externals are taken in. -/
def Reading.written? (settings : Settings) (isSource : Bool) (line : Text) : Reading → Option Entry
  | nothing => none
  | blank => some { line := [] }
  | reference _ => none
  | externalImport _ =>
    some { line, role := if settings.externals then .externalImport else .settled }
  | untypedImport _ => some { line }
  | relativeImport _ _ renamed => some { line, replacement := some renamed }
  | moduleDeclaration _ =>
    some {
      line
      replacement := if isSource then some (Line.dropDeclare line) else none
      role := if settings.externals then .moduleDeclaration else .settled }
  | code =>
    let line := Line.dropPublic line
    some { line := if isSource then Line.dropDeclare line else line }

/-- A line, what it contributes, and the documentation before it. -/
structure ReadLine where
  line : Text
  doc : List Text
  reading : Reading

namespace ReadLine

/-- The entries of a line and of its documentation. -/
def entries (settings : Settings) (isSource : Bool) (r : ReadLine) : List Entry :=
  r.doc.map (fun line => { line := Line.alignDoc line }) ++
    (r.reading.written? settings isSource r.line).toList

def reference? (r : ReadLine) : Option Location :=
  match r.reading with
  | .reference target => some target
  | _ => none

def externalImport? (r : ReadLine) : Option Text :=
  match r.reading with
  | .externalImport specifier => some specifier
  | _ => none

def relativeImport? (r : ReadLine) : Option Location :=
  match r.reading with
  | .relativeImport _ target _ => some target
  | _ => none

def declaredModule? (r : ReadLine) : Option Text :=
  match r.reading with
  | .moduleDeclaration name => some name
  | _ => none

end ReadLine

/-- The lines of a text, read in a directory. -/
def readLines (store : σ) (settings : Settings) (dir : Path) (text : Text) : List ReadLine :=
  (scan text).map fun s => ⟨s.line, s.doc, readLine store settings dir s.found⟩

namespace Record

/-- The directory in which the paths of a file are read. -/
def directory (file : Path) : Path := file.parent?.getD ⟨[]⟩

/-- The record of a file without lines. -/
def blank (settings : Settings) (file : Path) (isSource fileExists : Bool) : Record where
  path := file
  moduleName := settings.moduleName file
  exportedName := settings.exportedName file
  indent := settings.indent
  references := []
  externalImports := []
  relativeImports := []
  declaredModules := []
  entries := []
  fileExists
  isSource

/-- The record that the lines of a file come down to. -/
def ofLines (settings : Settings) (file : Path) (isSource : Bool) (indent : Text)
    (lines : List ReadLine) : Record :=
  { blank settings file isSource true with
    indent
    references := (lines.filterMap ReadLine.reference?).eraseDups
    externalImports := (lines.filterMap ReadLine.externalImport?).eraseDups
    relativeImports := (lines.filterMap ReadLine.relativeImport?).eraseDups
    declaredModules := (lines.filterMap ReadLine.declaredModule?).eraseDups
    entries := lines.flatMap (ReadLine.entries settings isSource) }

/-- The record of the text of a file. -/
def ofText (store : σ) (settings : Settings) (sources : Sources) (file : Path) (text : Text) :
    Record :=
  ofLines settings file (sources.contains file) ((Indent.detect? text).getD settings.indent)
    (readLines store settings (directory file) text)

/-- The record of a file. A file that does not exist has one without lines. -/
def parse (store : σ) (settings : Settings) (sources : Sources) (file : Path) :
    Except BundleError Record :=
  if FileStore.isFile store file then
    match Store.readDeclarations store file with
    | .ok text => .ok (ofText store settings sources file text)
    | .error cause => .error (.io file cause)
  else .ok (blank settings file (sources.contains file) false)

end Record
end TypingBundle
