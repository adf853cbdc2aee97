import TypingBundle.Inclusion

/-!
New names for the ambient modules in a bundle, so that they do not clash with those of other
libraries. Each new line is made from the first form of the line, so doing it again changes
nothing.
-/

namespace TypingBundle.Rename

/-- A declaration line under the new name of its module. -/
def declaration? (settings : Settings) (isSource : Bool) (line : Text) : Option Text := do
  let found ← Line.moduleDeclaration? line
  if !Specifier.isPlain found.specifier then none
  else
    let renamed := found.withSpecifier (settings.libraryName found.specifier)
    some (if isSource then Line.dropDeclare renamed else renamed)

/-- What becomes of an import line whose specifier is a plain name. -/
inductive ImportOutcome where
  /-- The module is not in the bundle. -/
  | leftAsIs (specifier : Text)
  | renamed (text : Text)

/-- The outcome of an import line, if its specifier is a plain name. -/
def importOutcome? (settings : Settings) (exports : Exports) (inclusion : Inclusion)
    (line : Text) : Option ImportOutcome := do
  let found ← Line.import? line
  let specifier := found.spec.specifier
  if !Specifier.isPlain specifier then none
  else if (exports.owner? specifier).any inclusion.isUsed then
    some (.renamed (found.spec.withSpecifier (settings.libraryName specifier)))
  else some (.leftAsIs specifier)

/-- An import line under the new name of its module. -/
def importing? (settings : Settings) (exports : Exports) (inclusion : Inclusion)
    (line : Text) : Option Text :=
  match importOutcome? settings exports inclusion line with
  | some (.renamed text) => some text
  | _ => none

/-- The new form of an entry, if it gets one. -/
def newText? (settings : Settings) (exports : Exports) (inclusion : Inclusion) (isSource : Bool)
    (entry : Entry) : Option Text :=
  match entry.role with
  | .settled => none
  | .moduleDeclaration => declaration? settings isSource entry.line
  | .externalImport => importing? settings exports inclusion entry.line

/-- An entry with its new form. -/
def entry (settings : Settings) (exports : Exports) (inclusion : Inclusion) (isSource : Bool)
    (entry : Entry) : Entry :=
  match newText? settings exports inclusion isSource entry with
  | some text => { entry with replacement := some text }
  | none => entry

/-- A record with the new forms of its entries. -/
def record (settings : Settings) (exports : Exports) (inclusion : Inclusion) (record : Record) :
    Record :=
  { record with entries := record.entries.map (entry settings exports inclusion record.isSource) }

/-- A registry in which the files of the bundle are renamed. -/
def registry (settings : Settings) (exports : Exports) (inclusion : Inclusion)
    (registry : Registry) : Registry :=
  { registry with records := registry.records.map fun (l, r) =>
      (l, if inclusion.isUsed l then record settings exports inclusion r else r) }

end TypingBundle.Rename
