import TypingBundle.Text.Basic

/-!
Paths as they are written: a text cut at `/`. Two paths with the same components denote the same
place, and a path keeps its own spelling (a trailing `/`, a doubled `/`) for display.

Main statement: the components of a joined relative path are those of both parts, apart from a
leading `.` of the second.
-/

namespace TypingBundle

/-- Whether a text can name a file or a directory: it is not empty, holds no `/`, and is neither
`.` nor `..`. -/
def isName (text : Text) : Bool :=
  text ≠ [] && '/' ∉ text && text ≠ ['.'] && text ≠ ['.', '.']

/-- The name of a file or a directory. -/
structure Name where
  text : Text
  valid : isName text = true
deriving DecidableEq

/-- One step of a path. -/
inductive Component where
  /-- The leading `/`. -/
  | root
  /-- A leading `.` of a relative path. -/
  | here
  /-- A `..`. -/
  | up
  | name (name : Name)
deriving DecidableEq

namespace Component

/-- The component that stands between two slashes; an empty piece and `.` stand for none. -/
def ofPiece? (piece : Text) : Option Component :=
  if piece = ['.', '.'] then some .up
  else if valid : isName piece = true then some (.name ⟨piece, valid⟩)
  else none

/-- How a component is written. -/
def text : Component → Text
  | root => ['/']
  | here => ['.']
  | up => ['.', '.']
  | name n => n.text

end Component

/-- A path as it is written. -/
structure Path where
  text : Text
deriving DecidableEq

namespace Path

/-- A path from a string. -/
def ofString (s : String) : Path := ⟨s.toList⟩

/-- Whether the path begins at the root. -/
def isAbsolute (p : Path) : Bool := p.text.head? = some '/'

/-- The steps of a path. Doubled and trailing slashes and every `.` but a leading one stand for
nothing. -/
def components (p : Path) : List Component :=
  match p.text with
  | '/' :: rest => .root :: (Text.split '/' rest).filterMap Component.ofPiece?
  | text =>
    match Text.split '/' text with
    | ['.'] :: rest => .here :: rest.filterMap Component.ofPiece?
    | pieces => pieces.filterMap Component.ofPiece?

/-- Whether two spellings denote the same path. -/
def same (p q : Path) : Bool := p.components = q.components

/-- A path continued by another; an absolute continuation replaces it. -/
def join (p q : Path) : Path :=
  if q.isAbsolute then q
  else if p.text = [] ∨ p.text.getLast? = some '/' then ⟨p.text ++ q.text⟩
  else ⟨p.text ++ '/' :: q.text⟩

/-- The path written with the given steps, each continuing the ones before. -/
def ofComponents (steps : List Component) : Path :=
  steps.foldl (fun p step => p.join ⟨step.text⟩) ⟨[]⟩

/-- The name at the end of a path, when it ends in one. -/
def fileName? (p : Path) : Option Text :=
  match p.components.getLast? with
  | some (.name n) => some n.text
  | _ => none

/-- Pieces without those at the end that stand for nothing. -/
def trimPieces (pieces : List Text) : List Text :=
  (pieces.reverse.dropWhile fun piece => piece = [] || piece = ['.']).reverse

/-- The path without its last step, as far as it is written; the root and the empty path have no
parent. -/
def parent? (p : Path) : Option Path :=
  match p.text with
  | '/' :: rest =>
    match trimPieces (Text.split '/' rest) with
    | [] => none
    | pieces => some ⟨'/' :: Text.join ['/'] (trimPieces pieces.dropLast)⟩
  | text =>
    match Text.split '/' text with
    | ['.'] :: rest =>
      match trimPieces rest with
      | [] => some ⟨[]⟩
      | pieces => some ⟨Text.join ['/'] (['.'] :: trimPieces pieces.dropLast)⟩
    | pieces =>
      match trimPieces pieces with
      | [] => none
      | pieces => some ⟨Text.join ['/'] (trimPieces pieces.dropLast)⟩

/-- The path with another name in place of the last step. -/
def withFileName (p : Path) (name : Text) : Path :=
  if p.fileName?.isSome then (p.parent?.getD p).join ⟨name⟩ else p.join ⟨name⟩

/-- The ending of declaration files. -/
def declarationEnding : Text := ".d.ts".toList

/-- Whether the path names a declaration file. -/
def isDeclarationFile (p : Path) : Bool :=
  p.fileName?.any (Text.endsWith declarationEnding)

/-- The path without the ending of declaration files; a path without it stays as it is. -/
def dropDeclarationEnding (p : Path) : Path :=
  match p.fileName?.bind (Text.dropEnd? declarationEnding) with
  | some stem => p.withFileName stem
  | none => p

/-- The path with the ending of declaration files put after its text. -/
def addDeclarationEnding (p : Path) : Path := ⟨p.text ++ declarationEnding⟩

/-- The text of a path with every backslash written as a slash. -/
def slashed (p : Path) : Text := Text.replaceChar '\\' ['/'] p.text

/-- The steps of a path without a leading `.`, which leads nowhere. -/
def way (p : Path) : List Component := p.components.filter (· ≠ .here)

/-- Two lists without their longest common beginning. -/
def dropCommon : List Component → List Component → List Component × List Component
  | a :: as, b :: bs => if a = b then dropCommon as bs else (a :: as, b :: bs)
  | as, bs => (as, bs)

/-- The steps that lead from a directory to a path: up out of what is not shared, then down. -/
def relativeSteps (source target : Path) : List Component :=
  let (out, down) := dropCommon source.way target.way
  List.replicate out.length .up ++ down

/-- The path of `target` as seen from the directory `source`. -/
def relative (source target : Path) : Path := ofComponents (relativeSteps source target)

end Path
end TypingBundle
