import TypingBundle.Path.Location

/-!
What is kept of a declaration file: the lines it contributes to a bundle, and what it refers to,
imports and declares. A line that is changed keeps its first form.
-/

namespace TypingBundle

/-- What a line can still be renamed as. -/
inductive Role where
  /-- The line stays as it is. -/
  | settled
  /-- The line imports a module by its name. -/
  | externalImport
  /-- The line declares an ambient module. -/
  | moduleDeclaration
deriving DecidableEq

/-- A line of output. -/
structure Entry where
  line : Text
  replacement : Option Text := none
  role : Role := .settled
deriving DecidableEq

namespace Entry

/-- The text to write. -/
def text (e : Entry) : Text := e.replacement.getD e.line

/-- The places of the entries with a role. -/
def places (role : Role) (entries : List Entry) : List Nat :=
  (List.range entries.length).filter fun i => (entries[i]?).any (·.role = role)

theorem mem_places {entries : List Entry} {role : Role} {i : Nat} :
    i ∈ places role entries ↔ ∃ e, entries[i]? = some e ∧ e.role = role := by
  rw [places, List.mem_filter, List.mem_range, Option.any_eq_true]
  constructor
  · rintro ⟨_, e, listed, fits⟩
    exact ⟨e, listed, by simpa using fits⟩
  · rintro ⟨e, listed, fits⟩
    exact ⟨(List.getElem?_eq_some_iff.1 listed).1, e, listed, by simpa using fits⟩

end Entry

/-- A parsed declaration file. The four collections hold no element twice and are in the order of
the file. -/
structure Record where
  path : Path
  /-- The name by position. -/
  moduleName : Text
  /-- The name by which the file is addressed in the bundle. -/
  exportedName : Text
  /-- The unit of indentation of the file. -/
  indent : Text
  /-- Files named by reference directives. -/
  references : List Location
  /-- Modules imported by name. -/
  externalImports : List Text
  /-- Files imported by path. -/
  relativeImports : List Location
  /-- Ambient modules declared in the file. -/
  declaredModules : List Text
  entries : List Entry
  fileExists : Bool
  /-- Whether the file is a source, which gets a module block of its own. -/
  isSource : Bool
deriving DecidableEq

namespace Record

/-- The places of the lines with a role. -/
def placesOf (r : Record) (role : Role) : List Nat := Entry.places role r.entries

/-- Every file that a file names. -/
def successors (r : Record) : List Location := r.references ++ r.relativeImports

end Record
end TypingBundle
