import TypingBundle.Exports
import TypingBundle.Proofs.Registry

/-!
What the table of ambient modules says once it could be built: the owner of a module is the one file
that declares it. It can not be built only where two files declare the same module.
-/

namespace TypingBundle.Exports

variable {e e' : Exports} {declaration : Text × Location} {name : Text} {l : Location}

/-- The table with one more declaration knows what it knew before and the declaration. -/
theorem owner?_add (added : e.add declaration = .ok e') :
    e'.owner? name = some l ↔ e.owner? name = some l ∨ (name, l) = declaration := by
  obtain ⟨declared, file⟩ := declaration
  unfold add at added
  split at added
  · rename_i unknown
    cases added
    have lookup : owner? ⟨e.owners ++ [(declared, file)]⟩ name =
        (e.owner? name).or (if declared = name then some file else none) := by
      simp only [owner?, List.find?_append, List.find?_singleton, Option.map_or]
      by_cases same : declared = name <;> simp [same]
    rw [lookup]
    by_cases same : declared = name
    · subst same
      rw [unknown]
      simp [eq_comm]
    · simp [same, Ne.symm same]
  · rename_i first known
    split at added
    · rename_i same
      cases added
      constructor
      · exact Or.inl
      · rintro (found | equal)
        · exact found
        · cases equal
          rw [known, same]
    · cases added

/-- The table after a list of declarations knows each of them, and nothing else is new. -/
theorem owner?_foldlM {declarations : List (Text × Location)}
    (added : declarations.foldlM add e = .ok e') :
    e'.owner? name = some l ↔ e.owner? name = some l ∨ (name, l) ∈ declarations := by
  induction declarations generalizing e with
  | nil =>
    cases added
    simp
  | cons declaration declarations ih =>
    rw [List.foldlM_cons] at added
    obtain ⟨between, first, rest⟩ := except_bind_eq_ok.1 added
    rw [ih rest, owner?_add first, List.mem_cons, or_assoc]

/-- In the table of a registry, the owner of a module is the file that declares it. -/
theorem owner?_build {registry : Registry} {exports : Exports}
    (built : build registry = .ok exports) :
    exports.owner? name = some l ↔ (name, l) ∈ declarations registry := by
  rw [owner?_foldlM built]
  simp [owner?]

/-- A list of declarations is refused for a module that another file has declared, either before the
list or in it. -/
theorem foldlM_add_eq_error {declarations : List (Text × Location)} {error : BundleError}
    (refused : declarations.foldlM add e = .error error) :
    ∃ (name : Text) (first second : Location), error = .duplicateExport name first second ∧
      first ≠ second ∧
      (e.owner? name = some first ∨ (name, first) ∈ declarations) ∧
      (name, second) ∈ declarations := by
  induction declarations generalizing e with
  | nil => cases refused
  | cons declaration declarations ih =>
    rw [List.foldlM_cons] at refused
    rcases except_bind_eq_error.1 refused with here | ⟨between, added, later⟩
    · obtain ⟨name, second⟩ := declaration
      unfold add at here
      split at here
      · cases here
      · rename_i first known
        split at here
        · cases here
        · rename_i different
          cases here
          exact ⟨name, first, second, rfl, different, Or.inl known, List.mem_cons_self⟩
    · obtain ⟨name, first, second, rfl, different, earlier, listed⟩ := ih later
      refine ⟨name, first, second, rfl, different, ?_, List.mem_cons_of_mem _ listed⟩
      rw [owner?_add added] at earlier
      rw [List.mem_cons, ← or_assoc]
      exact earlier

/-- The table of a registry can be built unless two files declare the same module, and the error
names two such files. -/
theorem build_cases (registry : Registry) :
    (∃ exports, build registry = .ok exports ∧
        ∀ name first second, (name, first) ∈ declarations registry →
          (name, second) ∈ declarations registry → first = second) ∨
      ∃ (name : Text) (first second : Location),
        build registry = .error (.duplicateExport name first second) ∧
        first ≠ second ∧ (name, first) ∈ declarations registry ∧
        (name, second) ∈ declarations registry := by
  cases built : build registry with
  | ok exports =>
    refine Or.inl ⟨exports, rfl, ?_⟩
    intro name first second left right
    rw [← owner?_build built] at left right
    exact Option.some.inj (left.symm.trans right)
  | error error =>
    obtain ⟨name, first, second, rfl, different, earlier, listed⟩ := foldlM_add_eq_error built
    refine Or.inr ⟨name, first, second, rfl, different, ?_, listed⟩
    simpa [owner?] using earlier

theorem mem_declarations {registry : Registry} :
    (name, l) ∈ declarations registry ↔
      ∃ record, (l, record) ∈ registry.records ∧ name ∈ record.declaredModules := by
  unfold declarations
  rw [List.mem_flatMap]
  constructor
  · rintro ⟨⟨file, record⟩, listed, member⟩
    obtain ⟨declared, declares, same⟩ := List.mem_map.1 member
    cases same
    exact ⟨record, listed, declares⟩
  · rintro ⟨record, listed, declares⟩
    exact ⟨(l, record), listed, List.mem_map.2 ⟨name, declares, rfl⟩⟩

/-- The owner of a module is a file of the registry that declares it. -/
theorem exists_record_of_owner? {registry : Registry} {exports : Exports}
    (built : build registry = .ok exports) (owned : exports.owner? name = some l) :
    ∃ record, (l, record) ∈ registry.records ∧ name ∈ record.declaredModules :=
  mem_declarations.1 ((owner?_build built).1 owned)

end TypingBundle.Exports
