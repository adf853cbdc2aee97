import Mathlib.Data.List.Nodup
import TypingBundle.Proofs.Bundle.Turns

/-!
When two files get in each other's way by declaring the same ambient module. The table of modules is
filled file by file in the order of discovery, and the first file that declares a module of another
one ends it.

Main statement: `build_conflicts`.
-/

namespace TypingBundle

namespace Exports

/-- No two of the given files declare the same module. -/
def Consistent (records : List (Location × Record)) : Prop :=
  ∀ entry ∈ records, ∀ other ∈ records, ∀ name ∈ entry.2.declaredModules,
    name ∈ other.2.declaredModules → entry.1 = other.1

/-- The first conflict among files in their order: two files are the first two that declare a module,
and there is no conflict before the second of them. -/
structure FirstConflict (records : List (Location × Record)) (name : Text)
    (first second : Location × Record) : Prop where
  different : first.1 ≠ second.1
  declares : name ∈ first.2.declaredModules
  declaresAgain : name ∈ second.2.declaredModules
  order : ∃ before between after : List (Location × Record),
    records = before ++ first :: between ++ second :: after ∧
      (∀ entry ∈ before ++ between, name ∉ entry.2.declaredModules) ∧
      Consistent (before ++ first :: between)

variable {e known exports : Exports} {records : List (Location × Record)}
  {entry : Location × Record} {name : Text} {l : Location} {error : BundleError}

theorem mem_declarationsOf :
    (name, l) ∈ declarationsOf entry ↔ name ∈ entry.2.declaredModules ∧ entry.1 = l := by
  simp [declarationsOf]

/-! ### Files that could be added -/

/-- A table that was filled from some files knows what they declare. -/
theorem owner?_of_records (added : (records.flatMap declarationsOf).foldlM add ⟨[]⟩ = .ok known) :
    known.owner? name = some l ↔
      ∃ entry ∈ records, name ∈ entry.2.declaredModules ∧ entry.1 = l := by
  rw [owner?_foldlM added]
  simp [owner?, List.mem_flatMap, mem_declarationsOf]

/-- Each module has one owner, so files that could all be added are without conflict. -/
theorem consistent_of_records
    (added : (records.flatMap declarationsOf).foldlM add ⟨[]⟩ = .ok known) :
    Consistent records := by
  intro entry listed other listed' name declares declares'
  have first := (owner?_of_records added).2 ⟨entry, listed, declares, rfl⟩
  have second := (owner?_of_records added).2 ⟨other, listed', declares', rfl⟩
  exact Option.some.inj (first.symm.trans second)

theorem owner?_eq_none_iff : e.owner? name = none ↔ name ∉ e.owners.map Prod.fst := by
  simp only [owner?, Option.map_eq_none_iff, List.find?_eq_none, List.mem_map, not_exists, not_and,
    decide_eq_true_eq]

/-- A module is added only where it is not known yet. -/
theorem nodup_add {declaration : Text × Location} (added : e.add declaration = .ok known)
    (nodup : (e.owners.map Prod.fst).Nodup) : (known.owners.map Prod.fst).Nodup := by
  unfold add at added
  split at added
  · rename_i unknown
    cases added
    have new := owner?_eq_none_iff.1 unknown
    rw [List.map_append, List.map_singleton]
    refine List.nodup_append.2 ⟨nodup, List.nodup_singleton _, ?_⟩
    intro other member last
    rintro same rfl
    rw [List.mem_singleton.1 same] at member
    exact new member
  · split at added
    · cases added
      exact nodup
    · cases added

theorem nodup_foldlM {declarations : List (Text × Location)}
    (added : declarations.foldlM add e = .ok known) (nodup : (e.owners.map Prod.fst).Nodup) :
    (known.owners.map Prod.fst).Nodup := by
  induction declarations generalizing e with
  | nil =>
    cases added
    exact nodup
  | cons declaration declarations ih =>
    rw [List.foldlM_cons] at added
    obtain ⟨between, first, rest⟩ := except_bind_eq_ok.1 added
    exact ih rest (nodup_add first nodup)

theorem mem_owners (added : (records.flatMap declarationsOf).foldlM add ⟨[]⟩ = .ok known) :
    name ∈ known.owners.map Prod.fst ↔ ∃ entry ∈ records, name ∈ entry.2.declaredModules := by
  rw [← not_iff_not, ← owner?_eq_none_iff, Option.eq_none_iff_forall_ne_some]
  constructor
  · rintro unowned ⟨entry, listed, declares⟩
    exact unowned entry.1 ((owner?_of_records added).2 ⟨entry, listed, declares, rfl⟩)
  · intro undeclared l owned
    obtain ⟨entry, listed, declares, _⟩ := (owner?_of_records added).1 owned
    exact undeclared ⟨entry, listed, declares⟩

/-- The table has one entry for each module that is declared, however often it is. -/
theorem length_owners (added : (records.flatMap declarationsOf).foldlM add ⟨[]⟩ = .ok known) :
    known.owners.length =
      (records.flatMap fun entry => entry.2.declaredModules).eraseDups.length := by
  have perm : (known.owners.map Prod.fst).Perm
      (records.flatMap fun entry => entry.2.declaredModules).eraseDups := by
    rw [List.perm_ext_iff_of_nodup (nodup_foldlM added List.nodup_nil) (nodup_eraseDups _)]
    intro name
    rw [mem_owners added, List.mem_eraseDups, List.mem_flatMap]
  simpa using perm.length_eq

/-! ### The first file that is refused -/

/-- Of files that can not all be added, one is the first to be refused. -/
theorem exists_first_refused
    (refused : (records.flatMap declarationsOf).foldlM add e = .error error) :
    ∃ before entry after known, records = before ++ entry :: after ∧
      (before.flatMap declarationsOf).foldlM add e = .ok known ∧
      (declarationsOf entry).foldlM add known = .error error := by
  -- By induction on files and not on their declarations, so that the file comes as a whole.
  induction records generalizing e with
  | nil => cases refused
  | cons entry records ih =>
    rw [List.flatMap_cons, List.foldlM_append] at refused
    rcases except_bind_eq_error.1 refused with here | ⟨between, added, later⟩
    · exact ⟨[], entry, records, e, rfl, rfl, here⟩
    · obtain ⟨before, last, after, known, rfl, fills, refuses⟩ := ih later
      refine ⟨entry :: before, last, after, known, rfl, ?_, refuses⟩
      rw [List.flatMap_cons, List.foldlM_append, added]
      exact fills

/-- A file is refused for a module that another file owns. What it declares twice itself is no
reason. -/
theorem owner?_of_refused (refused : (declarationsOf entry).foldlM add known = .error error) :
    ∃ (name : Text) (first : Location), error = .duplicateExport name first entry.1 ∧
      first ≠ entry.1 ∧ known.owner? name = some first ∧ name ∈ entry.2.declaredModules := by
  obtain ⟨name, first, second, rfl, different, earlier, listed⟩ := foldlM_add_eq_error refused
  obtain ⟨declares, rfl⟩ := mem_declarationsOf.1 listed
  refine ⟨name, first, rfl, different, ?_, declares⟩
  -- The owner was known before, or got the module from this very file.
  rcases earlier with owned | own
  · exact owned
  · exact absurd (mem_declarationsOf.1 own).2.symm different

/-- Among files without conflict, a module is declared by at most one. -/
theorem notMem_declaredModules {before between : List (Location × Record)}
    (nodup : ((before ++ entry :: between).map Prod.fst).Nodup)
    (consistent : Consistent (before ++ entry :: between))
    (declares : name ∈ entry.2.declaredModules) :
    ∀ other ∈ before ++ between, name ∉ other.2.declaredModules := by
  intro other listed declares'
  have listed' : other ∈ before ++ entry :: between := by
    rcases List.mem_append.1 listed with early | late
    · exact List.mem_append_left _ early
    · exact List.mem_append_right _ (List.mem_cons_of_mem _ late)
  have same : entry.1 = other.1 :=
    consistent entry (by simp) other listed' name declares declares'
  rw [List.map_append, List.map_cons, List.nodup_middle, List.nodup_cons,
    ← List.map_append] at nodup
  exact nodup.1 (same ▸ List.mem_map_of_mem listed)

/-- A refusal names the first conflict: no file before the one that is refused was. -/
theorem exists_firstConflict (nodup : (records.map Prod.fst).Nodup)
    (refused : (records.flatMap declarationsOf).foldlM add ⟨[]⟩ = .error error) :
    ∃ name first second, error = .duplicateExport name first.1 second.1 ∧
      FirstConflict records name first second := by
  obtain ⟨front, second, after, known, rfl, added, refuses⟩ := exists_first_refused refused
  obtain ⟨name, owner, rfl, different, owned, declaresAgain⟩ := owner?_of_refused refuses
  obtain ⟨first, listed, declares, rfl⟩ := (owner?_of_records added).1 owned
  obtain ⟨before, between, rfl⟩ := List.append_of_mem listed
  have consistent := consistent_of_records added
  rw [List.map_append] at nodup
  have only := notMem_declaredModules nodup.of_append_left consistent declares
  exact ⟨name, first, second, rfl, different, declares, declaresAgain, before, between, after, rfl,
    only, consistent⟩

theorem FirstConflict.not_consistent {first second : Location × Record}
    (conflict : FirstConflict records name first second) : ¬ Consistent records := by
  obtain ⟨before, between, after, rfl, _⟩ := conflict.order
  intro consistent
  exact conflict.different (consistent first (by simp) second (by simp) name conflict.declares
    conflict.declaresAgain)

end Exports

/-- The table of the ambient modules of a walked registry. It can be filled if and only if no two
files declare the same module. Then it tells for each module the one file that declares it, and has
as many entries as there are modules. Otherwise the error names a module with the first two files
that declare it, in the order of discovery, and the files before the second of these are without
conflict. The two files are different: that one file declares a module twice is no conflict. -/
theorem build_conflicts {σ : Type} [FileStore σ] (store : σ) (settings : Settings)
    (sources : Sources) (registry : Registry)
    (walked : Registry.walk store settings sources = .ok registry) :
    (∀ entry ∈ registry.records, entry.2.path = entry.1) ∧
      ((∃ exports, Exports.build registry = .ok exports) ↔
        Exports.Consistent registry.records) ∧
      (∀ exports, Exports.build registry = .ok exports →
        (∀ name l, exports.owner? name = some l ↔
          ∃ record, registry.get? l = some record ∧ name ∈ record.declaredModules) ∧
        exports.owners.length =
          (registry.records.flatMap fun entry => entry.2.declaredModules).eraseDups.length) ∧
      ∀ error, Exports.build registry = .error error →
        ∃ name first second, error = .duplicateExport name first.1 second.1 ∧
          Exports.FirstConflict registry.records name first second := by
  have made := Registry.walked_of_walk walked
  have nodup : (registry.records.map Prod.fst).Nodup := made.breadthFirst.nodup
  rw [Exports.build, Exports.declarations]
  refine ⟨?_, ?_, ?_, fun error refused => Exports.exists_firstConflict nodup refused⟩
  · intro entry listed
    exact Record.path_of_parse (made.parsed entry listed)
  · constructor
    · rintro ⟨exports, built⟩
      exact Exports.consistent_of_records built
    · intro consistent
      cases built : (registry.records.flatMap Exports.declarationsOf).foldlM Exports.add ⟨[]⟩ with
      | ok exports => exact ⟨exports, rfl⟩
      | error error =>
        obtain ⟨name, first, second, _, conflict⟩ := Exports.exists_firstConflict nodup built
        exact absurd consistent conflict.not_consistent
  · intro exports built
    refine ⟨?_, Exports.length_owners built⟩
    intro name l
    rw [Exports.owner?_of_records built]
    constructor
    · rintro ⟨entry, listed, declares, rfl⟩
      have parsed := made.parsed entry listed
      exact ⟨entry.2, made.get?_eq_some_iff.2 ⟨List.mem_map_of_mem listed, parsed⟩, declares⟩
    · rintro ⟨record, found, declares⟩
      exact ⟨(l, record), Registry.mem_of_get? found, declares, rfl⟩

/-! ### Two files that declare the same module -/

namespace Rivals

open Sample (main other folder text bareSettings)

def second : Location := folder.child ⟨"c.d.ts".toList, rfl⟩

/-- Of the two files that the main file refers to, the first one declares a module twice, and the
second one declares it again after a module of its own. -/
def store : MemoryStore := .ofFiles [
  (main, text ["/// <reference path='b.d.ts' />", "/// <reference path='c.d.ts' />"]),
  (other, text ["declare module 'e' \x7b", "\x7d", "declare module 'e' \x7b", "\x7d"]),
  (second, text ["declare module 'f' \x7b", "\x7d", "declare module 'e' \x7b", "\x7d"])]

def sources : Sources := Bundle.sources store bareSettings

theorem discovered_eq :
    Registry.discovered store bareSettings sources = [main, other, second] := by
  apply Registry.discovered_of_turns (n := 3)
  decide +kernel

theorem refused_eq :
    (Registry.ofFiles store bareSettings sources [main, other, second] >>= fun registry =>
      (Exports.build registry).map Exports.owners) =
        .error (.duplicateExport ['e'] other second) := by
  decide +kernel

theorem exists_refused :
    ∃ registry, Registry.walk store bareSettings sources = .ok registry ∧
      Exports.build registry = .error (.duplicateExport ['e'] other second) := by
  obtain ⟨registry, walked⟩ := store.exists_walk bareSettings sources
  have refused := refused_eq
  rw [← discovered_eq, ← Registry.walk, walked] at refused
  refine ⟨registry, walked, ?_⟩
  cases built : Exports.build registry with
  | ok exports =>
    simp [bind, Except.bind, built, Except.map] at refused
  | error error =>
    simpa [bind, Except.bind, built, Except.map] using refused

end Rivals

theorem build_conflicts_rivals :
    ∃ registry first second,
      Registry.walk Rivals.store Sample.bareSettings Rivals.sources = .ok registry ∧
      Exports.build registry = .error (.duplicateExport ['e'] Sample.other Rivals.second) ∧
      ¬ Exports.Consistent registry.records ∧
      first.1 = Sample.other ∧ second.1 = Rivals.second ∧
      Exports.FirstConflict registry.records ['e'] first second := by
  obtain ⟨registry, walked, refused⟩ := Rivals.exists_refused
  obtain ⟨_, filled, _, names⟩ := build_conflicts Rivals.store Sample.bareSettings Rivals.sources
    registry walked
  obtain ⟨name, first, second, same, conflict⟩ := names _ refused
  obtain ⟨rfl, firsts, seconds⟩ := BundleError.duplicateExport.inj same
  refine ⟨registry, first, second, walked, refused, ?_, ?_, ?_, conflict⟩
  · rw [← filled]
    rintro ⟨exports, built⟩
    cases refused.symm.trans built
  -- A written location is read as itself, so the paths of the error are those of the two files.
  · simpa using (congrArg Path.normalize firsts).symm
  · simpa using (congrArg Path.normalize seconds).symm

end TypingBundle
