import TypingBundle.Inclusion
import TypingBundle.Proofs.Exports

/-!
Which files make up a bundle: those that the main file leads to along imports that the filter lets
through.

Main statement: `resolve_breadthFirst`, which also says that every file on the way was parsed.
-/

namespace TypingBundle

namespace Inclusion

/-- A file of a registry takes another one into the bundle: by a relative import, or, where
externals are taken in, by the name of a module that the other one declares, and the filter does not
leave the other one out. -/
def Follows (settings : Settings) (registry : Registry) (exports : Exports) (l m : Location) :
    Prop :=
  ∃ record, registry.get? l = some record ∧
    ((m ∈ record.relativeImports ∧
        settings.exclude.leavesOut (settings.displayPath m) false = false) ∨
      (settings.externals = true ∧ ∃ name ∈ record.externalImports,
        exports.owner? name = some m ∧
          settings.exclude.leavesOut (settings.displayPath m) true = false))

/-- The files that a file takes into the bundle, in the order of its edges. -/
def followed (settings : Settings) (registry : Registry) (exports : Exports) (l : Location) :
    List Location :=
  (edgesAt settings registry exports l).filterMap Edge.followed?

end Inclusion

namespace Edge

variable {settings : Settings} {exports : Exports} {m : Location}

theorem followed?_ofRelative {file : Location} :
    (ofRelative settings file).followed? = some m ↔
      file = m ∧ settings.exclude.leavesOut (settings.displayPath m) false = false := by
  unfold ofRelative
  split
  · rename_i excluded
    simp only [followed?, reduceCtorEq, false_iff, not_and]
    rintro rfl kept
    rw [kept] at excluded
    cases excluded
  · rename_i kept
    simp only [followed?, Option.some.injEq]
    constructor
    · rintro rfl
      exact ⟨rfl, by simpa using kept⟩
    · exact And.left

theorem followed?_ofExternal {name : Text} :
    (ofExternal settings exports name).followed? = some m ↔
      settings.externals = true ∧ exports.owner? name = some m ∧
        settings.exclude.leavesOut (settings.displayPath m) true = false := by
  unfold ofExternal
  split
  · rename_i off _
    simp [followed?, off]
  · rename_i off _
    simp [followed?, off]
  · rename_i on unknown
    simp [followed?, unknown]
  · rename_i owner on known
    rw [on, known]
    split
    · rename_i excluded
      simp only [followed?, reduceCtorEq, true_and, false_iff, not_and, Option.some.injEq]
      rintro rfl kept
      rw [kept] at excluded
      cases excluded
    · rename_i kept
      simp only [followed?, Option.some.injEq, true_and]
      constructor
      · rintro rfl
        exact ⟨rfl, by simpa using kept⟩
      · exact And.left

theorem dependency?_ofRelative (settings : Settings) (file : Location) :
    (ofRelative settings file).dependency? = none := by
  unfold ofRelative
  split <;> rfl

end Edge

namespace Inclusion

variable {settings : Settings} {registry : Registry} {exports : Exports} {l m : Location}

theorem edgeOf_followed :
    Graph.edgeOf (followed settings registry exports) = Follows settings registry exports := by
  funext l m
  apply propext
  simp only [Graph.edgeOf, followed, edgesAt, Follows, List.mem_filterMap]
  split
  · rename_i record found
    simp only [Edge.ofRecord, List.mem_append, List.mem_map, or_and_right, exists_or, found,
      Option.some.injEq, exists_eq_left']
    constructor
    · rintro (⟨_, ⟨name, imports, rfl⟩, follows⟩ | ⟨_, ⟨file, imports, rfl⟩, follows⟩)
      · obtain ⟨on, owned, kept⟩ := Edge.followed?_ofExternal.1 follows
        exact Or.inr ⟨on, name, imports, owned, kept⟩
      · obtain ⟨rfl, kept⟩ := Edge.followed?_ofRelative.1 follows
        exact Or.inl ⟨imports, kept⟩
    · rintro (⟨imports, kept⟩ | ⟨on, name, imports, owned, kept⟩)
      · exact Or.inr ⟨_, ⟨m, imports, rfl⟩, Edge.followed?_ofRelative.2 ⟨rfl, kept⟩⟩
      · exact Or.inl ⟨_, ⟨name, imports, rfl⟩, Edge.followed?_ofExternal.2 ⟨on, owned, kept⟩⟩
  · rename_i missing
    simp [missing]

/-- A file that was not parsed takes nothing into the bundle. -/
theorem followed_of_notMem (absent : l ∉ registry.locations) :
    followed settings registry exports l = [] := by
  have missing : registry.get? l = none := by
    cases found : registry.get? l with
    | none => rfl
    | some record => exact absurd (Registry.mem_locations_of_get? found) absent
  simp [followed, edgesAt, missing]

section

variable {σ : Type} [FileStore σ] {store : σ} {sources : Sources}

/-- Edges of a bundle lead to parsed files: the walk took in what is imported, and only parsed files
own a module. -/
theorem mem_locations_of_follows (walked : Registry.Walked store settings sources registry)
    (built : Exports.build registry = .ok exports)
    (follows : Follows settings registry exports l m) : m ∈ registry.locations := by
  obtain ⟨record, found, ⟨imports, _⟩ | ⟨_, name, _, owned, _⟩⟩ := follows
  · obtain ⟨member, parsed⟩ := walked.parse_of_get? found
    exact walked.mem_locations_of_names member ⟨record, parsed, Or.inr imports⟩
  · obtain ⟨other, listed, _⟩ := Exports.exists_record_of_owner? built owned
    exact List.mem_map_of_mem listed

/-- Between two turns of the loop only parsed files wait. -/
theorem waiting_mem_locations (walked : Registry.Walked store settings sources registry)
    (built : Exports.build registry = .ok exports) (turns : Nat) :
    ∀ l ∈ ((Graph.advance (followed settings registry exports)
      Graph.enqueueAll)^[turns] ([], [registry.main])).2, l ∈ registry.locations := by
  refine Graph.iterate_advance_induction
    (P := fun state => ∀ l ∈ state.2, l ∈ registry.locations) ?_ ?_ turns
  · rintro ⟨seen, queue⟩ parsed
    cases queue with
    | nil => exact parsed
    | cons a queue =>
      rw [Graph.advance]
      split
      · exact fun l member => parsed l (List.mem_cons_of_mem _ member)
      · intro l member
        rcases List.mem_append.1 member with old | new
        · exact parsed l (List.mem_cons_of_mem _ old)
        · have follows : Graph.edgeOf (followed settings registry exports) a l := new
          rw [edgeOf_followed] at follows
          exact mem_locations_of_follows walked built follows
  · intro l member
    rw [List.mem_singleton.1 member]
    exact walked.main_mem

theorem breadthFirst_traverse_followed :
    Graph.BreadthFirst (Follows settings registry exports) registry.main
      (Graph.traverse registry.locations (followed settings registry exports) Graph.enqueueAll []
        [registry.main]) := by
  rw [Graph.traverse_enqueueAll_singleton, ← edgeOf_followed]
  exact Graph.breadthFirst_traverse (fun _ => followed_of_notMem) registry.main

/-- All files that are come to were parsed, so none is dropped from the traversal. -/
theorem used_eq_traverse (walked : Registry.Walked store settings sources registry)
    (built : Exports.build registry = .ok exports) :
    (resolve settings registry exports).used =
      Graph.traverse registry.locations (followed settings registry exports) Graph.enqueueAll []
        [registry.main] := by
  unfold resolve ofUsed usedFiles
  apply List.filter_eq_self.2
  intro l member
  obtain ⟨n, reached⟩ := (breadthFirst_traverse_followed.mem_iff l).1 member
  have parsed : l ∈ registry.locations := by
    cases reached with
    | start => exact walked.main_mem
    | step _ follows => exact mem_locations_of_follows walked built follows
  obtain ⟨record, found⟩ := Registry.exists_get? parsed
  rw [found]
  rfl

theorem breadthFirst_used (walked : Registry.Walked store settings sources registry)
    (built : Exports.build registry = .ok exports) :
    Graph.BreadthFirst (Follows settings registry exports) registry.main
      (resolve settings registry exports).used := by
  rw [used_eq_traverse walked built]
  exact breadthFirst_traverse_followed

theorem mem_used_of_follows (walked : Registry.Walked store settings sources registry)
    (built : Exports.build registry = .ok exports)
    (used : l ∈ (resolve settings registry exports).used)
    (follows : Follows settings registry exports l m) :
    m ∈ (resolve settings registry exports).used :=
  (breadthFirst_used walked built).mem_of_edge used follows

/-- Every file of a bundle has a record. -/
theorem exists_get?_of_mem_used (used : l ∈ (resolve settings registry exports).used) :
    ∃ record, registry.get? l = some record := by
  have kept := (List.mem_filter.1 used).2
  exact Option.isSome_iff_exists.1 kept

omit [FileStore σ] in
@[simp]
theorem isUsed_iff {inclusion : Inclusion} : inclusion.isUsed l = true ↔ l ∈ inclusion.used := by
  simp [isUsed]

end
end Inclusion

/-- The bundle of a walked registry: it has the files that the main file leads to along imports that
the filter lets through, each once, the main file first, and nearer files before those further away.
Whatever else refers to a file does not take it in. The loop that collects them ends, and at no time
does a file wait in it that was not parsed. -/
theorem resolve_breadthFirst {σ : Type} [FileStore σ] (store : σ) (settings : Settings)
    (sources : Sources) (registry : Registry) (exports : Exports)
    (walked : Registry.walk store settings sources = .ok registry)
    (built : Exports.build registry = .ok exports) :
    Graph.BreadthFirst (Inclusion.Follows settings registry exports) settings.mainFile
        (Inclusion.resolve settings registry exports).used ∧
      (∀ l ∈ (Inclusion.resolve settings registry exports).used, l = settings.mainFile ∨
        ∃ m ∈ (Inclusion.resolve settings registry exports).used,
          Inclusion.Follows settings registry exports m l) ∧
      (∀ l, (Inclusion.resolve settings registry exports).isUsed l = true ↔
        l ∈ (Inclusion.resolve settings registry exports).used) ∧
      (∀ l ∈ (Inclusion.resolve settings registry exports).used,
        ∃ record, registry.get? l = some record) ∧
      (∃ turns, (Graph.advance (Inclusion.followed settings registry exports)
        Graph.enqueueAll)^[turns] ([], [settings.mainFile]) =
          ((Inclusion.resolve settings registry exports).used, [])) ∧
      (∀ turns, ∀ l ∈ ((Graph.advance (Inclusion.followed settings registry exports)
        Graph.enqueueAll)^[turns] ([], [settings.mainFile])).2,
          ∃ record, registry.get? l = some record) := by
  have made := Registry.walked_of_walk walked
  have order := Inclusion.breadthFirst_used made built
  rw [← made.main]
  refine ⟨order, ?_, fun _ => Inclusion.isUsed_iff, ?_, ?_, ?_⟩
  · intro l used
    obtain ⟨n, reached⟩ := (order.mem_iff l).1 used
    cases reached with
    | start => exact Or.inl rfl
    | @step n m _ before follows => exact Or.inr ⟨m, (order.mem_iff m).2 ⟨n, before⟩, follows⟩
  · intro l used
    exact Inclusion.exists_get?_of_mem_used used
  · rw [Inclusion.used_eq_traverse made built]
    exact Graph.exists_iterate_advance (fun _ => Inclusion.followed_of_notMem)
      Graph.enqueueAll_nil [] [registry.main]
  · intro turns l waits
    exact Registry.exists_get? (Inclusion.waiting_mem_locations made built turns l waits)

/-! ### A bundle of two files -/

namespace Sample

def main : Location := ⟨true, [⟨['p'], rfl⟩, ⟨"m.d.ts".toList, rfl⟩]⟩

def other : Location := ⟨true, [⟨['p'], rfl⟩, ⟨"b.d.ts".toList, rfl⟩]⟩

/-- The main file imports the other file twice, by its path and by the module that it declares, and
also a module that no file declares. The other file imports the main file. -/
def store : MemoryStore := .ofFiles [
  (main, "import b = require('./b');\nimport e = require('e');\nimport f = require('f');".toList),
  (other, "import m = require('./m');\ndeclare module 'e' \x7b".toList)]

def settings : Settings where
  mainFile := main
  name := ['l']
  baseDir := ⟨['/', 'p']⟩
  outFile := ⟨true, [⟨['p'], rfl⟩, ⟨"l.d.ts".toList, rfl⟩]⟩
  newline := ['\n']
  indent := "    ".toList
  namePrefix := "__".toList
  separator := ['/']
  externals := true
  exclude := .nothing
  removeSource := false
  referenceExternals := false
  verbose := false
  emitIfIncludedMissing := true
  emitIfOtherMissing := true
  header := .generated
  bodyHook := none

def sources : Sources := ⟨[other, main]⟩

theorem discovered_eq : Registry.discovered store settings sources = [main, other] := by
  apply Graph.traverse_eq_of_iterate (n := 2) (fun _ => Registry.successors_of_notMem)
    Graph.enqueueNew_nil
  decide +kernel

/-- The owners of modules, and the loop that collects files after four turns. -/
def collected (registry : Registry) :
    Except BundleError (List (Text × Location) × List Location × List Location) := do
  let exports ← Exports.build registry
  let step := Graph.advance (Inclusion.followed settings registry exports) Graph.enqueueAll
  return (exports.owners, step^[4] ([], [registry.main]))

theorem collected_eq :
    Registry.ofFiles store settings sources [main, other] >>= collected =
      .ok ([(['e'], other)], [main, other], []) := by
  decide +kernel

/-- Both files come into the bundle, and the other one owns the one module that is declared. -/
theorem exists_resolve :
    ∃ registry exports, Registry.walk store settings sources = .ok registry ∧
      Exports.build registry = .ok exports ∧ exports.owners = [(['e'], other)] ∧
      (Inclusion.resolve settings registry exports).used = [main, other] := by
  obtain ⟨registry, made, collects⟩ := except_bind_eq_ok.1 collected_eq
  obtain ⟨exports, built, ends⟩ := except_bind_eq_ok.1 collects
  obtain ⟨owned, stops⟩ := Prod.mk.inj (Except.ok.inj ends)
  have walked : Registry.walk store settings sources = .ok registry := by
    rw [Registry.walk, discovered_eq]
    exact made
  have complete := Inclusion.used_eq_traverse (Registry.walked_of_walk walked) built
  refine ⟨registry, exports, walked, built, owned, ?_⟩
  rw [complete]
  exact Graph.traverse_eq_of_iterate (fun _ => Inclusion.followed_of_notMem) Graph.enqueueAll_nil
    stops

end Sample

theorem resolve_breadthFirst_sample :
    ∃ registry exports,
      Registry.walk Sample.store Sample.settings Sample.sources = .ok registry ∧
      Exports.build registry = .ok exports ∧
      Graph.BreadthFirst (Inclusion.Follows Sample.settings registry exports) Sample.main
        [Sample.main, Sample.other] ∧
      (Inclusion.resolve Sample.settings registry exports).isUsed Sample.other = true := by
  obtain ⟨registry, exports, walked, built, _, used⟩ := Sample.exists_resolve
  obtain ⟨order, _, isUsed, _⟩ := resolve_breadthFirst Sample.store Sample.settings Sample.sources
    registry exports walked built
  refine ⟨registry, exports, walked, built, ?_, ?_⟩
  · rw [← used]
    exact order
  · rw [isUsed, used]
    simp

end TypingBundle
