import TypingBundle.Proofs.Bundle.Turns

/-!
What a bundle leaves out: the files that the filter keeps away, and the dependencies that are only
listed. The loop that collects the files of a bundle notes both while it goes from file to file;
`Gathering` is that loop, and after each turn its notes are those of the files it has taken in.

Main statements: `Gathering.exists_turns` and `resolve_omissions`.
-/

namespace TypingBundle

/-! ### Notes without repetition -/

section

variable {α : Type} [DecidableEq α]

/-- A list without repetition with one more element, which goes to the end if it is new. -/
def note (l : List α) (a : α) : List α := if a ∈ l then l else l ++ [a]

theorem note_eraseDups (l : List α) (a : α) : note l.eraseDups a = (l ++ [a]).eraseDups := by
  by_cases known : a ∈ l
  · simp [note, List.eraseDups_append, List.removeAll, known]
  · simp [note, List.eraseDups_append, List.removeAll, List.eraseDups_cons, known]

/-- Notes that are taken one after the other are the first occurrences. -/
theorem foldl_note (l more : List α) : more.foldl note l.eraseDups = (l ++ more).eraseDups := by
  induction more generalizing l with
  | nil => simp
  | cons a more ih =>
    rw [List.foldl_cons, note_eraseDups, ih]
    simp

/-- First occurrences stand in the order in which they are met. -/
theorem pairwise_eraseDups (l : List α) :
    l.eraseDups.Pairwise fun a b => l.idxOf a < l.idxOf b := by
  induction l using List.reverseRecOn with
  | nil => simp
  | append_singleton l a ih =>
    have earlier : ∀ b ∈ l.eraseDups, (l ++ [a]).idxOf b = l.idxOf b := fun b member =>
      List.idxOf_append_of_mem (List.mem_eraseDups.1 member)
    have kept : l.eraseDups.Pairwise fun b c => (l ++ [a]).idxOf b < (l ++ [a]).idxOf c := by
      refine ih.imp_of_mem ?_
      intro b c first second before
      rwa [earlier b first, earlier c second]
    rw [← note_eraseDups, note]
    split
    · exact kept
    · rename_i new
      rw [List.mem_eraseDups] at new
      refine List.pairwise_append.2 ⟨kept, List.pairwise_singleton _ _, ?_⟩
      intro b first c last
      rw [List.mem_singleton.1 last, earlier b first, List.idxOf_append_of_notMem new]
      have inside := List.idxOf_lt_length_of_mem (List.mem_eraseDups.1 first)
      omega

end

/-! ### The loop -/

/-- The loop that collects the files of a bundle, between two turns. -/
structure Gathering where
  /-- The files that were looked at. -/
  seen : List Location
  queue : List Location
  /-- What was noted so far. -/
  inclusion : Inclusion

namespace Gathering

variable {settings : Settings} {registry : Registry} {exports : Exports}

def start (main : Location) : Gathering := ⟨[], [main], ⟨[], [], []⟩⟩

/-- What one edge of a file adds. -/
def take (g : Gathering) : Edge → Gathering
  | .externalOmitted _ dependency =>
    { g with inclusion.dependencies := note g.inclusion.dependencies dependency }
  | .externalUndeclared name =>
    { g with inclusion.dependencies := note g.inclusion.dependencies (.unresolved name) }
  | .externalExcluded _ owner =>
    { g with inclusion.excluded := note g.inclusion.excluded owner }
  | .relativeExcluded file =>
    { g with inclusion.excluded := note g.inclusion.excluded file }
  | .externalFollowed _ owner => { g with queue := g.queue ++ [owner] }
  | .relativeFollowed file => { g with queue := g.queue ++ [file] }

/-- One turn: the first file that waits is taken in with all its edges, unless it was looked at
before or was not parsed. -/
def turn (settings : Settings) (registry : Registry) (exports : Exports) (g : Gathering) :
    Gathering :=
  match g.queue with
  | [] => g
  | l :: queue =>
    if l ∈ g.seen then { g with queue }
    else
      match registry.get? l with
      | none => { g with seen := g.seen ++ [l], queue }
      | some record =>
        (Edge.ofRecord settings exports record).foldl take
          ⟨g.seen ++ [l], queue, { g.inclusion with used := g.inclusion.used ++ [l] }⟩

/-- Each edge adds to one of the three lists. -/
theorem foldl_take (edges : List Edge) (g : Gathering) :
    edges.foldl take g =
      ⟨g.seen, g.queue ++ edges.filterMap Edge.followed?, g.inclusion.used,
        (edges.filterMap Edge.excluded?).foldl note g.inclusion.excluded,
        (edges.filterMap Edge.dependency?).foldl note g.inclusion.dependencies⟩ := by
  induction edges generalizing g with
  | nil => simp
  | cons edge edges ih =>
    rw [List.foldl_cons, ih]
    cases edge with
    | externalOmitted name dependency => rfl
    | externalUndeclared name => rfl
    | externalExcluded name owner => rfl
    | relativeExcluded file => rfl
    | externalFollowed name owner =>
      simp [take, List.filterMap_cons, Edge.followed?, Edge.excluded?, Edge.dependency?]
    | relativeFollowed file =>
      simp [take, List.filterMap_cons, Edge.followed?, Edge.excluded?, Edge.dependency?]

/-- The loop after it has looked at some files: its notes are those of the files among them that
were parsed. -/
def ofState (settings : Settings) (registry : Registry) (exports : Exports)
    (state : List Location × List Location) : Gathering :=
  ⟨state.1, state.2, .ofUsed settings registry exports
    (state.1.filter fun l => (registry.get? l).isSome)⟩

/-- A turn takes in the edges of one file, as if all files were known beforehand. -/
theorem turn_ofState (state : List Location × List Location) :
    turn settings registry exports (ofState settings registry exports state) =
      ofState settings registry exports
        (Graph.advance (Inclusion.followed settings registry exports) Graph.enqueueAll state) := by
  obtain ⟨seen, queue⟩ := state
  cases queue with
  | nil => rfl
  | cons l queue =>
    by_cases known : l ∈ seen
    · simp [turn, ofState, Graph.advance, known]
    · cases found : registry.get? l with
      | none =>
        simp [turn, ofState, Graph.advance, known, found, Graph.enqueueAll, Inclusion.followed,
          Inclusion.edgesAt]
      | some record =>
        have edges : Inclusion.edgesAt settings registry exports l =
            Edge.ofRecord settings exports record := by
          rw [Inclusion.edgesAt, found]
        simp only [turn, ofState, Graph.advance, if_neg known, found, foldl_take, foldl_note,
          Graph.enqueueAll, Inclusion.followed, edges, Inclusion.ofUsed, List.filter_append,
          List.flatMap_append, List.filterMap_append, List.filter_cons, List.filter_nil,
          Option.isSome_some, if_true, List.flatMap_cons, List.flatMap_nil, List.append_nil]

theorem iterate_turn (n : Nat) :
    (turn settings registry exports)^[n] (start registry.main) =
      ofState settings registry exports (Inclusion.turns settings registry exports n) := by
  induction n with
  | zero => rfl
  | succ n ih =>
    rw [Function.iterate_succ_apply', ih, turn_ofState, Inclusion.turns, Inclusion.turns,
      Function.iterate_succ_apply']

/-- The loop comes to an end, and there it has noted the make-up of the bundle. -/
theorem exists_turns (settings : Settings) (registry : Registry) (exports : Exports) :
    ∃ n seen, (turn settings registry exports)^[n] (start registry.main) =
      ⟨seen, [], Inclusion.resolve settings registry exports⟩ := by
  have outside : ∀ l, l ∉ registry.locations →
      Inclusion.followed settings registry exports l = [] := fun _ => Inclusion.followed_of_notMem
  obtain ⟨n, ends⟩ :=
    Graph.exists_iterate_advance outside Graph.enqueueAll_nil [] [registry.main]
  refine ⟨n, (Inclusion.turns settings registry exports n).1, ?_⟩
  rw [iterate_turn, Inclusion.turns, ends]
  rfl

end Gathering

/-! ### What is left out -/

namespace Inclusion

/-- A file of a registry keeps another one out: it imports the other one by a path, or, where
externals are taken in, by the name of a module that the other one declares, and the filter leaves
the other one out. -/
def Excludes (settings : Settings) (registry : Registry) (exports : Exports) (l m : Location) :
    Prop :=
  ∃ record, registry.get? l = some record ∧
    ((m ∈ record.relativeImports ∧
        settings.exclude.leavesOut (settings.displayPath m) false = true) ∨
      (settings.externals = true ∧ ∃ name ∈ record.externalImports,
        exports.owner? name = some m ∧
          settings.exclude.leavesOut (settings.displayPath m) true = true))

/-- What an import by name leaves to be listed: where externals are left out, the file that declares
the module, and in any case a module that no file declares. -/
def listed? (settings : Settings) (exports : Exports) (name : Text) : Option Dependency :=
  match exports.owner? name with
  | none => some (.unresolved name)
  | some owner => if settings.externals then none else some (.file owner)

/-- What the imports of the files of a bundle leave to be listed, in the order of the imports. -/
def encounters (settings : Settings) (registry : Registry) (exports : Exports) :
    List Dependency :=
  (resolve settings registry exports).used.flatMap fun l =>
    match registry.get? l with
    | some record => record.externalImports.filterMap (listed? settings exports)
    | none => []

end Inclusion

namespace Edge

variable {settings : Settings} {exports : Exports} {m : Location} {name : Text}

theorem excluded?_ofRelative {file : Location} :
    (ofRelative settings file).excluded? = some m ↔
      file = m ∧ settings.exclude.leavesOut (settings.displayPath m) false = true := by
  unfold ofRelative
  split
  · rename_i left
    simp only [excluded?, Option.some.injEq]
    constructor
    · rintro rfl
      exact ⟨rfl, left⟩
    · exact And.left
  · rename_i kept
    simp only [excluded?, reduceCtorEq, false_iff, not_and]
    rintro rfl
    exact kept

theorem excluded?_ofExternal :
    (ofExternal settings exports name).excluded? = some m ↔
      settings.externals = true ∧ exports.owner? name = some m ∧
        settings.exclude.leavesOut (settings.displayPath m) true = true := by
  unfold ofExternal
  split
  · rename_i off _
    simp [excluded?, off]
  · rename_i off _
    simp [excluded?, off]
  · rename_i unknown
    simp [excluded?, unknown]
  · rename_i owner on known
    rw [on, known]
    split
    · rename_i left
      simp only [excluded?, Option.some.injEq, true_and]
      constructor
      · rintro rfl
        exact ⟨rfl, left⟩
      · exact And.left
    · rename_i kept
      simp only [excluded?, reduceCtorEq, true_and, false_iff, not_and, Option.some.injEq]
      rintro rfl
      exact kept

theorem dependency?_ofExternal_eq (settings : Settings) (exports : Exports) (name : Text) :
    (ofExternal settings exports name).dependency? = Inclusion.listed? settings exports name := by
  unfold ofExternal Inclusion.listed?
  split
  · rename_i off known
    simp [dependency?, off, known]
  · rename_i off unknown
    simp [dependency?, unknown]
  · rename_i on unknown
    simp [dependency?, unknown]
  · rename_i on known
    split
    · simp [dependency?, known]
    · simp [dependency?, known]

end Edge

namespace Inclusion

variable {settings : Settings} {registry : Registry} {exports : Exports} {l m : Location}

/-- The files that the edges of a file keep out. -/
theorem mem_excluded_edgesAt :
    m ∈ (edgesAt settings registry exports l).filterMap Edge.excluded? ↔
      Excludes settings registry exports l m := by
  simp only [edgesAt, Excludes, List.mem_filterMap]
  split
  · rename_i record found
    simp only [Edge.ofRecord, List.mem_append, List.mem_map, or_and_right, exists_or, found,
      Option.some.injEq, exists_eq_left']
    constructor
    · rintro (⟨_, ⟨name, imports, rfl⟩, left⟩ | ⟨_, ⟨file, imports, rfl⟩, left⟩)
      · obtain ⟨on, owned, matched⟩ := Edge.excluded?_ofExternal.1 left
        exact Or.inr ⟨on, name, imports, owned, matched⟩
      · obtain ⟨rfl, matched⟩ := Edge.excluded?_ofRelative.1 left
        exact Or.inl ⟨imports, matched⟩
    · rintro (⟨imports, matched⟩ | ⟨on, name, imports, owned, matched⟩)
      · exact Or.inr ⟨_, ⟨m, imports, rfl⟩, Edge.excluded?_ofRelative.2 ⟨rfl, matched⟩⟩
      · exact Or.inl ⟨_, ⟨name, imports, rfl⟩, Edge.excluded?_ofExternal.2 ⟨on, owned, matched⟩⟩
  · rename_i missing
    simp [missing]

theorem mem_excluded :
    m ∈ (resolve settings registry exports).excluded ↔
      ∃ l ∈ (resolve settings registry exports).used, Excludes settings registry exports l m := by
  rw [resolve, ofUsed]
  dsimp only
  rw [List.mem_eraseDups, List.filterMap_flatMap, List.mem_flatMap]
  simp only [mem_excluded_edgesAt]

/-- Relative imports leave nothing to be listed, so the edges of a file leave what its imports by
name do. -/
theorem dependencies_eq :
    (resolve settings registry exports).dependencies =
      (encounters settings registry exports).eraseDups := by
  have each : ∀ l, (edgesAt settings registry exports l).filterMap Edge.dependency? =
      match registry.get? l with
      | some record => record.externalImports.filterMap (listed? settings exports)
      | none => [] := by
    intro l
    unfold edgesAt
    cases registry.get? l with
    | some record =>
      simp [Edge.ofRecord, Edge.dependency?_ofRelative, Edge.dependency?_ofExternal_eq]
    | none => rfl
  rw [resolve, ofUsed]
  dsimp only
  rw [List.filterMap_flatMap]
  simp only [each]
  rfl

theorem mem_encounters {d : Dependency} :
    d ∈ encounters settings registry exports ↔
      ∃ l ∈ (resolve settings registry exports).used, ∃ record, registry.get? l = some record ∧
        ∃ name ∈ record.externalImports, listed? settings exports name = some d := by
  unfold encounters
  rw [List.mem_flatMap]
  constructor
  · rintro ⟨l, used, member⟩
    split at member
    · rename_i record found
      exact ⟨l, used, record, found, List.mem_filterMap.1 member⟩
    · cases member
  · rintro ⟨l, used, record, found, imports⟩
    refine ⟨l, used, ?_⟩
    rw [found]
    exact List.mem_filterMap.2 imports

/-- A filter that asks only for the path can not both let a file through and leave it out. -/
theorem not_excludes_of_follows {other : Location}
    (uniform : ∀ path, settings.exclude.leavesOut path true = settings.exclude.leavesOut path false)
    (follows : Follows settings registry exports l m) :
    ¬ Excludes settings registry exports other m := by
  have kept : settings.exclude.leavesOut (settings.displayPath m) false = false := by
    obtain ⟨_, _, ⟨_, kept⟩ | ⟨_, _, _, _, kept⟩⟩ := follows
    · exact kept
    · rwa [uniform] at kept
  rintro ⟨_, _, ⟨_, matched⟩ | ⟨_, _, _, _, matched⟩⟩
  · rw [kept] at matched
    cases matched
  · rw [uniform, kept] at matched
    cases matched

end Inclusion

/-- Only a filter that is given as a function can tell imports by name from relative ones. -/
theorem Exclude.leavesOut_uniform {filter : Exclude} (given : ∀ decide, filter ≠ .custom decide)
    (path : Text) : filter.leavesOut path true = filter.leavesOut path false := by
  cases filter with
  | nothing => rfl
  | regex source expr => rfl
  | glob source expr => rfl
  | custom decide => exact absurd rfl (given decide)

/-- What the bundle of a walked registry leaves out. The loop that notes it while it collects files
ends with these notes. The files that are kept out are, each once, those to which an edge of the
bundle leads that the filter matches. The dependencies that are listed are, each once and in the
order in which they are first met, what the imports by name of the bundle leave to be listed. No
file but the main file is both in the bundle and kept out of it, if the filter does not ask how a
file is imported, which only one that is given as a function can do. -/
theorem resolve_omissions {σ : Type} [FileStore σ] (store : σ) (settings : Settings)
    (sources : Sources) (registry : Registry) (exports : Exports)
    (walked : Registry.walk store settings sources = .ok registry)
    (built : Exports.build registry = .ok exports) :
    let inclusion := Inclusion.resolve settings registry exports
    let encounters := Inclusion.encounters settings registry exports
    (∃ turns seen, (Gathering.turn settings registry exports)^[turns]
        (.start settings.mainFile) = ⟨seen, [], inclusion⟩) ∧
      inclusion.excluded.Nodup ∧
      (∀ m, m ∈ inclusion.excluded ↔
        ∃ l ∈ inclusion.used, Inclusion.Excludes settings registry exports l m) ∧
      inclusion.dependencies.Nodup ∧
      (∀ d, d ∈ inclusion.dependencies ↔
        ∃ l ∈ inclusion.used, ∃ record, registry.get? l = some record ∧
          ∃ name ∈ record.externalImports, Inclusion.listed? settings exports name = some d) ∧
      inclusion.dependencies.Pairwise (fun d e => encounters.idxOf d < encounters.idxOf e) ∧
      ((∀ path, settings.exclude.leavesOut path true = settings.exclude.leavesOut path false) →
        ∀ l ∈ inclusion.used, l ∈ inclusion.excluded → l = settings.mainFile) ∧
      ((∀ decide, settings.exclude ≠ .custom decide) →
        ∀ l ∈ inclusion.used, l ∈ inclusion.excluded → l = settings.mainFile) := by
  have made := Registry.walked_of_walk walked
  have apart : (∀ path, settings.exclude.leavesOut path true =
      settings.exclude.leavesOut path false) →
      ∀ l ∈ (Inclusion.resolve settings registry exports).used,
        l ∈ (Inclusion.resolve settings registry exports).excluded → l = settings.mainFile := by
    intro uniform l used left
    obtain ⟨other, _, excludes⟩ := Inclusion.mem_excluded.1 left
    obtain ⟨n, reached⟩ := ((Inclusion.breadthFirst_used made built).mem_iff l).1 used
    cases reached with
    | start => exact made.main
    | step _ follows =>
      exact absurd excludes (Inclusion.not_excludes_of_follows uniform follows)
  refine ⟨?_, nodup_eraseDups _, fun m => Inclusion.mem_excluded, nodup_eraseDups _, ?_, ?_, apart,
    fun given => apart (Exclude.leavesOut_uniform given)⟩
  · rw [← made.main]
    exact Gathering.exists_turns settings registry exports
  · intro d
    rw [Inclusion.dependencies_eq, List.mem_eraseDups]
    exact Inclusion.mem_encounters
  · rw [Inclusion.dependencies_eq]
    exact pairwise_eraseDups _

/-! ### A filter that keeps a file out -/

namespace Sample

/-- The settings of the sample with a filter that leaves the other file out. -/
def filtered : Settings :=
  { settings with exclude := .custom fun path _ => path = "b.d.ts".toList }

/-- The other file is imported in two ways and kept out by both. -/
def filteredResult : Result where
  emitted := true
  outputPath := filtered.outFile
  content := text [
    "// Generated by dts-bundle v0.1.0", "// Dependencies for this module:", "//   f", "",
    "declare module 'l' \x7b", "    import b = require('__l/b');",
    "    import e = require('e');", "    import f = require('f');", "\x7d", "", ""]
  usedFiles := [main]
  excludedFiles := [other]
  externalDependencies := [['f']]
  missingFiles := []

def filteredCourse : Bundle.Course store filtered where
  files := [main, other]
  walkTurns := 2
  used := [main]
  usedTurns := 1
  result := filteredResult
  main := by decide +kernel
  walks := by decide +kernel
  computes := by decide +kernel

end Sample

theorem resolve_omissions_sample :
    ∃ registry exports,
      Registry.walk Sample.store Sample.filtered
        (Bundle.sources Sample.store Sample.filtered) = .ok registry ∧
      Exports.build registry = .ok exports ∧
      (∀ path, Sample.filtered.exclude.leavesOut path true =
        Sample.filtered.exclude.leavesOut path false) ∧
      (Inclusion.resolve Sample.filtered registry exports).excluded = [Sample.other] ∧
      Inclusion.Excludes Sample.filtered registry exports Sample.main Sample.other ∧
      Sample.other ∉ (Inclusion.resolve Sample.filtered registry exports).used := by
  obtain ⟨p, made, same⟩ := Sample.filteredCourse.exists_plan
  have planned := Bundle.planned_of_plan made
  have walked := planned.walked
  rw [planned.sources] at walked
  have used : p.inclusion.used = [Sample.main] := congrArg Result.usedFiles same
  have left : p.inclusion.excluded = [Sample.other] := congrArg Result.excludedFiles same
  rw [planned.inclusion] at used left
  obtain ⟨_, _, excluded, _, _, _, apart, _⟩ := resolve_omissions Sample.store Sample.filtered _
    p.registry p.exports walked planned.built
  have listed : Sample.other ∈ (Inclusion.resolve Sample.filtered p.registry p.exports).excluded := by
    rw [left]
    exact List.mem_singleton_self _
  refine ⟨p.registry, p.exports, walked, planned.built, fun _ => rfl, left, ?_, ?_⟩
  · obtain ⟨l, inside, excludes⟩ := (excluded Sample.other).1 listed
    rw [used] at inside
    rwa [List.mem_singleton.1 inside] at excludes
  · intro inside
    have main : Sample.other = Sample.main := apart (fun _ => rfl) _ inside listed
    revert main
    decide

end TypingBundle
