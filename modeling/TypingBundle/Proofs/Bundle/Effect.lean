import TypingBundle.Proofs.Bundle.Plan
import TypingBundle.Proofs.Store.Memory

/-!
What a run does to files in memory. It fails before it writes or not at all, and what it writes and
deletes is known file by file.

Main statement: `textAt?_run`.
-/

namespace TypingBundle

namespace Bundle

variable {store : MemoryStore} {settings : Settings}

/-- In memory there is nothing to prepare before a file is written. -/
theorem makeParent_memory (file : Location) : makeParent store file = (store, none) := by
  unfold makeParent
  split
  · rfl
  · split
    · rfl
    · rfl

theorem isRemovable_memory (l : Location) :
    isRemovable store settings l = true ↔
      l ≠ settings.outFile ∧ l.isDeclarationFile = true ∧ (store.textAt? l).isSome = true := by
  simp [isRemovable, FileStore.isFile, and_assoc]

/-- Deleting sources one after the other deletes those that are declaration files, save the output,
and never fails. -/
theorem removeSources_memory (sources : List Location) :
    ∃ after, removeSources settings store (sources.map Location.toPath) = (after, none) ∧
      ∀ l, after.textAt? l =
        if l ∈ sources ∧ l ≠ settings.outFile ∧ l.isDeclarationFile = true then none
        else store.textAt? l := by
  induction sources generalizing store with
  | nil => exact ⟨store, rfl, by simp⟩
  | cons source sources ih =>
    rw [List.map_cons, removeSources]
    by_cases removable : isRemovable store settings source = true
    · obtain ⟨kept, declares, present⟩ := (isRemovable_memory source).1 removable
      obtain ⟨text, found⟩ := Option.isSome_iff_exists.1 present
      have removed : FileStore.remove store source.toPath = .ok (store.erase source) := by
        simp [FileStore.remove, found]
      obtain ⟨after, deletes, lookup⟩ := @ih (store.erase source)
      rw [if_pos removable, removed]
      refine ⟨after, deletes, ?_⟩
      intro l
      rw [lookup, MemoryStore.textAt?_erase, Location.normalize_toPath]
      by_cases same : l = source
      · subst same
        simp [kept, declares]
      · simp [same]
    · -- A source that is passed over is the output, or no declaration file, or not there any more.
      obtain ⟨after, deletes, lookup⟩ := @ih store
      rw [if_neg removable]
      refine ⟨after, deletes, ?_⟩
      intro l
      rw [lookup]
      by_cases same : l = source
      · subst same
        have gone : l ≠ settings.outFile ∧ l.isDeclarationFile = true → store.textAt? l = none := by
          rintro ⟨kept, declares⟩
          by_contra present
          exact removable ((isRemovable_memory l).2
            ⟨kept, declares, Option.isSome_iff_ne_none.2 present⟩)
        by_cases named : l ≠ settings.outFile ∧ l.isDeclarationFile = true
        · simp [named, gone named]
        · simp [named]
      · simp [same]

/-- The files at or below the base directory whose names end like those of declaration files. -/
theorem mem_sources_memory {l : Location} :
    l ∈ FileStore.declarationFiles store settings.baseDir ↔
      (store.textAt? l).isSome = true ∧ l.isUnder settings.baseDir.normalize = true ∧
        l.isDeclarationFile = true := by
  simp only [FileStore.declarationFiles, List.mem_filter, MemoryStore.mem_locations,
    Bool.and_eq_true]

theorem contains_sources_memory {l : Location} :
    (sources store settings).contains l = true ↔
      (store.textAt? l).isSome = true ∧ l.isUnder settings.baseDir.normalize = true ∧
        l.isDeclarationFile = true :=
  contains_sources.trans mem_sources_memory

/-- Where a plan is carried out in memory, it is carried out to its end. -/
theorem commit_memory {p : Plan} (planned : Planned store settings p) (emits : p.emits = true) :
    ∃ after, commit store p = (after, none) ∧
      (settings.removeSource = false → after = store.insert settings.outFile p.content) ∧
      ∀ l, after.textAt? l =
        if l = settings.outFile then some p.content
        else if settings.removeSource = true ∧ l.isUnder settings.baseDir.normalize = true ∧
          l.isDeclarationFile = true then none
        else store.textAt? l := by
  have written : FileStore.write store settings.outFile.toPath p.content =
      .ok (store.insert settings.outFile p.content) := rfl
  unfold commit
  simp only [emits, planned.settings_eq, planned.sources, makeParent_memory, written, Bundle.sources,
    Bool.not_true, Bool.false_eq_true, if_false]
  cases removes : settings.removeSource with
  | false =>
    refine ⟨_, rfl, fun _ => rfl, ?_⟩
    intro l
    simp
  | true =>
    obtain ⟨after, deletes, lookup⟩ := @removeSources_memory
      (store.insert settings.outFile p.content) settings
      (FileStore.declarationFiles store settings.baseDir)
    refine ⟨after, deletes, by simp, ?_⟩
    intro l
    -- Sources are listed before the output is written, and deleted after.
    rw [lookup, MemoryStore.textAt?_insert, Location.normalize_toPath]
    simp only [mem_sources_memory]
    by_cases output : l = settings.outFile
    · simp [output]
    · by_cases present : (store.textAt? l).isSome = true
      · simp [output, present]
      · have absent : store.textAt? l = none := by simpa using present
        simp [output, absent]

theorem runSettings_of_commit {p : Plan} {after : MemoryStore}
    (made : plan store settings = .ok p) (done : commit store p = (after, none)) :
    runSettings store settings = (after, .ok p.result) := by
  rw [runSettings, made]
  simp only [done]

/-- What a run in memory comes to is what was planned: nothing fails after the plan is made. -/
theorem runSettings_memory :
    (runSettings store settings).2 = (plan store settings).map Plan.result := by
  cases made : plan store settings with
  | error e =>
    rw [runSettings, made]
    rfl
  | ok p =>
    cases emits : p.emits with
    | false =>
      have idle : commit store p = (store, none) := by simp [commit, emits]
      rw [runSettings_of_commit made idle]
      rfl
    | true =>
      obtain ⟨after, done, _⟩ := commit_memory (planned_of_plan made) emits
      rw [runSettings_of_commit made done]
      rfl

theorem run_of_resolve {options : Options} {cwd : Path}
    (resolved : options.resolve cwd = .ok settings) :
    run store options cwd = runSettings store settings := by
  rw [run, resolved]

/-- A run in memory with a result had a plan with that result. -/
theorem exists_plan_of_run {options : Options} {cwd : Path} {after : MemoryStore} {result : Result}
    (ran : run store options cwd = (after, .ok result)) :
    ∃ settings p, options.resolve cwd = .ok settings ∧ plan store settings = .ok p ∧
      p.result = result := by
  have outcome : (run store options cwd).2 = .ok result := by rw [ran]
  cases resolved : options.resolve cwd with
  | error e =>
    rw [run, resolved] at outcome
    cases outcome
  | ok settings =>
    rw [run_of_resolve resolved, runSettings_memory] at outcome
    obtain ⟨p, made, same⟩ := except_map_eq_ok.1 outcome
    exact ⟨settings, p, rfl, made, same⟩

/-- A run that writes its bundle and removes nothing only writes the output. -/
theorem run_of_plan {options : Options} {cwd : Path} {p : Plan}
    (resolved : options.resolve cwd = .ok settings) (made : plan store settings = .ok p)
    (emits : p.emits = true) (keeps : settings.removeSource = false) :
    run store options cwd = (store.insert settings.outFile p.content, .ok p.result) := by
  obtain ⟨after, done, whole, _⟩ := commit_memory (planned_of_plan made) emits
  rw [run_of_resolve resolved, runSettings_of_commit made done, whole keeps]

end Bundle

/-- What a run does to files in memory. A run that fails and one that does not write leave every
file as it is. A run that writes puts its content to the output file; where sources are removed, the
declaration files at or below the base directory are gone, save the output; every other file stays
as it is. -/
theorem textAt?_run (store : MemoryStore) (options : Options) (cwd : Path) :
    match Bundle.run store options cwd with
    | (after, .error _) => after = store
    | (after, .ok result) =>
      ∃ settings, options.resolve cwd = .ok settings ∧ result.outputPath = settings.outFile ∧
        (result.emitted = false → after = store) ∧
        (result.emitted = true → settings.removeSource = false →
          after = store.insert settings.outFile result.content) ∧
        (result.emitted = true → ∀ l, after.textAt? l =
          if l = settings.outFile then some result.content
          else if settings.removeSource = true ∧ l.isUnder settings.baseDir.normalize = true ∧
            l.isDeclarationFile = true then none
          else store.textAt? l) := by
  unfold Bundle.run
  cases resolved : options.resolve cwd with
  | error e => rfl
  | ok settings =>
    cases made : Bundle.plan store settings with
    | error e =>
      simp only [Bundle.runSettings, made]
    | ok p =>
      have planned := Bundle.planned_of_plan made
      have output : p.result.outputPath = settings.outFile := by
        rw [← planned.settings_eq]
        rfl
      cases emits : p.emits with
      | false =>
        have emitted : p.result.emitted = false := emits
        have idle : Bundle.commit store p = (store, none) := by
          simp [Bundle.commit, emits]
        dsimp only
        rw [Bundle.runSettings_of_commit made idle]
        exact ⟨settings, rfl, output, fun _ => rfl, by simp [emitted], by simp [emitted]⟩
      | true =>
        have emitted : p.result.emitted = true := emits
        obtain ⟨after, done, whole, lookup⟩ := Bundle.commit_memory planned emits
        dsimp only
        rw [Bundle.runSettings_of_commit made done]
        exact ⟨settings, rfl, output, by simp [emitted], fun _ => whole, fun _ => lookup⟩

end TypingBundle
