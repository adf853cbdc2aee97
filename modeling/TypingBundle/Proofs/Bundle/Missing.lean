import TypingBundle.Proofs.Bundle.Turns
import TypingBundle.Proofs.Options.Resolve

/-!
Files that are named and do not exist. A run lists them, and they may keep it from writing; what
it would have written is the same either way.

Main statement: `missingFiles_run`.
-/

namespace TypingBundle

/-! ### Writing in spite of missing files -/

/-- Options with other answers to missing files. -/
def Options.withEmission (options : Options) (included other : Option Bool) : Options :=
  { options with emitIfIncludedMissing := included, emitIfOtherMissing := other }

/-- Settings with other answers to missing files. -/
def Settings.withEmission (settings : Settings) (included other : Bool) : Settings :=
  { settings with emitIfIncludedMissing := included, emitIfOtherMissing := other }

/-- The answers to missing files decide two settings and nothing else, and both are yes unless
said otherwise. -/
theorem Options.resolve_withEmission (options : Options) (included other : Option Bool)
    (cwd : Path) :
    (options.withEmission included other).resolve cwd =
      (options.resolve cwd).map (·.withEmission (included.getD true) (other.getD true)) := by
  unfold Options.withEmission Options.resolve
  cases Options.required "main" (options.main.map Path.text) with
  | error e => rfl
  | ok main =>
    cases Options.required "name" options.name with
    | error e => rfl
    | ok name =>
      by_cases empty : options.separator.getD ['/'] = []
      · simp only [bind, Except.bind, if_pos empty]
        rfl
      · simp only [bind, Except.bind, if_neg empty]
        rfl

/-- A missing file keeps a bundle from being written only where the options say so. -/
theorem Options.emission_of_resolve {options : Options} {cwd : Path} {settings : Settings}
    (resolved : options.resolve cwd = .ok settings) :
    (settings.emitIfIncludedMissing = false ↔ options.emitIfIncludedMissing = some false) ∧
      (settings.emitIfOtherMissing = false ↔ options.emitIfOtherMissing = some false) := by
  have own := options.resolve_withEmission options.emitIfIncludedMissing
    options.emitIfOtherMissing cwd
  have unchanged : options.withEmission options.emitIfIncludedMissing
    options.emitIfOtherMissing = options := rfl
  rw [unchanged, resolved] at own
  rw [Except.ok.inj own]
  simp [Settings.withEmission, Option.getD_eq_iff]

section

variable {σ : Type} [FileStore σ] {store : σ} {settings : Settings} {p : Plan}

/-- Nothing that comes before the writing looks at the answers to missing files. -/
theorem Bundle.plan_withEmission (planned : Bundle.plan store settings = .ok p)
    (included other : Bool) :
    Bundle.plan store (settings.withEmission included other) =
      .ok { p with settings := p.settings.withEmission included other } := by
  have parts := Bundle.planned_of_plan planned
  rw [parts.settings_eq]
  exact Bundle.plan_of_planned ⟨rfl, parts.main, parts.sources, parts.walked, parts.built,
    parts.inclusion, parts.renamed, parts.content⟩

/-- With other answers to missing files, a run in memory gives the same result, save whether the
bundle was written. -/
theorem Bundle.exists_run_withEmission {store : MemoryStore} {options : Options} {cwd : Path}
    (resolved : options.resolve cwd = .ok settings) (made : Bundle.plan store settings = .ok p)
    (included other : Option Bool) :
    ∃ after emitted, Bundle.run store (options.withEmission included other) cwd =
      (after, .ok { p.result with emitted }) := by
  let answered := settings.withEmission (included.getD true) (other.getD true)
  have resolvedOther : (options.withEmission included other).resolve cwd = .ok answered := by
    rw [Options.resolve_withEmission, resolved]
    rfl
  have outcome : (Bundle.runSettings store answered).2 = .ok { p.result with
      emitted := Plan.emits { p with
        settings := p.settings.withEmission (included.getD true) (other.getD true) } } := by
    rw [Bundle.runSettings_memory, Bundle.plan_withEmission made]
    rfl
  rw [Bundle.run_of_resolve resolvedOther]
  exact ⟨_, _, Prod.ext rfl outcome⟩

/-! ### The list of missing files -/

theorem Record.fileExists_of_parse {sources : Sources} {file : Path} {record : Record}
    (parsed : Record.parse store settings sources file = .ok record) :
    record.fileExists = FileStore.isFile store file := by
  unfold Record.parse at parsed
  cases present : FileStore.isFile store file with
  | false =>
    rw [present] at parsed
    cases parsed
    rfl
  | true =>
    rw [present, if_pos rfl] at parsed
    split at parsed
    · cases parsed
      rfl
    · cases parsed

/-- Of the files that were discovered, those that are missing are listed, in the same order. -/
theorem Plan.missing_of_walked {sources : Sources} {registry : Registry}
    (walked : Registry.Walked store settings sources registry) :
    Plan.missing registry = (Registry.discovered store settings sources).filter
      fun l : Location => !FileStore.isFile store l := by
  rw [← walked.locations, Plan.missing, Registry.locations, List.filter_map]
  congr 1
  apply List.filter_congr
  intro entry listed
  have exists_iff := Record.fileExists_of_parse (walked.parsed entry listed)
  simp only [exists_iff, Function.comp_apply]

end

/-- A bundle is not written where a file is missing that is forbidden to be. -/
theorem Plan.emits_eq_false_iff {p : Plan} :
    p.emits = false ↔
      ((∃ l ∈ Plan.missing p.registry, l ∈ p.inclusion.used) ∧
          p.settings.emitIfIncludedMissing = false) ∨
        ((∃ l ∈ Plan.missing p.registry, l ∉ p.inclusion.used) ∧
          p.settings.emitIfOtherMissing = false) := by
  simp only [Plan.emits, Bool.not_eq_false', Bool.or_eq_true, Bool.and_eq_true, List.any_eq_true,
    Bool.not_eq_true', Inclusion.isUsed, decide_eq_false_iff_not, decide_eq_true_eq]

/-- The files that are named and do not exist. A run in memory lists each file that the main file
leads to and that is not in the store, once and in the order of discovery. The bundle is not written
if and only if one of them is forbidden to be missing: as a file of the bundle or as another file.
With other answers to missing files, all of the result but whether it was written is the same. -/
theorem missingFiles_run (store : MemoryStore) (options : Options) (cwd : Path)
    (after : MemoryStore) (result : Result)
    (ran : Bundle.run store options cwd = (after, .ok result)) :
    ∃ settings, options.resolve cwd = .ok settings ∧
      Graph.BreadthFirst (Registry.Names store settings (Bundle.sources store settings))
        settings.mainFile (Registry.discovered store settings (Bundle.sources store settings)) ∧
      result.missingFiles =
        (Registry.discovered store settings (Bundle.sources store settings)).filter
          (fun l => (store.textAt? l).isNone) ∧
      result.missingFiles.Nodup ∧
      (∀ l, l ∈ result.missingFiles ↔
        (∃ n, Graph.Reaches (Registry.Names store settings (Bundle.sources store settings))
          settings.mainFile n l) ∧ store.textAt? l = none) ∧
      (result.emitted = false ↔
        ((∃ l ∈ result.missingFiles, l ∈ result.usedFiles) ∧
            options.emitIfIncludedMissing = some false) ∨
          ((∃ l ∈ result.missingFiles, l ∉ result.usedFiles) ∧
            options.emitIfOtherMissing = some false)) ∧
      ∀ included other, ∃ afterwards emitted,
        Bundle.run store (options.withEmission included other) cwd =
          (afterwards, .ok { result with emitted }) := by
  obtain ⟨settings, p, resolved, made, rfl⟩ := Bundle.exists_plan_of_run ran
  have planned := Bundle.planned_of_plan made
  have walked := Registry.walked_of_walk planned.walked
  rw [planned.sources] at walked
  have order := @Registry.breadthFirst_discovered _ _ store settings (Bundle.sources store settings)
  have listed : p.result.missingFiles =
      (Registry.discovered store settings (Bundle.sources store settings)).filter
        (fun l => (store.textAt? l).isNone) := by
    rw [show p.result.missingFiles = Plan.missing p.registry from rfl,
      Plan.missing_of_walked walked]
    simp [FileStore.isFile]
  refine ⟨settings, resolved, order, listed, ?_, ?_, ?_, ?_⟩
  · rw [listed]
    exact order.nodup.filter _
  · intro l
    rw [listed, List.mem_filter, order.mem_iff, Option.isNone_iff_eq_none]
  · obtain ⟨included, other⟩ := Options.emission_of_resolve resolved
    have forbids := @Plan.emits_eq_false_iff p
    rw [planned.settings_eq, included, other] at forbids
    exact forbids
  · exact Bundle.exists_run_withEmission resolved made

namespace Sample

/-- A file that is imported and does not exist. -/
def imported : Location := folder.child ⟨"g.d.ts".toList, rfl⟩

/-- A file that is named by a directive and does not exist. -/
def referenced : Location := folder.child ⟨"r.d.ts".toList, rfl⟩

/-- A main file that names two files, neither of which exists. -/
def incomplete : MemoryStore := .ofFiles [
  (main, text ["import g = require('./g');", "/// <reference path='r.d.ts' />"])]

/-- Only a file of the bundle may be missing. -/
def strictOptions : Options := bareOptions.withEmission none (some false)

def strictSettings : Settings := bareSettings.withEmission true false

theorem resolve_strictOptions : strictOptions.resolve root = .ok strictSettings := rfl

def incompleteResult : Result where
  emitted := false
  outputPath := settings.outFile
  content := text [
    "", "declare module 'l' \x7b", "    import g = require('__l/g');", "\x7d", "", "", "", ""]
  usedFiles := [main, imported]
  excludedFiles := []
  externalDependencies := []
  missingFiles := [referenced, imported]

def incompleteCourse : Bundle.Course incomplete strictSettings where
  files := [main, referenced, imported]
  walkTurns := 3
  used := [main, imported]
  usedTurns := 2
  result := incompleteResult
  main := by decide +kernel
  walks := by decide +kernel
  computes := by decide +kernel

end Sample

theorem missingFiles_run_incomplete :
    ∃ after result, Bundle.run Sample.incomplete Sample.strictOptions Sample.root =
        (after, .ok result) ∧
      result.missingFiles = [Sample.referenced, Sample.imported] ∧
      result.usedFiles = [Sample.main, Sample.imported] ∧ result.emitted = false ∧
      ∃ afterwards emitted, Bundle.run Sample.incomplete Sample.bareOptions Sample.root =
        (afterwards, .ok { result with emitted }) := by
  obtain ⟨after, p, ran, _⟩ := Sample.incompleteCourse.exists_run Sample.resolve_strictOptions
  obtain ⟨settings, _, _, _, _, _, emitted_iff, answered⟩ :=
    missingFiles_run Sample.incomplete Sample.strictOptions Sample.root after _ ran
  refine ⟨after, _, ran, rfl, rfl, ?_, answered none none⟩
  refine emitted_iff.2 (Or.inr ⟨⟨Sample.referenced, ?_, ?_⟩, rfl⟩)
  · exact List.mem_cons_self
  · decide +kernel

end TypingBundle
