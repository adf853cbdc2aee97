import TypingBundle.Proofs.Bundle.Effect
import TypingBundle.Proofs.Inclusion

/-!
Runs worked out turn by turn. A plan depends on its two loops only through the files that they
visit. Where these are known, the rest of a plan is computed without a loop.

Main statements: `Course.exists_plan` and `Course.exists_run`.
-/

namespace TypingBundle

variable {σ : Type} [FileStore σ]

namespace Registry

/-- The files that were visited and those that wait after some turns of a walk. -/
def turns (store : σ) (settings : Settings) (sources : Sources) (n : Nat) :
    List Location × List Location :=
  (Graph.advance (successors store settings sources) Graph.enqueueNew)^[n] ([], [settings.mainFile])

theorem discovered_of_turns {store : σ} {settings : Settings} {sources : Sources} {n : Nat}
    {files : List Location} (ends : turns store settings sources n = (files, [])) :
    discovered store settings sources = files :=
  Graph.traverse_eq_of_iterate (fun _ => successors_of_notMem) Graph.enqueueNew_nil ends

end Registry

/-- The files of a bundle and those that wait after some turns of the loop that collects them. -/
def Inclusion.turns (settings : Settings) (registry : Registry) (exports : Exports) (n : Nat) :
    List Location × List Location :=
  (Graph.advance (followed settings registry exports) Graph.enqueueAll)^[n] ([], [registry.main])

theorem Inclusion.used_of_turns {store : σ} {settings : Settings} {sources : Sources}
    {registry : Registry} {exports : Exports} {n : Nat} {used : List Location}
    (walked : Registry.Walked store settings sources registry)
    (built : Exports.build registry = .ok exports)
    (ends : turns settings registry exports n = (used, [])) :
    (resolve settings registry exports).used = used := by
  rw [used_eq_traverse walked built]
  exact Graph.traverse_eq_of_iterate (fun _ => followed_of_notMem) Graph.enqueueAll_nil ends

namespace Bundle

variable {store : σ} {settings : Settings}

/-- The plan of a run whose walk visits some files and whose bundle has some of them. -/
def planOf (store : σ) (settings : Settings) (files used : List Location) :
    Except BundleError Plan := do
  let header ← header store settings
  let sources := sources store settings
  let registry ← Registry.ofFiles store settings sources files
  let exports ← Exports.build registry
  let inclusion := Inclusion.ofUsed settings registry exports used
  let renamed := Rename.registry settings exports inclusion registry
  return {
    settings, sources, registry, exports, inclusion, renamed
    content := Output.content settings renamed inclusion header }

/-- A run worked out: the files that its walk visits and those that it collects for the bundle, the
turns after which neither loop has a file waiting, and the result that is computed from these. -/
structure Course (store : σ) (settings : Settings) where
  files : List Location
  walkTurns : Nat
  used : List Location
  usedTurns : Nat
  result : Result
  main : FileStore.isFile store settings.mainFile = true
  walks : Registry.turns store settings (sources store settings) walkTurns = (files, [])
  computes : (planOf store settings files used).map (fun p =>
    (p.result, Inclusion.turns settings p.registry p.exports usedTurns)) = .ok (result, used, [])

namespace Course

theorem locations {registry : Registry} (course : Course store settings)
    (walked : Registry.walk store settings (sources store settings) = .ok registry) :
    registry.locations = course.files := by
  rw [(Registry.walked_of_walk walked).locations, Registry.discovered_of_turns course.walks]

/-- A run that is worked out has a plan with its result. -/
theorem exists_plan (course : Course store settings) :
    ∃ p, plan store settings = .ok p ∧ p.result = course.result := by
  obtain ⟨p, computed, same⟩ := except_map_eq_ok.1 course.computes
  obtain ⟨result_eq, collects⟩ := Prod.mk.inj same
  refine ⟨p, ?_, result_eq⟩
  obtain ⟨header, headed, computed⟩ := except_bind_eq_ok.1 computed
  obtain ⟨registry, registered, computed⟩ := except_bind_eq_ok.1 computed
  obtain ⟨exports, built, computed⟩ := except_bind_eq_ok.1 computed
  cases computed
  have walked : Registry.walk store settings (sources store settings) = .ok registry := by
    rw [Registry.walk, Registry.discovered_of_turns course.walks, registered]
  have complete : (Inclusion.resolve settings registry exports).used = course.used :=
    Inclusion.used_of_turns (Registry.walked_of_walk walked) built collects
  have inclusion : Inclusion.resolve settings registry exports =
      Inclusion.ofUsed settings registry exports course.used := by
    rw [← complete]
    rfl
  exact plan_of_planned
    ⟨rfl, course.main, rfl, walked, built, inclusion.symm, rfl, header, headed, rfl⟩

theorem exists_run {store : MemoryStore} {options : Options} {cwd : Path}
    (course : Course store settings) (resolved : options.resolve cwd = .ok settings) :
    ∃ after p, run store options cwd = (after, .ok course.result) ∧
      plan store settings = .ok p ∧ p.result = course.result := by
  obtain ⟨p, made, same⟩ := course.exists_plan
  have outcome : (run store options cwd).2 = .ok course.result := by
    rw [run_of_resolve resolved, runSettings_memory, made, ← same]
    rfl
  exact ⟨(run store options cwd).1, p, Prod.ext rfl outcome, made, same⟩

end Course
end Bundle

/-! ### The run of a bundle of two files -/

namespace Sample

def root : Path := ⟨['/']⟩

/-- The directory of the two files. -/
def folder : Location := ⟨true, main.names.dropLast⟩

/-- Options that come down to the settings of the sample. -/
def options : Options where
  main := some main.toPath
  name := some ['l']
  externals := some true

theorem resolve_options : options.resolve root = .ok settings := rfl

/-- Options with the same files that ask for no header and take in no externals. -/
def bareOptions : Options where
  main := some main.toPath
  name := some ['l']
  headerPath := some ⟨"none".toList⟩

def bareSettings : Settings := { settings with externals := false, header := .suppressed }

theorem resolve_bareOptions : bareOptions.resolve root = .ok bareSettings := rfl

/-- A text of some lines. -/
def text (lines : List String) : Text := Text.join ['\n'] (lines.map String.toList)

/-- What a run of the sample gives. -/
def result : Result where
  emitted := true
  outputPath := settings.outFile
  content := text [
    "// Generated by dts-bundle v0.1.0", "// Dependencies for this module:", "//   f", "",
    "declare module 'l' \x7b", "    import b = require('__l/b');",
    "    import e = require('__l/__/e');", "    import f = require('f');", "\x7d", "",
    "declare module '__l/b' \x7b", "    import m = require('l');", "    module '__l/__/e' \x7b",
    "\x7d", "", ""]
  usedFiles := [main, other]
  excludedFiles := []
  externalDependencies := [['f']]
  missingFiles := []

def course : Bundle.Course store settings where
  files := [main, other]
  walkTurns := 2
  used := [main, other]
  usedTurns := 4
  result := result
  main := by decide +kernel
  walks := by decide +kernel
  computes := by decide +kernel

end Sample
end TypingBundle
