import TypingBundle.Proofs.Bundle.Effect
import TypingBundle.Proofs.Exports
import TypingBundle.Proofs.Options.Resolve

/-!
When a run with files in memory fails. There are six kinds of faults, each told from the options and
the files alone, and they are looked for in a fixed order. A run without faults gives a bundle,
whatever is written in the files and wherever they lead.

Main statement: `run_fault`.
-/

namespace TypingBundle

/-- What can be wrong with options and files. -/
inductive Fault where
  | mainMissing
  | nameMissing
  | separatorEmpty
  /-- The main file does not exist. -/
  | mainAbsent (l : Location)
  /-- The header file does not exist. -/
  | headerAbsent (l : Location)
  /-- Two files declare the same ambient module. -/
  | moduleTwice (name : Text) (first second : Location)

/-- A file that the main file leads to, through reference directives and relative imports, declares
an ambient module. -/
def Registry.Declares {σ : Type} [FileStore σ] (store : σ) (settings : Settings) (sources : Sources)
    (l : Location) (name : Text) : Prop :=
  (∃ n, Graph.Reaches (Names store settings sources) settings.mainFile n l) ∧
    ∃ record, Record.parse store settings sources l = .ok record ∧ name ∈ record.declaredModules

namespace Fault

/-- The error that tells of a fault. -/
def error : Fault → BundleError
  | mainMissing => .missingOption "main".toList
  | nameMissing => .missingOption "name".toList
  | separatorEmpty => .invalidOption "separator".toList "must have non-zero length".toList
  | mainAbsent l => .mainNotFound l
  | headerAbsent l => .header l (.noSuchFile l)
  | moduleTwice name first second => .duplicateExport name first second

/-- The order in which faults are looked for. -/
def rank : Fault → Nat
  | mainMissing => 0
  | nameMissing => 1
  | separatorEmpty => 2
  | mainAbsent _ => 3
  | headerAbsent _ => 4
  | moduleTwice _ _ _ => 5

/-- Whether settings and files have a fault. -/
def PresentIn (store : MemoryStore) (settings : Settings) : Fault → Prop
  | mainAbsent l => settings.mainFile = l ∧ store.textAt? l = none
  | headerAbsent l => settings.header = .file l ∧ store.textAt? l = none
  | moduleTwice name first second => first ≠ second ∧ ∀ l ∈ [first, second],
      Registry.Declares store settings (Bundle.sources store settings) l name
  | _ => False

/-- Whether options and files have a fault. What is wrong with files shows only under the settings
that the options come down to. -/
def Present (store : MemoryStore) (options : Options) (cwd : Path) : Fault → Prop
  | mainMissing => Options.Missing (options.main.map Path.text)
  | nameMissing => Options.Missing options.name
  | separatorEmpty => options.separator = some []
  | fault => ∃ settings, options.resolve cwd = .ok settings ∧ fault.PresentIn store settings

/-- A fault before which no other one is found. -/
def IsFirst (present : Fault → Prop) (fault : Fault) : Prop :=
  present fault ∧ ∀ other, present other → fault.rank ≤ other.rank

theorem three_le_rank {store : MemoryStore} {settings : Settings} {fault : Fault}
    (present : fault.PresentIn store settings) : 3 ≤ fault.rank := by
  cases fault with
  | mainMissing => cases present
  | nameMissing => cases present
  | separatorEmpty => cases present
  | mainAbsent => exact Nat.le_refl 3
  | headerAbsent => exact Nat.le_succ 3
  | moduleTwice => exact Nat.le_add_right 3 2

end Fault

/-! ### Plans -/

/-- In a walked registry, declarations are those of the files that are reached. -/
theorem Registry.Walked.mem_declarations {σ : Type} [FileStore σ] {store : σ} {settings : Settings}
    {sources : Sources} {registry : Registry} {name : Text} {l : Location}
    (walked : Walked store settings sources registry) :
    (name, l) ∈ Exports.declarations registry ↔ Declares store settings sources l name := by
  rw [Exports.mem_declarations, Declares, ← walked.main, ← walked.breadthFirst.mem_iff]
  constructor
  · rintro ⟨record, listed, declares⟩
    exact ⟨List.mem_map_of_mem listed, record, walked.parsed _ listed, declares⟩
  · rintro ⟨member, record, parsed, declares⟩
    exact ⟨record, mem_of_get? (walked.get?_eq_some_iff.2 ⟨member, parsed⟩), declares⟩

namespace Bundle

variable {store : MemoryStore} {settings : Settings}

/-- The header of a run can be had unless it is to be read from a file that does not exist. -/
theorem header_cases (store : MemoryStore) (settings : Settings) :
    (∃ l, settings.header = .file l ∧ store.textAt? l = none ∧
        header store settings = .error (.header l (.noSuchFile l))) ∨
      (∀ l, settings.header = .file l → store.textAt? l ≠ none) ∧
        ∃ text, header store settings = .ok text := by
  unfold header
  cases given : settings.header with
  | generated => exact Or.inr ⟨by simp, _, rfl⟩
  | suppressed => exact Or.inr ⟨by simp, _, rfl⟩
  | text text => exact Or.inr ⟨by simp, _, rfl⟩
  | file l =>
    cases found : store.textAt? l with
    | none => exact Or.inl ⟨l, rfl, found, by simp [FileStore.read, found]⟩
    | some text =>
      refine Or.inr ⟨?_, some (Header.comment text), by simp [FileStore.read, found]⟩
      rintro _ ⟨⟩
      simp [found]

theorem plan_of_main_absent (absent : store.textAt? settings.mainFile = none) :
    plan store settings = .error (.mainNotFound settings.mainFile) := by
  have missing : FileStore.isFile store settings.mainFile = false := by
    simp [FileStore.isFile, absent]
  rw [plan, missing]
  rfl

/-- All that can become of settings: a plan where they have no fault, or else the error of the
first. -/
theorem plan_cases (store : MemoryStore) (settings : Settings) :
    ((∃ p, plan store settings = .ok p) ∧ ∀ fault : Fault, ¬ fault.PresentIn store settings) ∨
      ∃ fault, Fault.IsFirst (Fault.PresentIn store settings) fault ∧
        plan store settings = .error fault.error := by
  -- The checks are gone through in the order of the ranks, so each case knows those before it.
  cases main : store.textAt? settings.mainFile with
  | none =>
    exact Or.inr ⟨.mainAbsent settings.mainFile, ⟨⟨rfl, main⟩, fun _ => Fault.three_le_rank⟩,
      plan_of_main_absent main⟩
  | some text =>
  have present : FileStore.isFile store settings.mainFile = true := by
    simp [FileStore.isFile, main]
  have mainFound : ∀ l, ¬ (Fault.mainAbsent l).PresentIn store settings := by
    rintro _ ⟨rfl, absent⟩
    cases main.symm.trans absent
  rcases header_cases store settings with ⟨l, given, absent, failed⟩ | ⟨readable, header, headed⟩
  · refine Or.inr ⟨.headerAbsent l, ⟨⟨given, absent⟩, fun other found => ?_⟩, ?_⟩
    · cases other with
      | mainAbsent l => exact absurd found (mainFound l)
      | headerAbsent => exact Nat.le_refl 4
      | moduleTwice => exact Nat.le_succ 4
      | _ => cases found
    · rw [plan, present, failed]
      rfl
  obtain ⟨registry, walks⟩ := store.exists_walk settings (sources store settings)
  have walked := Registry.walked_of_walk walks
  rcases Exports.build_cases registry with
    ⟨exports, built, single⟩ | ⟨name, first, second, failed, different, left, right⟩
  · refine Or.inl ⟨?_, fun fault found => ?_⟩
    · rw [plan, present, headed]
      simp [bind, Except.bind, walks, built, pure, Except.pure]
    · cases fault with
      | mainAbsent l => exact absurd found (mainFound l)
      | headerAbsent l => exact readable l found.1 found.2
      | moduleTwice name first second =>
        obtain ⟨different, declare⟩ := found
        exact different (single name first second
          (walked.mem_declarations.2 (declare first (by simp)))
          (walked.mem_declarations.2 (declare second (by simp))))
      | _ => cases found
  · refine Or.inr ⟨.moduleTwice name first second, ⟨⟨different, ?_⟩, fun other found => ?_⟩, ?_⟩
    · intro l member
      rw [walked.mem_declarations] at left right
      rcases List.mem_pair.1 member with rfl | rfl
      · exact left
      · exact right
    · cases other with
      | mainAbsent l => exact absurd found (mainFound l)
      | headerAbsent l => exact absurd found.2 (readable l found.1)
      | moduleTwice => exact Nat.le_refl 5
      | _ => cases found
    · rw [plan, present, headed]
      simp [bind, Except.bind, walks, failed, Fault.error]

/-! ### Runs -/

theorem run_of_resolve_error {options : Options} {cwd : Path} {e : BundleError}
    (failed : options.resolve cwd = .error e) : (run store options cwd).2 = .error e := by
  rw [run, failed]

/-- Where the options themselves have no fault, the faults are those under their settings. -/
theorem present_iff_presentIn {options : Options} {cwd : Path} {fault : Fault}
    (main : ¬ Options.Missing (options.main.map Path.text)) (name : ¬ Options.Missing options.name)
    (separates : options.separator ≠ some []) (resolved : options.resolve cwd = .ok settings) :
    fault.Present store options cwd ↔ fault.PresentIn store settings := by
  have only : ∀ P : Settings → Prop,
      (∃ other, options.resolve cwd = .ok other ∧ P other) ↔ P settings := by
    intro P
    simp [resolved]
  cases fault with
  | mainMissing => exact iff_of_false main id
  | nameMissing => exact iff_of_false name id
  | separatorEmpty => exact iff_of_false separates id
  | mainAbsent l => exact only _
  | headerAbsent l => exact only _
  | moduleTwice name first second => exact only _

/-- All that can become of a run: a result where there is no fault, or else the error of the
first. -/
theorem run_cases (store : MemoryStore) (options : Options) (cwd : Path) :
    ((∃ result, (run store options cwd).2 = .ok result) ∧
        ∀ fault : Fault, ¬ fault.Present store options cwd) ∨
      ∃ fault, Fault.IsFirst (Fault.Present store options cwd) fault ∧
        (run store options cwd).2 = .error fault.error := by
  rcases Options.resolve_cases options cwd with ⟨noMain, failed⟩ |
    ⟨main, ⟨noName, failed⟩ | ⟨name, ⟨empty, failed⟩ | ⟨separates, settings, resolved, _⟩⟩⟩
  · exact Or.inr ⟨.mainMissing, ⟨noMain, fun _ _ => Nat.zero_le _⟩, run_of_resolve_error failed⟩
  · refine Or.inr ⟨.nameMissing, ⟨noName, fun other found => ?_⟩, run_of_resolve_error failed⟩
    cases other with
    | mainMissing => exact absurd found main
    | _ => simp [Fault.rank]
  · refine Or.inr ⟨.separatorEmpty, ⟨empty, fun other found => ?_⟩, run_of_resolve_error failed⟩
    cases other with
    | mainMissing => exact absurd found main
    | nameMissing => exact absurd found name
    | _ => simp [Fault.rank]
  · have same : Fault.Present store options cwd = Fault.PresentIn store settings := by
      funext fault
      exact propext (present_iff_presentIn main name separates resolved)
    rw [same, run_of_resolve resolved, runSettings_memory]
    rcases plan_cases store settings with ⟨⟨p, planned⟩, none⟩ | ⟨fault, first, failed⟩
    · exact Or.inl ⟨⟨p.result, by rw [planned]; rfl⟩, none⟩
    · exact Or.inr ⟨fault, first, by rw [failed]; rfl⟩

end Bundle

/-- A run with files in memory fails exactly if there is a fault, with the error of the first one in
the order of their ranks. It never fails because of an operation on a file. -/
theorem run_fault (store : MemoryStore) (options : Options) (cwd : Path) :
    let outcome := (Bundle.run store options cwd).2
    ((∃ e, outcome = .error e) ↔ ∃ fault : Fault, fault.Present store options cwd) ∧
      (∀ e, outcome = .error e →
        ∃ fault, Fault.IsFirst (Fault.Present store options cwd) fault ∧ e = fault.error) ∧
      ∀ path cause, outcome ≠ .error (.io path cause) := by
  intro outcome
  rcases Bundle.run_cases store options cwd with ⟨⟨result, ran⟩, none⟩ | ⟨fault, first, failed⟩
  · have succeeds : ∀ e, outcome ≠ .error e := by
      intro e failed
      cases ran.symm.trans failed
    refine ⟨⟨?_, ?_⟩, ?_, fun path cause => succeeds _⟩
    · rintro ⟨e, failed⟩
      exact absurd failed (succeeds e)
    · rintro ⟨fault, present⟩
      exact absurd present (none fault)
    · intro e failed
      exact absurd failed (succeeds e)
  · refine ⟨⟨fun _ => ⟨fault, first.1⟩, fun _ => ⟨_, failed⟩⟩, ?_, ?_⟩
    · intro e other
      cases failed.symm.trans other
      exact ⟨fault, first, rfl⟩
    · intro path cause io
      cases fault <;> cases failed.symm.trans io

end TypingBundle
