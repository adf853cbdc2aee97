import TypingBundle.Options.Resolve
import TypingBundle.Proofs.Outcome

/-!
When options come down to settings, and to which. Three faults are looked for, one after the other,
and options without them always have settings.

Main statement: `resolve_cases`.
-/

namespace TypingBundle

/-- An option that is not given, or given as an empty text. -/
def Options.Missing (value : Option Text) : Prop := value = none ∨ value = some []

/-- How the places in settings come from options that are read in a working directory. -/
structure Options.Resolved (options : Options) (cwd : Path) (settings : Settings) : Prop where
  mainFile : ∃ main, options.main = some main ∧ settings.mainFile = cwd.locate main
  baseDir : settings.baseDir = Options.baseDirOf options.baseDir settings.mainFile cwd
  outFile : ∃ out, settings.outFile = Options.outFile out settings.baseDir cwd
  header : settings.header = Header.ofOptions options.headerPath options.headerText cwd

namespace Options

variable {value : Option Text} {text : Text} {options : Options} {cwd : Path} {settings : Settings}

theorem required_of_missing (option : String) (missing : Missing value) :
    required option value = .error (.missingOption option.toList) := by
  rcases missing with rfl | rfl
  · rfl
  · rfl

/-- An option that is not missing is what is required. -/
theorem exists_required (option : String) (given : ¬ Missing value) :
    ∃ text, value = some text ∧ required option value = .ok text := by
  rcases value with _ | _ | ⟨c, rest⟩
  · exact absurd (Or.inl rfl) given
  · exact absurd (Or.inr rfl) given
  · exact ⟨c :: rest, rfl, rfl⟩

/-- All that can become of options: one of three errors, each where the faults before it are absent,
or settings. -/
theorem resolve_cases (options : Options) (cwd : Path) :
    (Missing (options.main.map Path.text) ∧
        options.resolve cwd = .error (.missingOption "main".toList)) ∨
      ¬ Missing (options.main.map Path.text) ∧
        ((Missing options.name ∧ options.resolve cwd = .error (.missingOption "name".toList)) ∨
          ¬ Missing options.name ∧
            ((options.separator = some [] ∧ options.resolve cwd =
                .error (.invalidOption "separator".toList "must have non-zero length".toList)) ∨
              options.separator ≠ some [] ∧
                ∃ settings, options.resolve cwd = .ok settings ∧
                  Resolved options cwd settings)) := by
  by_cases noMain : Missing (options.main.map Path.text)
  · refine Or.inl ⟨noMain, ?_⟩
    rw [resolve, required_of_missing "main" noMain]
    rfl
  obtain ⟨main, mainGiven, requiredMain⟩ := exists_required "main" noMain
  refine Or.inr ⟨noMain, ?_⟩
  by_cases noName : Missing options.name
  · refine Or.inl ⟨noName, ?_⟩
    rw [resolve, requiredMain, required_of_missing "name" noName]
    rfl
  obtain ⟨name, nameGiven, requiredName⟩ := exists_required "name" noName
  refine Or.inr ⟨noName, ?_⟩
  by_cases empty : options.separator = some []
  · refine Or.inl ⟨empty, ?_⟩
    rw [resolve, requiredMain, requiredName, empty]
    rfl
  refine Or.inr ⟨empty, ?_⟩
  have separates : options.separator.getD ['/'] ≠ [] := by
    cases given : options.separator with
    | none => simp
    | some separator =>
      rintro rfl
      exact empty given
  obtain ⟨path, pathGiven, rfl⟩ := Option.map_eq_some_iff.1 mainGiven
  rw [resolve, requiredMain, requiredName]
  simp only [bind, Except.bind, if_neg separates]
  exact ⟨_, rfl, ⟨path, pathGiven, rfl⟩, rfl, ⟨_, rfl⟩, rfl⟩

/-- Options come down to settings exactly if they have none of the three faults. -/
theorem exists_resolve_iff :
    (∃ settings, options.resolve cwd = .ok settings) ↔
      ¬ Missing (options.main.map Path.text) ∧ ¬ Missing options.name ∧
        options.separator ≠ some [] := by
  rcases resolve_cases options cwd with
    ⟨fault, failed⟩ | ⟨main, ⟨fault, failed⟩ | ⟨name, ⟨fault, failed⟩ | ⟨separates, made⟩⟩⟩
  · simp [failed, fault]
  · simp [failed, fault]
  · simp [failed, fault]
  · obtain ⟨settings, made, _⟩ := made
    exact ⟨fun _ => ⟨main, name, separates⟩, fun _ => ⟨settings, made⟩⟩

/-- The settings of options are made of the parts of the options. -/
theorem resolved_of_resolve (resolved : options.resolve cwd = .ok settings) :
    Resolved options cwd settings := by
  rcases resolve_cases options cwd with
    ⟨_, failed⟩ | ⟨_, ⟨_, failed⟩ | ⟨_, ⟨_, failed⟩ | ⟨_, others, made, parts⟩⟩⟩
  · rw [failed] at resolved
    cases resolved
  · rw [failed] at resolved
    cases resolved
  · rw [failed] at resolved
    cases resolved
  · rw [made] at resolved
    cases resolved
    exact parts

end Options
end TypingBundle
