import TypingBundle.CommandLine.Merge
import TypingBundle.Proofs.Options.Resolve

/-!
Headers that are asked for both on the command line and in an option file. The two options for
headers are merged each for itself, and only then a path wins over a text. So a path in the file
wins over a text on the command line.

Main statement: `header_commandLine_iff`.
-/

namespace TypingBundle

/-- An option file that says nothing of headers. -/
def OptionFile.withoutHeader (file : OptionFile) : OptionFile :=
  { file with headerPath := none, headerText := none }

namespace Arguments

variable {a : Arguments} {file : OptionFile} {options : Options}

theorem header_of_merge (merged : a.merge file = .ok options) :
    options.headerPath = a.headerPath.or file.headerPath ∧
      options.headerText = a.headerText.or file.headerText := by
  obtain ⟨exclude, _, made⟩ := except_bind_eq_ok.1 merged
  cases made
  exact ⟨rfl, rfl⟩

/-- Without the header options of the file, those of the command line are left, and no other option
changes. -/
theorem merge_withoutHeader (merged : a.merge file = .ok options) :
    a.merge file.withoutHeader =
      .ok { options with headerPath := a.headerPath, headerText := a.headerText } := by
  obtain ⟨exclude, filtered, made⟩ := except_bind_eq_ok.1 merged
  cases made
  have same : excludeOf (a.exclude.or file.withoutHeader.exclude) = .ok exclude := filtered
  unfold merge
  rw [same]
  simp only [OptionFile.withoutHeader, Option.or_none]
  rfl

end Arguments

/-- A path that is given second wins over a text that is given first. -/
theorem Header.ofOptions_or_eq_iff {path other : Option Path} {text otherText : Option Text}
    {cwd : Path} (given : path.isSome = true ∨ text.isSome = true) :
    ofOptions (path.or other) (text.or otherText) cwd = ofOptions path text cwd ↔
      path.isSome = true ∨ other = none := by
  cases path with
  | some path => simp [ofOptions]
  | none =>
    obtain ⟨text, rfl⟩ := Option.isSome_iff_exists.1 (given.resolve_left (by simp))
    cases other with
    | none => simp [ofOptions]
    | some other =>
      simp only [Option.none_or, ofOptions]
      split
      · simp
      · simp

/-- Where the command line asks for a header, the option file has no say in it exactly if the
command line gives a path or the file gives none. Otherwise the path of the file decides. -/
theorem header_commandLine_iff (a : Arguments) (file : OptionFile) (cwd : Path) (options : Options)
    (settings : Settings) (given : a.headerPath.isSome = true ∨ a.headerText.isSome = true)
    (merged : a.merge file = .ok options) (resolved : options.resolve cwd = .ok settings) :
    ∃ alone settingsAlone, a.merge file.withoutHeader = .ok alone ∧
      alone.resolve cwd = .ok settingsAlone ∧
      settingsAlone.header = Header.ofOptions a.headerPath a.headerText cwd ∧
      (settings.header = settingsAlone.header ↔
        a.headerPath.isSome = true ∨ file.headerPath = none) ∧
      (a.headerPath = none → file.headerPath.isSome = true →
        settings.header = Header.ofOptions file.headerPath none cwd) := by
  obtain ⟨path, text⟩ := Arguments.header_of_merge merged
  have header := (Options.resolved_of_resolve resolved).header
  rw [path, text] at header
  have faultless := Options.exists_resolve_iff.1 ⟨settings, resolved⟩
  obtain ⟨settingsAlone, resolvedAlone⟩ := (@Options.exists_resolve_iff
    { options with headerPath := a.headerPath, headerText := a.headerText } cwd).2 faultless
  have headerAlone := (Options.resolved_of_resolve resolvedAlone).header
  refine ⟨_, settingsAlone, Arguments.merge_withoutHeader merged, resolvedAlone, headerAlone, ?_, ?_⟩
  · rw [header, headerAlone]
    exact Header.ofOptions_or_eq_iff given
  · intro absent present
    obtain ⟨filePath, named⟩ := Option.isSome_iff_exists.1 present
    rw [header, absent, named]
    rfl

namespace Sample

/-- A command line that asks for a text as the header. -/
def headed : Arguments where
  main := some ⟨"m.d.ts".toList⟩
  name := some ['l']
  headerText := some " x ".toList

/-- An option file that asks for another text. -/
def otherHeader : OptionFile := { headerText := some " y ".toList }

/-- An option file that asks for no header. -/
def noHeader : OptionFile := { headerPath := some ⟨"none".toList⟩ }

end Sample

/-- A text in the file gives way to a text on the command line. -/
theorem header_commandLine_iff_texts :
    ∃ options settings, Sample.headed.merge Sample.otherHeader = .ok options ∧
      options.resolve ⟨['/']⟩ = .ok settings ∧ settings.header = .text " x ".toList := by
  refine ⟨_, _, rfl, rfl, ?_⟩
  obtain ⟨_, _, _, _, alone, same, _⟩ :=
    header_commandLine_iff Sample.headed Sample.otherHeader ⟨['/']⟩ _ _ (Or.inr rfl) rfl rfl
  rw [same.2 (Or.inr rfl), alone]
  rfl

/-- A path in the file does not give way to a text on the command line. -/
theorem header_text_ignored :
    ∃ options settings alone settingsAlone, Sample.headed.merge Sample.noHeader = .ok options ∧
      options.resolve ⟨['/']⟩ = .ok settings ∧
      Sample.headed.merge Sample.noHeader.withoutHeader = .ok alone ∧
      alone.resolve ⟨['/']⟩ = .ok settingsAlone ∧
      settings.header = .suppressed ∧ settingsAlone.header = .text " x ".toList :=
  ⟨_, _, _, _, rfl, rfl, rfl, rfl, rfl, rfl⟩

end TypingBundle
