import TypingBundle.Proofs.Bundle.Turns
import TypingBundle.Proofs.Options.Address
import TypingBundle.Proofs.Record.Lines

/-!
Dependencies listed as directives. A directive shows the path of a file from the base directory, and
what a directive in a file shows is read from the directory of that file. So a file that a bundle
lists is found again where the two directories lead to the same place.

Main statement: `directive_leads_back`.
-/

namespace TypingBundle

/-! ### Reading a directive -/

namespace Line

variable {path : Text}

/-- A path without quote marks is read up to the mark behind it. -/
theorem directivePath?_append (unquoted : ∀ c ∈ path, isQuote c = false) :
    directivePath? (path ++ "\" />".toList) = some path := by
  have inside : ∀ c ∈ path, (!isQuote c) = true := by simpa using unquoted
  have run : (path ++ "\" />".toList).takeWhile (fun c => !isQuote c) = path := by
    rw [List.takeWhile_append_of_pos inside]
    simp [isQuote]
  have rest : (path ++ "\" />".toList).dropWhile (fun c => !isQuote c) = "\" />".toList := by
    rw [List.dropWhile_append_of_pos inside]
    simp [isQuote]
  have closes : closesDirective ("\" />".toList.drop 1) = true := by decide
  rw [directivePath?, run, rest, if_pos closes]

theorem reference?_directive (unquoted : ∀ c ∈ path, isQuote c = false) :
    reference? ("/// <reference path=\"".toList ++ path ++ "\" />".toList) = some path := by
  rw [List.append_assoc]
  exact directivePath?_append unquoted

theorem classify_directive (unquoted : ∀ c ∈ path, isQuote c = false) :
    classify ("/// <reference path=\"".toList ++ path ++ "\" />".toList) false =
      .reference path := by
  -- Neither the beginning nor the end of a block comment looks like three slashes.
  have code : classify ("/// <reference path=\"".toList ++ path ++ "\" />".toList) false =
      classifyCode ("/// <reference path=\"".toList ++ path ++ "\" />".toList) := rfl
  have dark : isBlankLine ("/// <reference path=\"".toList ++ path ++ "\" />".toList) = false := rfl
  rw [code, classifyCode, dark, reference?_directive unquoted]
  rfl

end Line

/-! ### Where a directive leads -/

/-- A path that can be listed in a directive and read back: a canonical one without quote marks and
backslashes. -/
structure Path.IsListable (file : Path) : Prop where
  canonical : file.IsCanonical
  unquoted : ∀ c ∈ file.text, Line.isQuote c = false
  straight : '\\' ∉ file.text

namespace Path.IsListable

variable {file : Path}

/-- A listable path is shown as it is seen from the base directory. -/
theorem displayPath_eq (listable : file.IsListable) (settings : Settings) :
    (⟨settings.displayPath file⟩ : Path) = settings.baseDir.relative file.normalize := by
  rw [Settings.displayPath, slashed_relative _ listable.straight,
    relative_of_isCanonical _ listable.canonical]

theorem unquoted_displayPath (listable : file.IsListable) (settings : Settings) :
    ∀ c ∈ settings.displayPath file, Line.isQuote c = false := by
  intro c member
  rw [Settings.displayPath, slashed_relative _ listable.straight] at member
  -- A quote mark is neither a slash nor a dot, so it would be in the path itself.
  by_contra quote
  rw [Bool.not_eq_false] at quote
  refine notMem_relative ?_ settings.baseDir ?_ member
  · constructor <;> rintro rfl <;> cases quote
  · intro inside
    rw [listable.unquoted c inside] at quote
    cases quote

/-- From which directories the shown path leads to the file. -/
theorem locate_displayPath_iff (listable : file.IsListable) (settings : Settings) (dir : Path) :
    dir.locate ⟨settings.displayPath file⟩ = file.normalize ↔
      settings.baseDir.isAbsolute = false ∨
        dir.normalize.above (settings.baseDir.climb file.normalize) =
          file.normalize.above (settings.baseDir.descent file.normalize) := by
  have rooted := listable.canonical.rooted
  rw [listable.displayPath_eq]
  cases absolute : settings.baseDir.isAbsolute with
  | true => simp [locate_relative_iff absolute rooted]
  | false =>
    have whole : dir.locate (settings.baseDir.relative file.normalize) = file.normalize := by
      rw [relative_of_not_isAbsolute absolute rooted, locate, Location.isAbsolute_toPath, rooted,
        if_pos rfl, Location.normalize_toPath]
    simp [whole]

end Path.IsListable

/-- The paths of a file are read from a directory if the file stands directly in it. -/
theorem Record.normalize_directory_eq_iff {l dir : Location} (rooted : dir.rooted = true) :
    (Record.directory l).normalize = dir ↔ l.parent? = some dir := by
  obtain ⟨begins, names⟩ := l
  rw [Record.directory_toPath]
  cases names with
  | nil =>
    have nowhere : (⟨[]⟩ : Path).normalize ≠ dir := by
      rintro rfl
      cases rooted
    simpa [Location.parent?] using nowhere
  | cons n names => simp [Location.parent?]

/-- A dependency that is listed as a directive is read as a reference to its path from the base
directory, and that path leads from the base directory to the file, wherever the output is. In the
output itself the directive leads to the file exactly if the directory of the output and the base
directory come to the same place by as many steps up as the path begins with. This is so for every
file if the output stands directly in the base directory, and for a file below the base directory
only then. -/
theorem directive_leads_back (settings : Settings) (references : settings.referenceExternals = true)
    (file : Path) (listable : file.IsListable) :
    let line := (Dependency.file file).listed settings
    let dir := Record.directory settings.outFile
    ∃ path, Line.reference? line = some path ∧
      (∀ (store : MemoryStore) (dir : Path),
        readLine store settings dir (Line.classify line false) = .reference (dir.locate ⟨path⟩)) ∧
      (∀ dir : Path, dir.locate ⟨path⟩ = file.normalize ↔
        settings.baseDir.isAbsolute = false ∨
          dir.normalize.above (settings.baseDir.climb file.normalize) =
            file.normalize.above (settings.baseDir.descent file.normalize)) ∧
      (settings.baseDir.IsCanonical →
        settings.baseDir.locate ⟨path⟩ = file.normalize ∧
        (dir.locate ⟨path⟩ = file.normalize ↔
          dir.normalize.above (settings.baseDir.climb file.normalize) =
            settings.baseDir.normalize.above (settings.baseDir.climb file.normalize)) ∧
        (settings.outFile.parent? = some settings.baseDir.normalize →
          dir.locate ⟨path⟩ = file.normalize) ∧
        (file.normalize.isUnder settings.baseDir.normalize = true →
          (dir.locate ⟨path⟩ = file.normalize ↔
            settings.outFile.parent? = some settings.baseDir.normalize))) := by
  intro line dir
  have written : line = "/// <reference path=\"".toList ++ settings.displayPath file ++
      "\" />".toList := if_pos references
  have unquoted := listable.unquoted_displayPath settings
  have leads := listable.locate_displayPath_iff settings
  rw [written]
  refine ⟨settings.displayPath file, Line.reference?_directive unquoted, ?_, leads, ?_⟩
  · intro store dir
    rw [Line.classify_directive unquoted, readLine]
  · intro canonical
    have absolute : settings.baseDir.normalize.rooted = true := by
      rw [Path.rooted_normalize, canonical.isAbsolute]
    have rooted : file.normalize.rooted = true := by
      rw [Path.rooted_normalize, listable.canonical.isAbsolute]
    have climbs := Path.above_climb canonical rooted
    have back : ∀ dir : Path, dir.locate ⟨settings.displayPath file⟩ = file.normalize ↔
        dir.normalize.above (settings.baseDir.climb file.normalize) =
          settings.baseDir.normalize.above (settings.baseDir.climb file.normalize) := by
      intro dir
      rw [leads, climbs]
      simp [canonical.isAbsolute]
    refine ⟨(back _).2 rfl, back dir, ?_, ?_⟩
    · intro inside
      rw [back, (Record.normalize_directory_eq_iff absolute).2 inside]
    · intro below
      rw [back, Path.climb_of_isUnder canonical below, Location.above_zero, Location.above_zero,
        Record.normalize_directory_eq_iff absolute]

/-! ### An output outside the base directory -/

namespace Elsewhere

open Sample (main text)

/-- A directory beside the base directory. -/
def outer : Name := ⟨['k'], rfl⟩

def typings : Name := ⟨"t.d.ts".toList, rfl⟩

/-- The file that declares a module. -/
def owner : Location := ⟨true, [outer, typings]⟩

def output : Name := ⟨"v.d.ts".toList, rfl⟩

/-- The main file imports a module that is left out of the bundle. -/
def store : MemoryStore := .ofFiles [
  (main, text ["/// <reference path='../k/t.d.ts' />", "import e = require('e');"]),
  (owner, text ["declare module 'e' \x7b", "    export const x: 1;", "\x7d"])]

/-- The output is in a folder of the base directory. -/
def options : Options :=
  { Sample.bareOptions with out := some "o/v.d.ts".toList, referenceExternals := some true }

def settings : Settings :=
  { Sample.bareSettings with
    outFile := (Sample.folder.child ⟨['o'], rfl⟩).child output
    referenceExternals := true }

theorem resolve_options : options.resolve Sample.root = .ok settings := rfl

/-- The directive of the file, as it is listed. -/
def line : Text := "/// <reference path=\"../k/t.d.ts\" />".toList

def result : Result where
  emitted := true
  outputPath := settings.outFile
  content := text [
    "// Dependencies for this module:", "/// <reference path=\"../k/t.d.ts\" />", "",
    "declare module 'l' \x7b", "    import e = require('e');", "\x7d", "", ""]
  usedFiles := [main]
  excludedFiles := []
  externalDependencies := ["../k/t.d.ts".toList]
  missingFiles := []

def course : Bundle.Course store settings where
  files := [main, owner]
  walkTurns := 2
  used := [main]
  usedTurns := 1
  result := result
  main := by decide +kernel
  walks := by decide +kernel
  computes := by decide +kernel

/-- Where the directive leads from the folder of the output. -/
def found : Location := (Sample.folder.child outer).child typings

theorem isListable_owner : owner.toPath.IsListable := by
  have unquoted : (owner.toPath.text.all fun c => !Line.isQuote c) = true := by decide
  refine ⟨Location.isCanonical_toPath rfl, ?_, by decide⟩
  intro c member
  have plain := List.all_eq_true.1 unquoted c member
  rwa [Bool.not_eq_true'] at plain

/-- The same settings with the output in a directory beside the base directory. -/
def besideSettings : Settings :=
  { settings with outFile := ⟨true, [⟨['r'], rfl⟩, output]⟩ }

end Elsewhere

theorem directive_leads_back_beside :
    Elsewhere.besideSettings.referenceExternals = true ∧ Elsewhere.owner.toPath.IsListable ∧
      Elsewhere.besideSettings.outFile.parent? ≠ some Elsewhere.besideSettings.baseDir.normalize ∧
      Line.reference? Elsewhere.line = some "../k/t.d.ts".toList ∧
      (Record.directory Elsewhere.besideSettings.outFile).locate ⟨"../k/t.d.ts".toList⟩ =
        Elsewhere.owner := by
  have canonical : Elsewhere.besideSettings.baseDir.IsCanonical := ⟨by decide, by decide⟩
  have same : Elsewhere.owner.toPath.normalize = Elsewhere.owner := Location.normalize_toPath _
  obtain ⟨path, read, _, _, inside⟩ :=
    directive_leads_back Elsewhere.besideSettings rfl Elsewhere.owner.toPath
      Elsewhere.isListable_owner
  obtain ⟨_, back, _⟩ := inside canonical
  have shown : Line.reference? Elsewhere.line = some "../k/t.d.ts".toList := by decide
  have written : (Dependency.file Elsewhere.owner.toPath).listed Elsewhere.besideSettings =
      Elsewhere.line := by decide
  rw [written] at read
  cases shown.symm.trans read
  refine ⟨rfl, Elsewhere.isListable_owner, by decide, shown, ?_⟩
  rw [← same]
  exact back.2 (by decide)

/-- A directive in a bundle can lead to another place than the file that it lists. -/
theorem directive_leads_elsewhere :
    ∃ after, Bundle.run Elsewhere.store Elsewhere.options Sample.root =
        (after, .ok Elsewhere.result) ∧
      Elsewhere.options.resolve Sample.root = .ok Elsewhere.settings ∧
      Elsewhere.settings.referenceExternals = true ∧ Elsewhere.owner.toPath.IsListable ∧
      (Dependency.file Elsewhere.owner.toPath).listed Elsewhere.settings = Elsewhere.line ∧
      Elsewhere.line ∈ Text.lines Elsewhere.result.content ∧
      readLine Elsewhere.store Elsewhere.settings (Record.directory Elsewhere.settings.outFile)
          (Line.classify Elsewhere.line false) = .reference Elsewhere.found ∧
      Elsewhere.found ≠ Elsewhere.owner := by
  obtain ⟨after, p, ran, _, _⟩ := Elsewhere.course.exists_run Elsewhere.resolve_options
  exact ⟨after, ran, Elsewhere.resolve_options, rfl, Elsewhere.isListable_owner, by decide,
    by decide, by decide +kernel, by decide⟩

end TypingBundle
