import TypingBundle.Proofs.Bundle.Turns
import TypingBundle.Proofs.Options.Naming

/-!
Generated names of ambient modules beside generated names of files. Both begin with the prefix and
the name of the bundle. What follows is the prefix once more in the one, and the position of the file
in the other, and nothing keeps a position from beginning like the prefix.

Main statement: `libraryName_eq_exportedName_iff`.
-/

namespace TypingBundle

theorem Specifier.ne_nil_of_isPlain {specifier : Text} (plain : isPlain specifier = true) :
    specifier ≠ [] := by
  rintro rfl
  cases plain

/-- Before and behind a character, characters are replaced on their own. -/
theorem Text.replaceChar_append_cons (c d : Char) (replacement text rest : Text) :
    replaceChar c replacement (text ++ d :: rest) =
      replaceChar c replacement text ++ (if d = c then replacement else [d]) ++
        replaceChar c replacement rest := by
  simp [replaceChar]

/-- What stands before a separator is known again if the first character of the separator is not in
it, and so is what stands behind the separator. -/
theorem Text.append_separator_inj {separator first second rest rest' : Text}
    (separates : separator ≠ []) (free : ∀ c, separator.head? = some c → c ∉ first)
    (free' : ∀ c, separator.head? = some c → c ∉ second)
    (same : first ++ separator ++ rest = second ++ separator ++ rest') :
    first = second ∧ rest = rest' := by
  obtain ⟨mark, tail, rfl⟩ := List.exists_cons_of_ne_nil separates
  simp only [List.append_assoc, List.cons_append] at same
  obtain ⟨parts, later⟩ := append_mark_inj (free mark rfl) (free' mark rfl) same
  exact ⟨parts, List.append_cancel_left later⟩

theorem Text.ne_append_separator {separator first second rest : Text}
    (separates : separator ≠ []) (free : ∀ c, separator.head? = some c → c ∉ first) :
    first ≠ second ++ separator ++ rest := by
  obtain ⟨mark, tail, rfl⟩ := List.exists_cons_of_ne_nil separates
  intro same
  apply free mark rfl
  rw [same]
  simp

namespace Settings

variable {s : Settings} {l stem : Location} {identifier : Text}

/-! ### Names of modules and of files -/

theorem libraryName_eq (s : Settings) (identifier : Text) :
    s.libraryName identifier =
      s.namePrefix ++ s.name ++ s.separator ++ (s.namePrefix ++ s.separator ++ identifier) := by
  simp only [libraryName, List.append_assoc]

theorem libraryName_ne_name (separates : s.separator ≠ []) (identifier : Text) :
    s.libraryName identifier ≠ s.name := by
  intro same
  have lengths := congrArg List.length same
  have positive := List.length_pos_iff.2 separates
  simp only [libraryName_eq, List.length_append] at lengths
  omega

/-- A module has the name of a file if the position of the file folds to what stands behind the name
of the bundle. The main file, which has no generated name, is never named like a module. -/
theorem libraryName_eq_iff (separates : s.separator ≠ []) :
    s.libraryName identifier = s.exportedName l ↔
      l ≠ s.mainFile ∧ s.foldedPosition l = s.namePrefix ++ s.separator ++ identifier := by
  rw [exportedName_location]
  by_cases main : l = s.mainFile
  · simp [main, libraryName_ne_name separates]
  · rw [if_neg main, positionName, libraryName_eq, List.append_cancel_left_eq]
    simp [main, eq_comm]

/-! ### The first name on the way -/

/-- The position of a file begins with the first name on the way to it, if that name is plain. -/
theorem foldedPosition_of_first {first : Name} {rest : List Name} (found : l.stem? = some stem)
    (steps : s.baseDir.relativeSteps stem = (first :: rest).map .name)
    (plain : s.isPlainStep (.name first) = true) :
    s.foldedPosition l = first.text ∨
      ∃ more, s.foldedPosition l = first.text ++ s.separator ++ more := by
  obtain ⟨straight, undotted, _⟩ := isPlainStep_name.1 plain
  have written : (s.baseDir.relative stem).text =
      Text.join ['/'] ((first :: rest).map Name.text) := by
    rw [Path.relative, steps, Location.ofComponents_names]
    rfl
  rw [foldedPosition, moduleName, Location.dropDeclarationEnding_of_stem? found, Path.slashed,
    written, List.map_cons]
  have unslashed : Text.replaceChar '\\' ['/'] first.text = first.text :=
    Text.replaceChar_of_notMem straight
  have unpaired : Text.replacePair '.' ['-', '-'] first.text = first.text :=
    Text.replacePair_of_not_contains undotted
  have unseparated : Text.replaceChar '/' s.separator first.text = first.text :=
    Text.replaceChar_of_notMem first.notMem_slash
  cases rest with
  | nil =>
    left
    rw [List.map_nil, Text.join, unslashed, unpaired, unseparated]
  | cons next rest =>
    right
    refine ⟨Text.replaceChar '/' s.separator (Text.replacePair '.' ['-', '-']
      (Text.replaceChar '\\' ['/'] (Text.join ['/'] ((next :: rest).map Name.text)))), ?_⟩
    rw [Text.join_cons _ _ (by simp), List.append_assoc, List.singleton_append,
      Text.replaceChar_append_cons, unslashed, if_neg (by decide), List.append_assoc,
      List.singleton_append, Text.replacePair_append_mark (by decide), unpaired,
      Text.replaceChar_append_cons, unseparated, if_pos rfl]

/-- A file has the name of a module only if the first name on the way to it is the prefix. -/
theorem libraryName_ne_of_first {first : Name} {rest : List Name} (separates : s.separator ≠ [])
    (apart : ∀ c, s.separator.head? = some c → c ∉ s.namePrefix) (found : l.stem? = some stem)
    (steps : s.baseDir.relativeSteps stem = (first :: rest).map .name)
    (plain : s.isPlainStep (.name first) = true) (other : first.text ≠ s.namePrefix) :
    s.libraryName identifier ≠ s.exportedName l := by
  have free := (isPlainStep_name.1 plain).2.2
  intro same
  have folds := ((libraryName_eq_iff separates).1 same).2
  rcases foldedPosition_of_first found steps plain with alone | ⟨more, followed⟩
  · exact Text.ne_append_separator separates free (alone.symm.trans folds)
  · exact other (Text.append_separator_inj separates free apart (followed.symm.trans folds)).1

/-- At a plain position, a file has the name of a module if and only if the names on the way to it
are the prefix and names that join to that of the module. -/
theorem foldedPosition_eq_iff (separates : s.separator ≠ [])
    (apart : ∀ c, s.separator.head? = some c → c ∉ s.namePrefix) (nonempty : identifier ≠ [])
    (plain : s.isPlain l = true) :
    s.foldedPosition l = s.namePrefix ++ s.separator ++ identifier ↔
      ∃ (stem : Location) (first : Name) (rest : List Name), l.stem? = some stem ∧
        s.baseDir.relativeSteps stem = (first :: rest).map .name ∧
        first.text = s.namePrefix ∧ Text.join s.separator (rest.map Name.text) = identifier := by
  obtain ⟨stem, names, found, steps, each, folded⟩ := foldedPosition_of_isPlain plain
  have free : ∀ n ∈ names, ∀ c, s.separator.head? = some c → c ∉ n.text := fun n member =>
    (isPlainStep_name.1 (each n member)).2.2
  rw [folded]
  constructor
  · intro same
    -- The separator is in none of the names, so there are two at least, and it stands behind the
    -- first of them.
    match names, free, steps, same with
    | [], _, _, same =>
      exact absurd same (Text.ne_append_separator separates (by simp [Text.join]))
    | [n], free, _, same =>
      exact absurd same (Text.ne_append_separator separates (free n (by simp)))
    | first :: next :: rest, free, steps, same =>
      rw [List.map_cons, Text.join_cons _ _ (by simp)] at same
      obtain ⟨begins, joined⟩ :=
        Text.append_separator_inj separates (free first (by simp)) apart same
      exact ⟨stem, first, next :: rest, found, steps, begins, joined⟩
  · rintro ⟨stem', first, rest, found', steps', begins, joined⟩
    cases found.symm.trans found'
    have same : names = first :: rest :=
      List.map_injective_iff.2 (fun _ _ => Component.name.inj) (steps.symm.trans steps')
    cases rest with
    | nil => exact absurd joined.symm nonempty
    | cons next rest =>
      rw [same, List.map_cons, Text.join_cons _ _ (by simp), begins, joined]

end Settings

/-- When the generated name of an ambient module is that of a file: exactly if the file is not the
main file and its position folds to the prefix, the separator and the name of the module. Where the
separator does not begin with a character of the prefix, this can not be unless the first name on the
way from the base directory to the file is the prefix, as far as that name stays as it is; and at a
plain position it is so exactly if the names on the way are the prefix and names that join to that of
the module. -/
theorem libraryName_eq_exportedName_iff (options : Options) (cwd : Path) (settings : Settings)
    (resolved : options.resolve cwd = .ok settings) (identifier : Text)
    (named : Specifier.isPlain identifier = true) (l : Location) :
    (settings.libraryName identifier = settings.exportedName l ↔
      l ≠ settings.mainFile ∧
        settings.foldedPosition l = settings.namePrefix ++ settings.separator ++ identifier) ∧
      ((∀ c, settings.separator.head? = some c → c ∉ settings.namePrefix) →
        (∀ stem first rest, l.stem? = some stem →
          settings.baseDir.relativeSteps stem = (first :: rest).map .name →
          settings.isPlainStep (.name first) = true → first.text ≠ settings.namePrefix →
          settings.libraryName identifier ≠ settings.exportedName l) ∧
        (settings.isPlain l = true →
          (settings.libraryName identifier = settings.exportedName l ↔
            l ≠ settings.mainFile ∧
              ∃ (stem : Location) (first : Name) (rest : List Name), l.stem? = some stem ∧
                settings.baseDir.relativeSteps stem = (first :: rest).map .name ∧
                first.text = settings.namePrefix ∧
                Text.join settings.separator (rest.map Name.text) = identifier))) := by
  have separates := Options.separator_ne_nil resolved
  refine ⟨Settings.libraryName_eq_iff separates, fun apart => ⟨?_, ?_⟩⟩
  · intro stem first rest found steps plain other
    exact Settings.libraryName_ne_of_first separates apart found steps plain other
  · intro plain
    rw [Settings.libraryName_eq_iff separates, Settings.foldedPosition_eq_iff separates apart
      (Specifier.ne_nil_of_isPlain named) plain]

/-! ### A folder that is called like the prefix -/

namespace Captured

open Sample (main text)

def folder : Location := Sample.folder.child ⟨"__".toList, rfl⟩

def file : Location := folder.child ⟨"e.d.ts".toList, rfl⟩

/-- The file that declares a module, outside the base directory. -/
def owner : Location := ⟨true, [⟨['q'], rfl⟩, ⟨"e.d.ts".toList, rfl⟩]⟩

/-- The main file imports a module by its name, and a file at the position of that name. -/
def store : MemoryStore := .ofFiles [
  (main, text ["/// <reference path='../q/e.d.ts' />", "import e = require('e');",
    "export * from './__/e';"]),
  (file, "export declare const y: 2;".toList),
  (owner, text ["declare module 'e' \x7b", "    export const x: 1;", "\x7d"])]

def options : Options := { Sample.options with headerPath := some ⟨"none".toList⟩ }

def settings : Settings := { Sample.settings with header := .suppressed }

theorem resolve_options : options.resolve Sample.root = .ok settings := rfl

/-- Two blocks of one name: that of the module and that of the file. -/
def result : Result where
  emitted := true
  outputPath := settings.outFile
  content := text [
    "", "declare module 'l' \x7b", "    import e = require('__l/__/e');",
    "    export * from '__l/__/e';", "\x7d", "", "declare module '__l/__/e' \x7b",
    "    export const x: 1;", "\x7d", "", "declare module '__l/__/e' \x7b",
    "    export const y: 2;", "\x7d", "", ""]
  usedFiles := [main, owner, file]
  excludedFiles := []
  externalDependencies := []
  missingFiles := []

def course : Bundle.Course store settings where
  files := [main, owner, file]
  walkTurns := 3
  used := [main, owner, file]
  usedTurns := 3
  result := result
  main := by decide +kernel
  walks := by decide +kernel
  computes := by decide +kernel

end Captured

theorem libraryName_eq_exportedName_iff_captured :
    Captured.options.resolve Sample.root = .ok Captured.settings ∧
      Specifier.isPlain ['e'] = true ∧ Captured.settings.isPlain Captured.file = true ∧
      Captured.settings.libraryName ['e'] = Captured.settings.exportedName Captured.file ∧
      Captured.settings.libraryName ['e'] ≠ Captured.settings.exportedName Sample.other := by
  have named : Specifier.isPlain ['e'] = true := by decide +kernel
  have apart : ∀ c, Captured.settings.separator.head? = some c →
      c ∉ Captured.settings.namePrefix := by
    intro c begins
    cases begins
    decide
  obtain ⟨_, inside⟩ := libraryName_eq_exportedName_iff Captured.options Sample.root
    Captured.settings Captured.resolve_options ['e'] named Captured.file
  obtain ⟨_, outside⟩ := libraryName_eq_exportedName_iff Captured.options Sample.root
    Captured.settings Captured.resolve_options ['e'] named Sample.other
  refine ⟨Captured.resolve_options, named, rfl, ?_, ?_⟩
  · refine ((inside apart).2 rfl).2 ⟨by decide, Captured.folder.child ⟨['e'], rfl⟩,
      ⟨"__".toList, rfl⟩, [⟨['e'], rfl⟩], rfl, rfl, rfl, rfl⟩
  · exact (outside apart).1 (Sample.folder.child ⟨['b'], rfl⟩) ⟨['b'], rfl⟩ [] rfl rfl rfl
      (by decide)

/-- A module that is taken into a bundle can have the name of a source in it, under which both are
written and imported. -/
theorem library_captures_source :
    ∃ after, Bundle.run Captured.store Captured.options Sample.root =
        (after, .ok Captured.result) ∧
      Captured.options.resolve Sample.root = .ok Captured.settings ∧
      Captured.file ∈ Captured.result.usedFiles ∧
      Captured.file.isUnder Captured.settings.baseDir.normalize = true ∧
      Specifier.isPlain ['e'] = true ∧
      Captured.settings.libraryName ['e'] = "__l/__/e".toList ∧
      Captured.settings.exportedName Captured.file = "__l/__/e".toList := by
  obtain ⟨after, p, ran, _, _⟩ := Captured.course.exists_run Captured.resolve_options
  exact ⟨after, ran, Captured.resolve_options, by decide, rfl, by decide +kernel, rfl, rfl⟩

end TypingBundle
