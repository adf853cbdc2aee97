import Mathlib.Data.List.Nodup
import TypingBundle.Proofs.Bundle.Turns
import TypingBundle.Proofs.Options.Naming
import TypingBundle.Proofs.Rename
import TypingBundle.Proofs.Text.Pieces

/-!
The module blocks of a bundle. The text of a bundle is that of its files one after the other, and a
file that is a source stands in a block under its name.

Main statements: `nodup_names_iff` says when the blocks have different names, and
`blocks_of_imports` says which imports of files lead to a block.
-/

namespace TypingBundle

/-! ### The text of a bundle -/

namespace Plan

/-- The files of a bundle that stand in blocks of their own. -/
def wrapped (p : Plan) : List Location :=
  p.inclusion.used.filter fun l : Location => p.sources.contains l

/-- The lines of a file in the bundle. -/
def linesAt (p : Plan) (l : Location) : List Text :=
  match p.renamed.get? l with
  | some record => Output.lines p.settings record
  | none => []

/-- The text of a file in the bundle. -/
def blockAt (p : Plan) (l : Location) : Text :=
  if p.sources.contains l then
    Output.moduleBlock p.settings (p.settings.exportedName l) (p.linesAt l)
  else Text.join p.settings.newline (p.linesAt l) ++ p.settings.newline

end Plan

namespace Bundle

namespace Planned

variable {σ : Type} [FileStore σ] {store : σ} {settings : Settings} {p : Plan} {l : Location}

theorem walks (planned : Planned store settings p) :
    Registry.Walked store settings p.sources p.registry :=
  Registry.walked_of_walk planned.walked

theorem exists_get?_of_used (planned : Planned store settings p) (used : l ∈ p.inclusion.used) :
    ∃ record, p.registry.get? l = some record := by
  rw [planned.inclusion] at used
  exact Inclusion.exists_get?_of_mem_used used

/-- A file of the bundle has a record, and what is written of the record is the text of the file. -/
theorem exists_block (planned : Planned store settings p) (used : l ∈ p.inclusion.used) :
    ∃ record, p.renamed.get? l = some record ∧ Output.block settings record = p.blockAt l := by
  obtain ⟨record, found⟩ := planned.exists_get?_of_used used
  have parsed := (planned.walks.parse_of_get? found).2
  have renamed : p.renamed.get? l =
      some (Rename.record settings p.exports p.inclusion record) := by
    rw [planned.renamed, Rename.get?_registry, found, Option.map_some,
      if_pos (Inclusion.isUsed_iff.2 used)]
  refine ⟨_, renamed, ?_⟩
  -- Renaming changes the entries of a record, not its name and not whether it is a source.
  rw [Output.block, Plan.blockAt, Plan.linesAt, renamed, planned.settings_eq]
  simp only [Rename.record, Record.isSource_of_parse parsed, Record.exportedName_of_parse parsed]

/-- The text of a bundle is that of its files, in their order, under what stands at the top. -/
theorem exists_content_eq (planned : Planned store settings p) :
    ∃ top, p.content =
      top ++ Text.join settings.newline (p.inclusion.used.map p.blockAt) ++ settings.newline := by
  obtain ⟨header, _, content⟩ := planned.content
  have blocks : (p.inclusion.used.filterMap p.renamed.get?).map (Output.block settings) =
      p.inclusion.used.map p.blockAt := by
    rw [List.map_filterMap, ← List.filterMap_eq_map]
    apply List.filterMap_congr
    intro l used
    obtain ⟨record, found, same⟩ := planned.exists_block used
    rw [found, Option.map_some, same]
    rfl
  rw [content]
  unfold Output.content
  dsimp only
  rw [blocks]
  exact ⟨_, rfl⟩

theorem blockAt_infix_content (planned : Planned store settings p) (used : l ∈ p.inclusion.used) :
    p.blockAt l <:+: p.content := by
  obtain ⟨top, content⟩ := planned.exists_content_eq
  rw [content]
  have inside : p.blockAt l <:+: Text.join settings.newline (p.inclusion.used.map p.blockAt) :=
    Text.infix_join (List.mem_map_of_mem used)
  exact (inside.trans (List.suffix_append _ _).isInfix).trans (List.prefix_append _ _).isInfix

theorem moduleBlock_infix_content (planned : Planned store settings p) (wrapped : l ∈ p.wrapped) :
    Output.moduleBlock settings (settings.exportedName l) (p.linesAt l) <:+: p.content := by
  obtain ⟨used, isSource⟩ := List.mem_filter.1 wrapped
  have block := planned.blockAt_infix_content used
  rw [Plan.blockAt, if_pos isSource, planned.settings_eq] at block
  exact block

theorem nodup_wrapped (planned : Planned store settings p) : p.wrapped.Nodup := by
  have used : p.inclusion.used.Nodup := by
    rw [planned.inclusion]
    exact (Inclusion.breadthFirst_used planned.walks planned.built).nodup
  exact used.filter _

/-- The blocks have different names if and only if the positions of all files but the main file fold to
different texts. -/
theorem nodup_exportedName_iff (planned : Planned store settings p)
    (separates : settings.separator ≠ []) :
    (p.wrapped.map fun l : Location => settings.exportedName l).Nodup ↔
      ∀ l ∈ p.wrapped, ∀ m ∈ p.wrapped, l ≠ settings.mainFile → m ≠ settings.mainFile →
        settings.foldedPosition l = settings.foldedPosition m → l = m := by
  rw [List.nodup_map_iff_inj_on planned.nodup_wrapped]
  constructor
  · intro apart l first m second left right folds
    by_contra different
    exact different (apart l first m second
      ((Settings.exportedName_eq_iff separates different).2 ⟨left, right, folds⟩))
  · intro apart l first m second same
    by_contra different
    obtain ⟨left, right, folds⟩ := (Settings.exportedName_eq_iff separates different).1 same
    exact different (apart l first m second left right folds)

/-- A line of a file in the bundle, under the indentation of the bundle. -/
theorem getElem?_linesAt (planned : Planned store settings p) {i : Nat} {text : Text}
    (entry : p.renamed.textAt? l i = some text) :
    ∃ unit, (p.linesAt l)[i]? = some (Indent.exchange unit settings.indent text) := by
  obtain ⟨record, found, place⟩ := Option.bind_eq_some_iff.1 entry
  obtain ⟨entry, listed, rfl⟩ := Option.map_eq_some_iff.1 place
  refine ⟨record.indent, ?_⟩
  simp [Plan.linesAt, found, Output.lines, listed, planned.settings_eq]

/-- An import of a file, in the bundle, names the file as the bundle does. -/
theorem exists_import_line (planned : Planned store settings p) (used : l ∈ p.inclusion.used)
    {i : Nat} {line specifier renamed : Text} {target : Location}
    (read : (Record.readings store settings l)[i]? =
      some (line, .relativeImport specifier target renamed)) :
    ∃ found unit, Line.import? line = some found ∧ found.spec.specifier = specifier ∧
      renamed = found.spec.withSpecifier (settings.exportedName target) ∧
      (p.linesAt l)[i]? = some (Indent.exchange unit settings.indent renamed) := by
  obtain ⟨record, parsed⟩ := planned.exists_get?_of_used used
  obtain ⟨found, reads, specified, _, named⟩ :=
    Record.import?_of_relativeImport (List.mem_of_getElem? read)
  have text : p.renamed.textAt? l i = some renamed := by
    rw [planned.renamed]
    exact Rename.textAt?_relativeImport planned.walks (Registry.mem_locations_of_get? parsed) used
      read
  obtain ⟨unit, listed⟩ := planned.getElem?_linesAt text
  exact ⟨found, unit, reads, specified, named, listed⟩

/-- A file that is imported by a file of the bundle is in the bundle, unless the filter leaves it
out. -/
theorem mem_used_of_relativeImport (planned : Planned store settings p)
    (used : l ∈ p.inclusion.used) {line specifier renamed : Text} {target : Location}
    (read : (line, .relativeImport specifier target renamed) ∈ Record.readings store settings l)
    (kept : settings.exclude.leavesOut (settings.displayPath target) false = false) :
    target ∈ p.inclusion.used := by
  obtain ⟨record, found⟩ := planned.exists_get?_of_used used
  have parsed := (planned.walks.parse_of_get? found).2
  have imports := Record.mem_relativeImports_of_mem_readings parsed read
  rw [planned.inclusion] at used ⊢
  exact Inclusion.mem_used_of_follows planned.walks planned.built used
    ⟨record, found, Or.inl ⟨imports, kept⟩⟩

theorem main_mem_used (planned : Planned store settings p) :
    settings.mainFile ∈ p.inclusion.used := by
  rw [planned.inclusion, ← planned.walks.main]
  exact List.mem_of_head? (Inclusion.breadthFirst_used planned.walks planned.built).head

theorem main_isSome {store : MemoryStore} (planned : Planned store settings p) :
    (store.textAt? settings.mainFile).isSome = true := by
  have present := planned.main
  simpa [FileStore.isFile] using present

theorem wrapped_eq (planned : Planned store settings p) {files : List Location}
    (used : p.result.usedFiles = files) :
    p.wrapped = files.filter fun l : Location => (Bundle.sources store settings).contains l := by
  rw [Plan.wrapped, planned.sources, ← used]
  rfl

theorem mem_wrapped {store : MemoryStore} (planned : Planned store settings p) :
    l ∈ p.wrapped ↔ l ∈ p.inclusion.used ∧ (store.textAt? l).isSome = true ∧
      l.isUnder settings.baseDir.normalize = true ∧ l.isDeclarationFile = true := by
  rw [Plan.wrapped, List.mem_filter, planned.sources, contains_sources_memory]

end Planned
end Bundle

/-- When the blocks of a bundle have different names. The text of the bundle is that of its files in
their order, and the sources among them stand in blocks under their names. These names are different
if and only if no two sources, apart from the main file, are at positions that fold to the same text.
Plain positions never do. -/
theorem nodup_names_iff (store after : MemoryStore) (options : Options) (cwd : Path)
    (result : Result) (ran : Bundle.run store options cwd = (after, .ok result)) :
    ∃ (settings : Settings) (p : Plan) (top : Text),
      options.resolve cwd = .ok settings ∧ Bundle.plan store settings = .ok p ∧
      p.result = result ∧
      result.content = top ++ Text.join settings.newline (result.usedFiles.map p.blockAt) ++
        settings.newline ∧
      (∀ l, l ∈ p.wrapped ↔ l ∈ result.usedFiles ∧ (store.textAt? l).isSome = true ∧
        l.isUnder settings.baseDir.normalize = true ∧ l.isDeclarationFile = true) ∧
      ((p.wrapped.map fun l : Location => settings.exportedName l).Nodup ↔
        ∀ l ∈ p.wrapped, ∀ m ∈ p.wrapped, l ≠ settings.mainFile → m ≠ settings.mainFile →
          settings.foldedPosition l = settings.foldedPosition m → l = m) ∧
      ((∀ l ∈ p.wrapped, l ≠ settings.mainFile → settings.isPlain l = true) →
        (p.wrapped.map fun l : Location => settings.exportedName l).Nodup) := by
  obtain ⟨settings, p, resolved, made, rfl⟩ := Bundle.exists_plan_of_run ran
  have planned := Bundle.planned_of_plan made
  have separates := Options.separator_ne_nil resolved
  have named := planned.nodup_exportedName_iff separates
  obtain ⟨top, content⟩ := planned.exists_content_eq
  refine ⟨settings, p, top, resolved, made, rfl, content, fun _ => planned.mem_wrapped, named, ?_⟩
  intro plain
  rw [named]
  intro l first m second left right folds
  exact Settings.foldedPosition_inj separates (plain l first left) (plain m second right) folds

theorem nodup_names_iff_sample :
    ∃ after p, Bundle.run Sample.store Sample.options Sample.root = (after, .ok Sample.result) ∧
      Bundle.plan Sample.store Sample.settings = .ok p ∧
      p.wrapped = [Sample.main, Sample.other] ∧
      (∀ l ∈ p.wrapped, l ≠ Sample.main → Sample.settings.isPlain l = true) ∧
      (p.wrapped.map fun l : Location => Sample.settings.exportedName l).Nodup := by
  obtain ⟨after, p, ran, made, same⟩ := Sample.course.exists_run Sample.resolve_options
  have wrapped : p.wrapped = [Sample.main, Sample.other] := by
    rw [(Bundle.planned_of_plan made).wrapped_eq (congrArg Result.usedFiles same)]
    rfl
  have plain : ∀ l ∈ p.wrapped, l ≠ Sample.main → Sample.settings.isPlain l = true := by
    rw [wrapped]
    decide
  obtain ⟨settings, q, _, resolved, again, _, _, _, _, named⟩ := nodup_names_iff _ _ _ _ _ ran
  cases Sample.resolve_options.symm.trans resolved
  cases made.symm.trans again
  exact ⟨after, p, ran, made, wrapped, plain, named plain⟩

namespace Twins

open Sample (main folder text bareSettings)

def dotted : Location := folder.child ⟨"a..b.d.ts".toList, rfl⟩

def dashed : Location := folder.child ⟨"a--b.d.ts".toList, rfl⟩

/-- The main file imports two files whose names fold to the same text. -/
def store : MemoryStore := .ofFiles [
  (main, text ["export * from './a..b';", "export * from './a--b';"]),
  (dotted, "export declare const x: 1;".toList), (dashed, "export declare const y: 2;".toList)]

def result : Result where
  emitted := true
  outputPath := bareSettings.outFile
  content := text [
    "", "declare module 'l' \x7b", "    export * from '__l/a--b';", "    export * from '__l/a--b';",
    "\x7d", "", "declare module '__l/a--b' \x7b", "    export const x: 1;", "\x7d", "",
    "declare module '__l/a--b' \x7b", "    export const y: 2;", "\x7d", "", ""]
  usedFiles := [main, dotted, dashed]
  excludedFiles := []
  externalDependencies := []
  missingFiles := []

def course : Bundle.Course store bareSettings where
  files := [main, dotted, dashed]
  walkTurns := 3
  used := [main, dotted, dashed]
  usedTurns := 3
  result := result
  main := by decide +kernel
  walks := by decide +kernel
  computes := by decide +kernel

end Twins

/-- Two sources of a bundle can have blocks of the same name. -/
theorem blocks_share_name :
    ∃ after p, Bundle.run Twins.store Sample.bareOptions Sample.root = (after, .ok Twins.result) ∧
      Sample.bareOptions.resolve Sample.root = .ok Sample.bareSettings ∧
      Bundle.plan Twins.store Sample.bareSettings = .ok p ∧
      p.wrapped = [Sample.main, Twins.dotted, Twins.dashed] ∧ Twins.dotted ≠ Twins.dashed ∧
      Sample.bareSettings.exportedName Twins.dotted = "__l/a--b".toList ∧
      Sample.bareSettings.exportedName Twins.dashed = "__l/a--b".toList := by
  obtain ⟨after, p, ran, made, same⟩ := Twins.course.exists_run Sample.resolve_bareOptions
  refine ⟨after, p, ran, Sample.resolve_bareOptions, made, ?_, ?_, ?_, ?_⟩
  · rw [(Bundle.planned_of_plan made).wrapped_eq (congrArg Result.usedFiles same)]
    rfl
  · decide
  · rfl
  · rfl

/-- Which imports of files lead to a block. Every source in the bundle has a block under its name. The
main file has the name of the bundle, and it has its block if and only if it is a declaration file at
or below the base directory. An import of a file is written with the name of that file. Where the
file exists and the filter does not leave it out, it is in the bundle, and it has a block under this
name if and only if it is at or below the base directory. -/
theorem blocks_of_imports (store after : MemoryStore) (options : Options) (cwd : Path)
    (result : Result) (ran : Bundle.run store options cwd = (after, .ok result)) :
    ∃ (settings : Settings) (p : Plan),
      options.resolve cwd = .ok settings ∧ Bundle.plan store settings = .ok p ∧
      p.result = result ∧
      (∀ l ∈ p.wrapped,
        Output.moduleBlock settings (settings.exportedName l) (p.linesAt l) <:+: result.content) ∧
      settings.exportedName settings.mainFile = settings.name ∧
      (settings.mainFile ∈ p.wrapped ↔
        settings.mainFile.isUnder settings.baseDir.normalize = true ∧
          settings.mainFile.isDeclarationFile = true) ∧
      ∀ l ∈ result.usedFiles, ∀ (i : Nat) (line specifier renamed : Text) (target : Location),
        (Record.readings store settings l)[i]? =
          some (line, .relativeImport specifier target renamed) →
        (∃ found unit, Line.import? line = some found ∧ found.spec.specifier = specifier ∧
          renamed = found.spec.withSpecifier (settings.exportedName target) ∧
          (p.linesAt l)[i]? = some (Indent.exchange unit settings.indent renamed)) ∧
        ((store.textAt? target).isSome = true →
          settings.exclude.leavesOut (settings.displayPath target) false = false →
          target ∈ result.usedFiles ∧
            (target ∈ p.wrapped ↔ target.isUnder settings.baseDir.normalize = true)) := by
  obtain ⟨settings, p, resolved, made, rfl⟩ := Bundle.exists_plan_of_run ran
  have planned := Bundle.planned_of_plan made
  refine ⟨settings, p, resolved, made, rfl, fun _ => planned.moduleBlock_infix_content, ?_, ?_, ?_⟩
  · simp [Settings.exportedName_location]
  · rw [planned.mem_wrapped]
    simp [planned.main_mem_used, planned.main_isSome]
  · intro l used i line specifier renamed target read
    refine ⟨planned.exists_import_line used read, ?_⟩
    intro present kept
    have member := List.mem_of_getElem? read
    have includes := planned.mem_used_of_relativeImport used member kept
    obtain ⟨_, _, _, leads, _⟩ := Record.import?_of_relativeImport member
    -- Specifiers lead to declaration files only, so the base directory alone decides.
    have declares : target.isDeclarationFile = true := by
      rw [leads]
      exact resolveSpecifier_isDeclarationFile _ _ _
    refine ⟨includes, ?_⟩
    rw [planned.mem_wrapped]
    simp [includes, present, declares]

theorem blocks_of_imports_sample :
    ∃ after p, Bundle.run Sample.store Sample.options Sample.root = (after, .ok Sample.result) ∧
      Bundle.plan Sample.store Sample.settings = .ok p ∧
      Sample.main ∈ p.wrapped ∧ Sample.other ∈ p.wrapped ∧
      Output.moduleBlock Sample.settings ['l'] (p.linesAt Sample.main) <:+: Sample.result.content ∧
      Output.moduleBlock Sample.settings "__l/b".toList (p.linesAt Sample.other) <:+:
        Sample.result.content ∧
      ∃ unit, (p.linesAt Sample.main)[0]? = some (Indent.exchange unit Sample.settings.indent
        "import b = require('__l/b');".toList) := by
  obtain ⟨after, p, ran, made, same⟩ := Sample.course.exists_run Sample.resolve_options
  obtain ⟨settings, q, resolved, again, _, blocks, _, main, imports⟩ :=
    blocks_of_imports _ _ _ _ _ ran
  cases Sample.resolve_options.symm.trans resolved
  cases made.symm.trans again
  obtain ⟨⟨_, unit, _, _, _, listed⟩, leads⟩ := imports Sample.main (by decide) 0
    "import b = require('./b');".toList "./b".toList "import b = require('__l/b');".toList
    Sample.other rfl
  have first := main.2 ⟨rfl, rfl⟩
  have second := (leads rfl rfl).2.2 rfl
  have named : Sample.settings.exportedName Sample.other = "__l/b".toList := rfl
  refine ⟨after, p, ran, made, first, second, ?_, ?_, unit, listed⟩
  · exact blocks Sample.main first
  · rw [← named]
    exact blocks Sample.other second

namespace Outside

open Sample (folder text)

def dir : Location := folder.child ⟨['s'], rfl⟩

def main : Location := dir.child ⟨"n.d.ts".toList, rfl⟩

def target : Location := folder.child ⟨"a.d.ts".toList, rfl⟩

/-- The main file imports a file that is outside its directory. -/
def store : MemoryStore := .ofFiles [
  (main, "import \x7b A \x7d from '../a';".toList),
  (target, text ["export declare class A \x7b", "\x7d"])]

def options : Options where
  main := some main.toPath
  name := some ['k']
  headerPath := some ⟨"none".toList⟩

def settings : Settings :=
  { Sample.bareSettings with
    mainFile := main
    name := ['k']
    baseDir := dir.toPath
    outFile := dir.child ⟨"k.d.ts".toList, rfl⟩ }

theorem resolve_options : options.resolve Sample.root = .ok settings := rfl

def result : Result where
  emitted := true
  outputPath := settings.outFile
  content := text [
    "", "declare module 'k' \x7b", "    import \x7b A \x7d from '__k/--/a';", "\x7d", "",
    "export declare class A \x7b", "\x7d", "", ""]
  usedFiles := [main, target]
  excludedFiles := []
  externalDependencies := []
  missingFiles := []

def course : Bundle.Course store settings where
  files := [main, target]
  walkTurns := 2
  used := [main, target]
  usedTurns := 2
  result := result
  main := by decide +kernel
  walks := by decide +kernel
  computes := by decide +kernel

end Outside

/-- An import of a file that is in the bundle can name a block that is not there. -/
theorem import_without_block :
    ∃ after, Bundle.run Outside.store Outside.options Sample.root = (after, .ok Outside.result) ∧
      Outside.options.resolve Sample.root = .ok Outside.settings ∧
      Outside.result.emitted = true ∧ Outside.main ∈ Outside.result.usedFiles ∧
      (Record.readings Outside.store Outside.settings Outside.main)[0]? =
        some ("import \x7b A \x7d from '../a';".toList, .relativeImport "../a".toList Outside.target
          "import \x7b A \x7d from '__k/--/a';".toList) ∧
      (Outside.store.textAt? Outside.target).isSome = true ∧
      Outside.settings.exclude.leavesOut (Outside.settings.displayPath Outside.target) false =
        false ∧
      Text.contains "declare module '__k/--/a'".toList Outside.result.content = false := by
  obtain ⟨after, p, ran, made, same⟩ := Outside.course.exists_run Outside.resolve_options
  exact ⟨after, ran, Outside.resolve_options, rfl, by decide, rfl, rfl, rfl, rfl⟩

end TypingBundle
