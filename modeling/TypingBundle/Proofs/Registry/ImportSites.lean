import TypingBundle.Proofs.Inclusion.Omissions

/-!
Imports of files, from the line that imports to the file that is imported. The line gets the name of
the file before the file is read, and the record of the file gets its name without knowledge of the
lines that import it. The two names are the same.

Main statement: `redirects_to_exportedName`.
-/

namespace TypingBundle

/-- An entry is written with another import than the one it was read as. -/
structure Entry.Redirects (e : Entry) (found : Line.Import) (text : Text) : Prop where
  reads : Line.import? e.line = some found
  replaced : e.replacement = some text

/-! ### Records -/

namespace Record

variable {σ : Type} [FileStore σ] {store : σ} {settings : Settings} {sources : Sources}
  {file : Path} {record : Record} {e : Entry} {found : Line.Import} {text : Text}
  {target : Location}

/-- Only imports of files are redirected when a file is parsed. -/
theorem mem_readings_of_redirects (parsed : parse store settings sources file = .ok record)
    (listed : e ∈ record.entries) (redirects : e.Redirects found text) :
    e.role = .settled ∧ ∃ target,
      (e.line, .relativeImport found.spec.specifier target text) ∈ readings store settings file := by
  rw [entries_of_parse parsed] at listed
  obtain ⟨⟨line, reading⟩, member, rfl⟩ := List.mem_map.1 listed
  obtain ⟨reads, replaced⟩ := redirects
  cases reading with
  | relativeImport specifier target renamed =>
    obtain ⟨other, reads', rfl, _⟩ := import?_of_relativeImport member
    cases reads'.symm.trans reads
    cases replaced
    exact ⟨rfl, target, member⟩
  -- A declaration can have lost its `declare`, but then its line does not read as an import.
  | moduleDeclaration name =>
    obtain ⟨declared, declares, _⟩ := moduleDeclaration?_of_mem_readings member
    cases (Line.import?_of_moduleDeclaration? declares).symm.trans reads
  | nothing => cases replaced
  | blank => cases replaced
  | reference target => cases replaced
  | externalImport specifier => cases replaced
  | untypedImport specifier => cases replaced
  | code => cases replaced

/-- A redirected import is written with the name of the file that its specifier leads to. -/
theorem text_of_redirects (parsed : parse store settings sources file = .ok record)
    (listed : e ∈ record.entries) (redirects : e.Redirects found text) :
    let target := resolveSpecifier store (directory file) found.spec.specifier
    target ∈ record.relativeImports ∧
      text = found.spec.withSpecifier (settings.exportedName target) := by
  obtain ⟨_, target, member⟩ := mem_readings_of_redirects parsed listed redirects
  obtain ⟨other, reads, _, rfl, renamed⟩ := import?_of_relativeImport member
  cases reads.symm.trans redirects.reads
  exact ⟨mem_relativeImports_of_mem_readings parsed member, renamed⟩

theorem exists_mem_readings_of_mem_relativeImports
    (parsed : parse store settings sources file = .ok record)
    (imports : target ∈ record.relativeImports) :
    ∃ line specifier renamed,
      (line, .relativeImport specifier target renamed) ∈ readings store settings file := by
  rcases parse_cases parsed with ⟨_, rfl⟩ | ⟨source, lines, rfl⟩
  · cases imports
  · simp only [ofText, ofLines, List.mem_eraseDups, List.mem_filterMap,
      ReadLine.relativeImport?_eq_some] at imports
    obtain ⟨r, listed, specifier, renamed, reading⟩ := imports
    obtain ⟨line, member⟩ :=
      (ReadLine.exists_mem_readings (by simp) (by simp)).2 ⟨r, listed, reading⟩
    rw [lines]
    exact ⟨line, specifier, renamed, member⟩

/-- Each file that a file imports is imported by one of its redirected lines. -/
theorem exists_redirects (parsed : parse store settings sources file = .ok record)
    (imports : target ∈ record.relativeImports) :
    ∃ e ∈ record.entries, ∃ found text, e.Redirects found text ∧
      resolveSpecifier store (directory file) found.spec.specifier = target := by
  obtain ⟨line, specifier, renamed, member⟩ :=
    exists_mem_readings_of_mem_relativeImports parsed imports
  obtain ⟨found, reads, rfl, leads, _⟩ := import?_of_relativeImport member
  refine ⟨{ line, replacement := some renamed }, ?_, found, renamed, ⟨reads, rfl⟩, leads.symm⟩
  rw [entries_of_parse parsed]
  exact List.mem_map.2 ⟨_, member, rfl⟩

end Record

/-! ### Registries -/

section

variable {σ : Type} [FileStore σ] {store : σ} {settings : Settings} {sources : Sources}
  {registry : Registry} {exports : Exports} {l target : Location} {record : Record}

/-- A file that is imported by a path has a record, which has its name. -/
theorem Registry.Walked.exists_exportedName (walked : Walked store settings sources registry)
    (found : registry.get? l = some record) (imports : target ∈ record.relativeImports) :
    ∃ other, registry.get? target = some other ∧
      other.exportedName = settings.exportedName target := by
  obtain ⟨member, parsed⟩ := walked.parse_of_get? found
  have listed := walked.mem_locations_of_names member ⟨record, parsed, Or.inr imports⟩
  obtain ⟨other, known⟩ := Registry.exists_get? listed
  exact ⟨other, known, Record.exportedName_of_parse (walked.parse_of_get? known).2⟩

/-- A file that the bundle imports by a path is in the bundle or kept out of it. -/
theorem Inclusion.mem_used_or_excluded (walked : Registry.Walked store settings sources registry)
    (built : Exports.build registry = .ok exports) (found : registry.get? l = some record)
    (imports : target ∈ record.relativeImports)
    (used : l ∈ (resolve settings registry exports).used) :
    target ∈ (resolve settings registry exports).used ∨
      target ∈ (resolve settings registry exports).excluded := by
  cases left : settings.exclude.leavesOut (settings.displayPath target) false with
  | false =>
    exact Or.inl (mem_used_of_follows walked built used
      ⟨record, found, Or.inl ⟨imports, left⟩⟩)
  | true => exact Or.inr (mem_excluded.2 ⟨l, used, record, found, Or.inl ⟨imports, left⟩⟩)

end

/-- Imports of files and the files themselves agree on names. A line of a walked registry that was
redirected keeps all but the specifier of its import, and has the name of the record of the file that
the specifier leads to. That file is among those imported by the record, and if the record is in the
bundle, the file is in the bundle or kept out by the filter. There are no other files among those
imported by the record. So all lines that lead to one file, however they spell the way, have one
name for it. -/
theorem redirects_to_exportedName {σ : Type} [FileStore σ] (store : σ) (settings : Settings)
    (sources : Sources) (registry : Registry)
    (walked : Registry.walk store settings sources = .ok registry) :
    (∀ l record, registry.get? l = some record →
      (∀ e ∈ record.entries, ∀ found text, e.Redirects found text →
        let target := resolveSpecifier store (Record.directory l) found.spec.specifier
        e.line = found.spec.withSpecifier found.spec.specifier ∧
        target ∈ record.relativeImports ∧
        (∃ other, registry.get? target = some other ∧
          text = found.spec.withSpecifier other.exportedName) ∧
        ∀ exports, Exports.build registry = .ok exports →
          l ∈ (Inclusion.resolve settings registry exports).used →
          target ∈ (Inclusion.resolve settings registry exports).used ∨
            target ∈ (Inclusion.resolve settings registry exports).excluded) ∧
      ∀ target ∈ record.relativeImports, ∃ e ∈ record.entries, ∃ found text,
        e.Redirects found text ∧
          resolveSpecifier store (Record.directory l) found.spec.specifier = target) ∧
      ∀ target, ∃ name, ∀ l record, registry.get? l = some record →
        ∀ e ∈ record.entries, ∀ found text, e.Redirects found text →
          resolveSpecifier store (Record.directory l) found.spec.specifier = target →
          text = found.spec.withSpecifier name := by
  have made := Registry.walked_of_walk walked
  constructor
  · intro l record found
    have parsed := (made.parse_of_get? found).2
    refine ⟨?_, fun target => Record.exists_redirects parsed⟩
    intro e listed imported text redirects
    obtain ⟨imports, renamed⟩ := Record.text_of_redirects parsed listed redirects
    obtain ⟨other, known, named⟩ := made.exists_exportedName found imports
    refine ⟨(Line.withSpecifier_import? redirects.reads).symm, imports, ⟨other, known, ?_⟩, ?_⟩
    · rw [named]
      exact renamed
    · intro exports built used
      exact Inclusion.mem_used_or_excluded made built found imports used
  · intro target
    refine ⟨settings.exportedName target, ?_⟩
    rintro l record found e listed imported text redirects rfl
    exact (Record.text_of_redirects (made.parse_of_get? found).2 listed redirects).2

/-! ### One file under several spellings -/

namespace Spellings

open Sample (main folder text bareSettings)

def inner : Location := folder.child ⟨['x'], rfl⟩

def index : Location := inner.child Name.directoryIndex

def target : Location := inner.child ⟨"core.d.ts".toList, rfl⟩

/-- The main file imports a directory and a file in it, and the index of the directory imports the
same file from inside and from outside. -/
def store : MemoryStore := .ofFiles [
  (main, text ["import x = require('./x');", "import c = require('./x/core');"]),
  (index, text ["export * from './core';", "export * from \"../x/./core\";"]),
  (target, "export declare const c: 1;".toList)]

def sources : Sources := Bundle.sources store bareSettings

theorem discovered_eq : Registry.discovered store bareSettings sources = [main, index, target] := by
  apply Registry.discovered_of_turns (n := 3)
  decide +kernel

/-- The entries of the index, written as the bundle has them. -/
theorem entries_eq :
    (Record.parse store bareSettings sources index).map Record.entries = .ok [
      { line := "export * from './core';".toList,
        replacement := some "export * from '__l/x/core';".toList },
      { line := "export * from \"../x/./core\";".toList,
        replacement := some "export * from \"__l/x/core\";".toList }] := by
  decide +kernel

end Spellings

theorem redirects_to_exportedName_spellings :
    ∃ registry index target,
      Registry.walk Spellings.store Sample.bareSettings Spellings.sources = .ok registry ∧
      registry.get? Spellings.index = some index ∧
      registry.get? Spellings.target = some target ∧
      index.entries.length = 2 ∧
      ∀ e ∈ index.entries, ∃ found text, e.Redirects found text ∧
        text = found.spec.withSpecifier target.exportedName ∧
        Spellings.target ∈ index.relativeImports := by
  obtain ⟨registry, walked⟩ := Spellings.store.exists_walk Sample.bareSettings Spellings.sources
  have made := Registry.walked_of_walk walked
  have locations : registry.locations = [Sample.main, Spellings.index, Spellings.target] := by
    rw [made.locations, Spellings.discovered_eq]
  have visited : Spellings.index ∈ registry.locations ∧ Spellings.target ∈ registry.locations := by
    simp [locations]
  obtain ⟨index, found⟩ := Registry.exists_get? visited.1
  obtain ⟨target, known⟩ := Registry.exists_get? visited.2
  obtain ⟨sites, _⟩ := redirects_to_exportedName Spellings.store Sample.bareSettings
    Spellings.sources registry walked
  obtain ⟨redirected, _⟩ := sites Spellings.index index found
  obtain ⟨parsed, same, entries⟩ := except_map_eq_ok.1 Spellings.entries_eq
  cases (made.parse_of_get? found).2.symm.trans same
  have site : ∀ e ∈ index.entries, ∀ imported text, e.Redirects imported text →
      resolveSpecifier Spellings.store (Record.directory Spellings.index)
        imported.spec.specifier = Spellings.target →
      text = imported.spec.withSpecifier target.exportedName ∧
        Spellings.target ∈ index.relativeImports := by
    intro e listed imported text redirects leads
    obtain ⟨_, imports, ⟨other, registered, renamed⟩, _⟩ :=
      redirected e listed imported text redirects
    rw [leads] at imports registered
    cases known.symm.trans registered
    exact ⟨renamed, imports⟩
  refine ⟨registry, index, target, walked, found, known, by rw [entries]; rfl, ?_⟩
  intro e listed
  have inside := listed
  rw [entries] at inside
  simp only [List.mem_cons, List.not_mem_nil, or_false] at inside
  rcases inside with rfl | rfl
  · exact ⟨_, _, ⟨rfl, rfl⟩, site _ listed _ _ ⟨rfl, rfl⟩ rfl⟩
  · exact ⟨_, _, ⟨rfl, rfl⟩, site _ listed _ _ ⟨rfl, rfl⟩ rfl⟩

end TypingBundle
