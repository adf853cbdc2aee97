import TypingBundle.Proofs.Registry.ImportSites
import TypingBundle.Proofs.Rename

/-!
What renaming leaves alone. The new form of a line is made from its first form, which stays, so
renaming again changes nothing; and only lines that a record lists as imports by name or as
declarations of modules get a new form.

Main statement: `rename_frame`.
-/

namespace TypingBundle

/-! ### Records that differ in replacements -/

/-- A record comes from another one by new replacements at some places, and by nothing else. -/
structure Record.ChangesAt (places : List Nat) (before after : Record) : Prop where
  fields : after = { before with entries := after.entries }
  length : after.entries.length = before.entries.length
  entry : ∀ (i : Nat) (e : Entry), before.entries[i]? = some e → ∃ replacement,
    after.entries[i]? = some { e with replacement } ∧ (i ∉ places → replacement = e.replacement)

/-- The places of the lines that can be renamed. -/
def Record.renamable (record : Record) : List Nat :=
  record.placesOf .moduleDeclaration ++ record.placesOf .externalImport

namespace Record

variable {record : Record} {e : Entry} {i : Nat} {role : Role}

theorem changesAt_refl (places : List Nat) (record : Record) : ChangesAt places record record where
  fields := rfl
  length := rfl
  entry _ e listed := ⟨e.replacement, listed, fun _ => rfl⟩

theorem mem_placesOf (listed : record.entries[i]? = some e) :
    i ∈ record.placesOf role ↔ e.role = role := by
  rw [placesOf, Entry.mem_places, listed]
  simp

/-- New replacements leave the lists of places as they are. -/
theorem ChangesAt.placesOf_eq {places : List Nat} {before after : Record}
    (changes : ChangesAt places before after) (role : Role) :
    after.placesOf role = before.placesOf role := by
  unfold placesOf Entry.places
  rw [changes.length]
  apply List.filter_congr
  intro i inside
  obtain ⟨e, listed⟩ : ∃ e, before.entries[i]? = some e :=
    ⟨_, List.getElem?_eq_getElem (List.mem_range.1 inside)⟩
  obtain ⟨replacement, changed, _⟩ := changes.entry i e listed
  rw [listed, changed]
  rfl

theorem notMem_renamable_iff (listed : record.entries[i]? = some e) :
    i ∉ record.renamable ↔ e.role = .settled := by
  rw [renamable, List.mem_append, mem_placesOf listed, mem_placesOf listed]
  cases e.role <;> simp

end Record

/-- What the role of an entry says of it: a line that can be renamed reads as what it can be renamed
as, and it has lost at most its `declare`. -/
def Entry.FitsRole (isSource : Bool) (e : Entry) : Prop :=
  match e.role with
  | .settled => True
  | .externalImport => e.replacement = none ∧ ∃ found, Line.import? e.line = some found
  | .moduleDeclaration =>
    e.replacement = (if isSource then some (Line.dropDeclare e.line) else none) ∧
      ∃ found, Line.moduleDeclaration? e.line = some found

/-- Every entry of a parsed file has the role that its line was read for. -/
theorem Record.fitsRole_of_parse {σ : Type} [FileStore σ] {store : σ} {settings : Settings}
    {sources : Sources} {file : Path} {record : Record} {e : Entry}
    (parsed : parse store settings sources file = .ok record) (listed : e ∈ record.entries) :
    e.FitsRole record.isSource := by
  rw [entries_of_parse parsed] at listed
  obtain ⟨⟨line, reading⟩, member, rfl⟩ := List.mem_map.1 listed
  cases on : settings.externals with
  | false =>
    rw [Entry.FitsRole, Reading.role_entry _ line on reading]
    trivial
  | true =>
    cases reading with
    | externalImport name =>
      obtain ⟨found, reads, _⟩ := import?_of_mem_readings member
      rw [Reading.entry_externalImport _ _ _ on]
      exact ⟨rfl, found, reads⟩
    | moduleDeclaration name =>
      obtain ⟨found, reads, _⟩ := moduleDeclaration?_of_mem_readings member
      rw [Reading.entry_moduleDeclaration _ _ _ on]
      exact ⟨rfl, found, reads⟩
    | _ => trivial

namespace Rename

variable {settings : Settings} {exports : Exports} {inclusion : Inclusion} {isSource : Bool}
  {r : Record} {e : Entry} {i : Nat}

/-! ### Entries -/

/-- Renaming exchanges the replacement of an entry, and nothing else of it. -/
theorem exists_entry_eq (settings : Settings) (exports : Exports) (inclusion : Inclusion)
    (isSource : Bool) (e : Entry) :
    ∃ replacement, entry settings exports inclusion isSource e = { e with replacement } := by
  unfold entry
  split
  · exact ⟨_, rfl⟩
  · exact ⟨e.replacement, rfl⟩

/-- The new form of an entry does not depend on the form that it has. -/
theorem newText?_with_replacement (e : Entry) (replacement : Option Text) :
    newText? settings exports inclusion isSource { e with replacement } =
      newText? settings exports inclusion isSource e := rfl

theorem entry_entry (e : Entry) :
    entry settings exports inclusion isSource (entry settings exports inclusion isSource e) =
      entry settings exports inclusion isSource e := by
  cases new : newText? settings exports inclusion isSource e with
  | none =>
    have same : entry settings exports inclusion isSource e = e := by rw [entry, new]
    rw [same, same]
  | some text =>
    have changed : entry settings exports inclusion isSource e =
        { e with replacement := some text } := by rw [entry, new]
    rw [changed, entry, newText?_with_replacement, new]

theorem text_of_externalImport (fits : e.FitsRole isSource) (importing : e.role = .externalImport) :
    ∃ found, Line.import? e.line = some found ∧
      (entry settings exports inclusion isSource e).text = found.spec.withSpecifier
        (if (exports.owner? found.spec.specifier).any inclusion.isUsed then
          bundledName settings found.spec.specifier
        else found.spec.specifier) := by
  obtain ⟨line, replacement, role⟩ := e
  obtain rfl := importing
  obtain ⟨rfl, found, reads⟩ := fits
  exact ⟨found, reads, text_externalImport reads⟩

theorem text_of_moduleDeclaration (fits : e.FitsRole isSource)
    (declaring : e.role = .moduleDeclaration) :
    ∃ found, Line.moduleDeclaration? e.line = some found ∧
      (entry settings exports inclusion isSource e).text =
        (if isSource then found.undeclared else found).withSpecifier
          (bundledName settings found.specifier) := by
  obtain ⟨line, replacement, role⟩ := e
  obtain rfl := declaring
  obtain ⟨undeclared, found, reads⟩ := fits
  dsimp only at undeclared reads ⊢
  rw [undeclared]
  exact ⟨found, reads, text_moduleDeclaration reads⟩

/-! ### Records and registries -/

theorem record_record (r : Record) :
    record settings exports inclusion (record settings exports inclusion r) =
      record settings exports inclusion r := by
  simp only [record, List.map_map]
  congr 1
  exact List.map_congr_left fun e _ => entry_entry e

theorem registry_registry (registry : Registry) :
    Rename.registry settings exports inclusion
        (Rename.registry settings exports inclusion registry) =
      Rename.registry settings exports inclusion registry := by
  simp only [Rename.registry, List.map_map]
  congr 1
  apply List.map_congr_left
  rintro ⟨l, r⟩ _
  by_cases used : l ∈ inclusion.used
  · simp [used, record_record]
  · simp [used]

/-- However often a registry is renamed, it is renamed once. -/
theorem iterate_registry (registry : Registry) {n : Nat} (positive : 1 ≤ n) :
    (Rename.registry settings exports inclusion)^[n] registry =
      Rename.registry settings exports inclusion registry := by
  obtain ⟨n, rfl⟩ := Nat.exists_eq_add_of_le' positive
  rw [Function.iterate_succ_apply]
  exact Function.iterate_fixed (registry_registry registry) n

theorem getElem?_record (listed : r.entries[i]? = some e) :
    (record settings exports inclusion r).entries[i]? =
      some (entry settings exports inclusion r.isSource e) := by
  rw [record, List.getElem?_map, listed, Option.map_some]

/-- Renaming changes a record only at the places that it lists. -/
theorem changesAt_record (r : Record) :
    r.ChangesAt r.renamable (record settings exports inclusion r) where
  fields := rfl
  length := by simp [record]
  entry i e listed := by
    obtain ⟨replacement, changed⟩ := exists_entry_eq settings exports inclusion r.isSource e
    refine ⟨replacement, by rw [getElem?_record listed, changed], ?_⟩
    intro unlisted
    have settled : entry settings exports inclusion r.isSource e = e :=
      entry_of_settled ((Record.notMem_renamable_iff listed).1 unlisted)
    exact congrArg Entry.replacement (changed.symm.trans settled)

theorem locations_registry (registry : Registry) :
    (Rename.registry settings exports inclusion registry).locations = registry.locations := by
  simp [Registry.locations, Rename.registry]

/-- A record keeps its place in the registry, and is renamed if it is in the bundle. -/
theorem getElem?_registry {registry : Registry} {k : Nat} {l : Location}
    (place : registry.records[k]? = some (l, r)) :
    (Rename.registry settings exports inclusion registry).records[k]? =
      some (l, if inclusion.isUsed l then record settings exports inclusion r else r) := by
  simp [Rename.registry, place]

end Rename

/-- Renaming the files of a bundle, once or more often, gives one registry. It has the files of the
walked registry in their order, and those that are not in the bundle with their records. A record of
the bundle has changed at most in the replacements of lines that it lists as imports by name or as
declarations of modules. Lines that were redirected to the name of a file are not among these and
keep that name. The lines that are listed are made from their first form: in a declaration stands
the name that its module has in the bundle, in an import stands this name if a file of the bundle
owns the module, and otherwise the name as it was. -/
theorem rename_frame {σ : Type} [FileStore σ] (store : σ) (settings : Settings)
    (sources : Sources) (registry : Registry) (exports : Exports)
    (walked : Registry.walk store settings sources = .ok registry) :
    let inclusion := Inclusion.resolve settings registry exports
    let rename := Rename.registry settings exports inclusion
    (∀ n, 1 ≤ n → rename^[n] registry = rename registry) ∧
      (rename registry).main = registry.main ∧
      (rename registry).externalTypings = registry.externalTypings ∧
      (rename registry).locations = registry.locations ∧
      ∀ (k : Nat) (l : Location) (record : Record), registry.records[k]? = some (l, record) →
        ∃ renamed, (rename registry).records[k]? = some (l, renamed) ∧
          (l ∉ inclusion.used → renamed = record) ∧
          record.ChangesAt record.renamable renamed ∧
          (∀ role, renamed.placesOf role = record.placesOf role) ∧
          ∀ (i : Nat) (e : Entry), record.entries[i]? = some e →
            (∀ found text, e.Redirects found text →
              i ∉ record.renamable ∧ renamed.entries[i]? = some e) ∧
            (l ∈ inclusion.used → i ∈ record.placesOf .externalImport →
              ∃ found, Line.import? e.line = some found ∧
                (renamed.entries[i]?).map Entry.text = some (found.spec.withSpecifier
                  (if (exports.owner? found.spec.specifier).any inclusion.isUsed then
                    Rename.bundledName settings found.spec.specifier
                  else found.spec.specifier))) ∧
            (l ∈ inclusion.used → i ∈ record.placesOf .moduleDeclaration →
              ∃ found, Line.moduleDeclaration? e.line = some found ∧
                (renamed.entries[i]?).map Entry.text =
                  some ((if record.isSource then found.undeclared else found).withSpecifier
                    (Rename.bundledName settings found.specifier))) := by
  intro inclusion rename
  have made := Registry.walked_of_walk walked
  refine ⟨fun n => Rename.iterate_registry registry, rfl, rfl,
    Rename.locations_registry registry, ?_⟩
  intro k l record place
  have parsed := made.parsed (l, record) (List.mem_of_getElem? place)
  -- The one frame for records that are renamed and for those that are not.
  have changes : record.ChangesAt record.renamable
      (if inclusion.isUsed l then Rename.record settings exports inclusion record else record) := by
    split
    · exact Rename.changesAt_record record
    · exact Record.changesAt_refl _ record
  refine ⟨_, Rename.getElem?_registry place, ?_, changes, changes.placesOf_eq, ?_⟩
  · intro unused
    simp [unused]
  intro i e listed
  have member := List.mem_of_getElem? listed
  have fits := Record.fitsRole_of_parse parsed member
  refine ⟨?_, ?_, ?_⟩
  · intro found text redirects
    have settled := (Record.mem_readings_of_redirects parsed member redirects).1
    have unlisted := (Record.notMem_renamable_iff listed).2 settled
    obtain ⟨replacement, kept, same⟩ := changes.entry i e listed
    refine ⟨unlisted, ?_⟩
    rw [kept, same unlisted]
  · intro used importing
    obtain ⟨found, reads, text⟩ :=
      Rename.text_of_externalImport fits ((Record.mem_placesOf listed).1 importing)
    refine ⟨found, reads, ?_⟩
    rw [if_pos (Inclusion.isUsed_iff.2 used), Rename.getElem?_record listed, Option.map_some, text]
  · intro used declaring
    obtain ⟨found, reads, text⟩ :=
      Rename.text_of_moduleDeclaration fits ((Record.mem_placesOf listed).1 declaring)
    refine ⟨found, reads, ?_⟩
    rw [if_pos (Inclusion.isUsed_iff.2 used), Rename.getElem?_record listed, Option.map_some, text]

/-- The entries of the main file of the sample: one that is redirected, and two imports by name. -/
theorem Sample.entries_main :
    (Record.parse store settings sources main).map Record.entries = .ok [
      { line := "import b = require('./b');".toList,
        replacement := some "import b = require('__l/b');".toList },
      { line := "import e = require('e');".toList, role := .externalImport },
      { line := "import f = require('f');".toList, role := .externalImport }] := by
  decide +kernel

/-- The main file is the first of the registry of the sample. -/
theorem Sample.getElem?_records {registry : Registry}
    (walked : Registry.walk store settings sources = .ok registry) :
    ∃ record, registry.records[0]? = some (main, record) ∧
      Record.parse store settings sources main = .ok record := by
  have made := Registry.walked_of_walk walked
  have locations : registry.locations = [main, other] := by
    rw [made.locations, discovered_eq]
  have head : (registry.records[0]?).map Prod.fst = some main := by
    rw [← List.getElem?_map]
    exact congrArg (fun files => files[0]?) locations
  obtain ⟨⟨l, record⟩, first, same⟩ := Option.map_eq_some_iff.1 head
  obtain rfl : l = main := same
  exact ⟨record, first, made.parsed _ (List.mem_of_getElem? first)⟩

theorem rename_frame_sample :
    ∃ registry exports record renamed,
      Registry.walk Sample.store Sample.settings Sample.sources = .ok registry ∧
      Exports.build registry = .ok exports ∧
      let rename := Rename.registry Sample.settings exports
        (Inclusion.resolve Sample.settings registry exports)
      rename^[3] registry = rename registry ∧
      registry.records[0]? = some (Sample.main, record) ∧
      (rename registry).records[0]? = some (Sample.main, renamed) ∧
      renamed.entries[0]? = record.entries[0]? ∧
      (record.entries[1]?).map Entry.text = some "import e = require('e');".toList ∧
      (renamed.entries[1]?).map Entry.text = some "import e = require('__l/__/e');".toList := by
  obtain ⟨registry, exports, walked, built, owners, used⟩ := Sample.exists_resolve
  obtain ⟨again, _, _, _, each⟩ := rename_frame Sample.store Sample.settings Sample.sources registry
    exports walked
  obtain ⟨record, first, parsed⟩ := Sample.getElem?_records walked
  obtain ⟨_, read, entries⟩ := except_map_eq_ok.1 Sample.entries_main
  cases parsed.symm.trans read
  obtain ⟨renamed, place, _, _, _, lines⟩ := each 0 _ _ first
  have includes : Sample.main ∈ (Inclusion.resolve Sample.settings registry exports).used := by
    rw [used]
    exact List.mem_cons_self
  have owned : exports.owner? ['e'] = some Sample.other := by simp [Exports.owner?, owners]
  obtain ⟨imported, redirected⟩ : ∃ found,
      Line.import? "import b = require('./b');".toList = some found :=
    Option.isSome_iff_exists.1 (by decide +kernel)
  obtain ⟨_, kept⟩ := (lines 0 _ (by rw [entries]; rfl)).1 imported _ ⟨redirected, rfl⟩
  obtain ⟨found, reads, text⟩ := (lines 1 { line := _, role := .externalImport }
    (by rw [entries]; rfl)).2.1 includes ((Record.mem_placesOf (by rw [entries]; rfl)).2 rfl)
  refine ⟨registry, exports, record, renamed, walked, built, again 3 (by decide), first, place, ?_,
    ?_, ?_⟩
  · rw [kept, entries]
    rfl
  · rw [entries]
    rfl
  · have spelled : (Line.import? "import e = require('e');".toList).map (fun found =>
        (found.spec.specifier, found.spec.withSpecifier
          (Rename.bundledName Sample.settings ['e']))) =
        some (['e'], "import e = require('__l/__/e');".toList) := by decide +kernel
    rw [reads] at spelled
    obtain ⟨named, written⟩ := Prod.mk.inj (Option.some.inj spelled)
    rw [text, named, owned, if_pos (by simp [used]), written]

end TypingBundle
