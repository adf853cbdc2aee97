import TypingBundle.Proofs.Inclusion
import TypingBundle.Rename

/-!
What renaming does to a bundle: an import by name and the declarations of the module it names are
given the same name, and all other imports by name keep theirs.

Main statement: `rename_links`.
-/

namespace TypingBundle

/-- The text of an entry of a file, by its place. -/
def Registry.textAt? (registry : Registry) (l : Location) (i : Nat) : Option Text :=
  (registry.get? l).bind fun record => (record.entries[i]?).map Entry.text

namespace Rename

/-- The name of a module in a bundle that has the module: generated for a plain name, and any other
name as it is. -/
def bundledName (settings : Settings) (name : Text) : Text :=
  if Specifier.isPlain name then settings.libraryName name else name

variable {settings : Settings} {exports : Exports} {inclusion : Inclusion} {isSource : Bool}
  {line : Text}

/-! ### Entries -/

theorem entry_of_settled {e : Entry} (settled : e.role = .settled) :
    entry settings exports inclusion isSource e = e := by
  simp [entry, newText?, settled]

/-- An import by name is written with the name of its module in the bundle, if the module is in the
bundle. -/
theorem text_externalImport {found : Line.Import} (read : Line.import? line = some found) :
    (entry settings exports inclusion isSource { line, role := .externalImport }).text =
      found.spec.withSpecifier
        (if (exports.owner? found.spec.specifier).any inclusion.isUsed then
          bundledName settings found.spec.specifier
        else found.spec.specifier) := by
  have same := Line.withSpecifier_import? read
  by_cases plain : Specifier.isPlain found.spec.specifier = true
  · by_cases owned : (exports.owner? found.spec.specifier).any inclusion.isUsed = true
    · simp [entry, newText?, importing?, importOutcome?, read, plain, owned, bundledName, Entry.text]
    · simp [entry, newText?, importing?, importOutcome?, read, plain, owned, Entry.text, same]
  · simp [entry, newText?, importing?, importOutcome?, read, plain, bundledName, Entry.text, same]

/-- A declaration is written with the name of its module in the bundle, and in a source without its
`declare`. -/
theorem text_moduleDeclaration {found : Line.QuotedSpecifier}
    (read : Line.moduleDeclaration? line = some found) :
    (entry settings exports inclusion isSource {
      line
      replacement := if isSource then some (Line.dropDeclare line) else none
      role := .moduleDeclaration }).text =
      (if isSource then found.undeclared else found).withSpecifier
        (bundledName settings found.specifier) := by
  have same := Line.withSpecifier_moduleDeclaration? read
  have undeclared := Line.dropDeclare_withSpecifier read
  have unnamed : Line.dropDeclare line = found.undeclared.withSpecifier found.specifier := by
    rw [← undeclared, same]
  by_cases plain : Specifier.isPlain found.specifier = true
  · cases isSource <;>
      simp [entry, newText?, declaration?, read, plain, bundledName, Entry.text, undeclared]
  · cases isSource <;>
      simp [entry, newText?, declaration?, read, plain, bundledName, Entry.text, unnamed, same]

/-! ### Registries -/

theorem get?_registry (registry : Registry) (l : Location) :
    (Rename.registry settings exports inclusion registry).get? l =
      (registry.get? l).map fun r =>
        if inclusion.isUsed l then record settings exports inclusion r else r := by
  -- Renaming keeps the locations, so the entry that is found first is that of the same file.
  simp only [Registry.get?, Rename.registry, List.find?_map, Option.map_map, Function.comp_def]
  cases found : registry.records.find? fun entry => entry.1 = l with
  | none => rfl
  | some entry =>
    have same : entry.1 = l := by simpa using List.find?_some found
    simp only [Option.map_some, same]

/-- Where nothing is left to rename, renaming changes nothing. -/
theorem registry_of_settled {registry : Registry}
    (settled : ∀ entry ∈ registry.records, ∀ e ∈ entry.2.entries, e.role = .settled) :
    Rename.registry settings exports inclusion registry = registry := by
  have unchanged : ∀ r : Record, (∀ e ∈ r.entries, e.role = .settled) →
      record settings exports inclusion r = r := by
    intro r roles
    have entries : r.entries.map (entry settings exports inclusion r.isSource) = r.entries := by
      conv_rhs => rw [← List.map_id r.entries]
      exact List.map_congr_left fun e member => entry_of_settled (roles e member)
    rw [record, entries]
  have records : (Rename.registry settings exports inclusion registry).records =
      registry.records := by
    conv_rhs => rw [← List.map_id registry.records]
    apply List.map_congr_left
    intro entry member
    simp [unchanged entry.2 (settled entry member)]
  exact congrArg (fun records => { registry with records }) records

section

variable {σ : Type} [FileStore σ] {store : σ} {sources : Sources} {registry : Registry}
  {l : Location} {i : Nat} {reading : Reading}

/-- The text of a line of the bundle after renaming, from what was read in its file. -/
theorem textAt?_registry (walked : Registry.Walked store settings sources registry)
    (parsed : l ∈ registry.locations) (used : l ∈ inclusion.used)
    (read : (Record.readings store settings l)[i]? = some (line, reading)) :
    (Rename.registry settings exports inclusion registry).textAt? l i =
      some (entry settings exports inclusion (sources.contains l)
        (Reading.entry settings (sources.contains l) (line, reading))).text := by
  obtain ⟨r, found⟩ := Registry.exists_get? parsed
  have made := (walked.parse_of_get? found).2
  have entries := Record.entries_of_parse made
  rw [Record.isSource_of_parse made] at entries
  rw [Registry.textAt?, get?_registry, found, Option.map_some, if_pos (Inclusion.isUsed_iff.2 used),
    Option.bind_some, record, Record.isSource_of_parse made, entries]
  simp [read]

/-- An import of a file keeps the name that the file has in the bundle. -/
theorem textAt?_relativeImport (walked : Registry.Walked store settings sources registry)
    (parsed : l ∈ registry.locations) (used : l ∈ inclusion.used) {specifier renamed : Text}
    {target : Location}
    (read : (Record.readings store settings l)[i]? =
      some (line, .relativeImport specifier target renamed)) :
    (Rename.registry settings exports inclusion registry).textAt? l i = some renamed := by
  rw [textAt?_registry walked parsed used read, entry_of_settled rfl]
  rfl

/-- An import by name in the bundle follows the module that it names. -/
theorem textAt?_externalImport (walked : Registry.Walked store settings sources registry)
    (on : settings.externals = true) (parsed : l ∈ registry.locations) (used : l ∈ inclusion.used)
    {name : Text}
    (read : (Record.readings store settings l)[i]? = some (line, .externalImport name)) :
    ∃ found, Line.import? line = some found ∧ found.spec.specifier = name ∧
      (Rename.registry settings exports inclusion registry).textAt? l i =
        some (found.spec.withSpecifier
          (if (exports.owner? name).any inclusion.isUsed then bundledName settings name
          else name)) := by
  obtain ⟨found, reads, rfl⟩ := Record.import?_of_mem_readings (List.mem_of_getElem? read)
  refine ⟨found, reads, rfl, ?_⟩
  rw [textAt?_registry walked parsed used read, Reading.entry_externalImport _ _ _ on,
    text_externalImport reads]

/-- A declaration in the bundle has the name of its module there. -/
theorem textAt?_moduleDeclaration (walked : Registry.Walked store settings sources registry)
    (on : settings.externals = true) (parsed : l ∈ registry.locations) (used : l ∈ inclusion.used)
    {name : Text}
    (read : (Record.readings store settings l)[i]? = some (line, .moduleDeclaration name)) :
    ∃ found, Line.moduleDeclaration? line = some found ∧ found.specifier = name ∧
      (Rename.registry settings exports inclusion registry).textAt? l i =
        some ((if sources.contains l then found.undeclared else found).withSpecifier
          (bundledName settings name)) := by
  obtain ⟨found, reads, rfl⟩ :=
    Record.moduleDeclaration?_of_mem_readings (List.mem_of_getElem? read)
  refine ⟨found, reads, rfl, ?_⟩
  rw [textAt?_registry walked parsed used read, Reading.entry_moduleDeclaration _ _ _ on,
    text_moduleDeclaration reads]

/-- The owner of a module has a line that declares it. -/
theorem exists_moduleDeclaration_of_owner?
    (walked : Registry.Walked store settings sources registry)
    (built : Exports.build registry = .ok exports) {name : Text}
    (owned : exports.owner? name = some l) :
    ∃ (j : Nat) (line : Text),
      (Record.readings store settings l)[j]? = some (line, .moduleDeclaration name) := by
  obtain ⟨r, listed, declares⟩ := Exports.exists_record_of_owner? built owned
  obtain ⟨line, member⟩ := (Record.mem_declaredModules (walked.parsed _ listed)).1 declares
  obtain ⟨j, place⟩ := List.mem_iff_getElem?.1 member
  exact ⟨j, line, place⟩

end
end Rename

/-- Renaming links the imports of a bundle with its modules. In every file of the bundle, an import
of a module that a file of the bundle owns has the same name as all lines that declare the module in
its owner, and there is such a line; any other import by name is left as it is. Where externals are
left out, nothing is renamed. -/
theorem rename_links {σ : Type} [FileStore σ] (store : σ) (settings : Settings)
    (sources : Sources) (registry : Registry) (exports : Exports)
    (walked : Registry.walk store settings sources = .ok registry)
    (built : Exports.build registry = .ok exports) :
    let inclusion := Inclusion.resolve settings registry exports
    let renamed := Rename.registry settings exports inclusion registry
    (settings.externals = true → ∀ l ∈ inclusion.used, ∀ (i : Nat) (line name : Text),
      (Record.readings store settings l)[i]? = some (line, .externalImport name) →
      ∃ found, Line.import? line = some found ∧ found.spec.specifier = name ∧
        (∀ owner ∈ inclusion.used, exports.owner? name = some owner →
          renamed.textAt? l i =
            some (found.spec.withSpecifier (Rename.bundledName settings name)) ∧
          (∃ (j : Nat) (declaring : Text), (Record.readings store settings owner)[j]? =
            some (declaring, .moduleDeclaration name)) ∧
          ∀ (j : Nat) (declaring : Text), (Record.readings store settings owner)[j]? =
              some (declaring, .moduleDeclaration name) →
            ∃ declared, Line.moduleDeclaration? declaring = some declared ∧
              declared.specifier = name ∧
              renamed.textAt? owner j =
                some ((if sources.contains owner then declared.undeclared
                  else declared).withSpecifier (Rename.bundledName settings name))) ∧
        ((∀ owner ∈ inclusion.used, exports.owner? name ≠ some owner) →
          renamed.textAt? l i = some line)) ∧
      (settings.externals = false → renamed = registry) := by
  intro inclusion renamed
  have made := Registry.walked_of_walk walked
  have parsed : ∀ l ∈ inclusion.used, l ∈ registry.locations := by
    intro l used
    obtain ⟨r, found⟩ := Inclusion.exists_get?_of_mem_used used
    exact Registry.mem_locations_of_get? found
  constructor
  · intro on l used i line name read
    obtain ⟨found, reads, named, text⟩ :=
      Rename.textAt?_externalImport made on (parsed l used) used read
    refine ⟨found, reads, named, ?_, ?_⟩
    · intro owner includes owned
      have linked : (exports.owner? name).any inclusion.isUsed = true := by
        rw [owned]
        exact Inclusion.isUsed_iff.2 includes
      rw [if_pos linked] at text
      refine ⟨text, Rename.exists_moduleDeclaration_of_owner? made built owned, ?_⟩
      intro j declaring declares
      exact Rename.textAt?_moduleDeclaration made on (parsed owner includes) includes declares
    · intro left
      have unlinked : ¬ (exports.owner? name).any inclusion.isUsed = true := by
        intro linked
        obtain ⟨owner, owned, includes⟩ := (Option.any_eq_true _ _).1 linked
        exact left owner (Inclusion.isUsed_iff.1 includes) owned
      rw [if_neg unlinked, ← named, Line.withSpecifier_import? reads] at text
      exact text
  · intro off
    apply Rename.registry_of_settled
    intro entry member
    exact Record.settled_of_parse off (made.parsed entry member)

theorem rename_links_sample :
    ∃ registry exports,
      Registry.walk Sample.store Sample.settings Sample.sources = .ok registry ∧
      Exports.build registry = .ok exports ∧
      let inclusion := Inclusion.resolve Sample.settings registry exports
      let renamed := Rename.registry Sample.settings exports inclusion registry
      renamed.textAt? Sample.main 1 = some "import e = require('__l/__/e');".toList ∧
        renamed.textAt? Sample.other 1 = some "module '__l/__/e' \x7b".toList ∧
        renamed.textAt? Sample.main 2 = some "import f = require('f');".toList := by
  obtain ⟨registry, exports, walked, built, owners, used⟩ := Sample.exists_resolve
  obtain ⟨links, _⟩ := rename_links Sample.store Sample.settings Sample.sources registry exports
    walked built
  have main : Sample.main ∈ (Inclusion.resolve Sample.settings registry exports).used := by
    rw [used]
    exact List.mem_cons_self
  have other : Sample.other ∈ (Inclusion.resolve Sample.settings registry exports).used := by
    rw [used]
    exact List.mem_cons_of_mem _ List.mem_cons_self
  obtain ⟨found, reads, _, linked, _⟩ := links rfl Sample.main main 1
    "import e = require('e');".toList ['e'] (by decide +kernel)
  obtain ⟨importing, _, declares⟩ := linked Sample.other other (by simp [Exports.owner?, owners])
  obtain ⟨declared, declaration, _, declaring⟩ :=
    declares 1 "declare module 'e' \x7b".toList (by decide +kernel)
  obtain ⟨_, _, _, _, unlinked⟩ := links rfl Sample.main main 2
    "import f = require('f');".toList ['f'] (by decide +kernel)
  refine ⟨registry, exports, walked, built, ?_, ?_, unlinked (by simp [Exports.owner?, owners])⟩
  · have spelled : (Line.import? "import e = require('e');".toList).map (fun found =>
        found.spec.withSpecifier (Rename.bundledName Sample.settings ['e'])) =
        some "import e = require('__l/__/e');".toList := by decide +kernel
    rw [reads] at spelled
    rw [importing]
    exact spelled
  · have spelled : (Line.moduleDeclaration? "declare module 'e' \x7b".toList).map (fun found =>
        found.undeclared.withSpecifier (Rename.bundledName Sample.settings ['e'])) =
        some "module '__l/__/e' \x7b".toList := by decide +kernel
    rw [declaration] at spelled
    rw [declaring]
    exact spelled

end TypingBundle
