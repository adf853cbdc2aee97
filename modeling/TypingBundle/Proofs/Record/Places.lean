import TypingBundle.Proofs.Record.Classified
import TypingBundle.Proofs.Record.Lines
import TypingBundle.Proofs.Rename.Frame

/-!
The places of the lines of a record that can be renamed. They are found by the roles of entries, and
they are those that are noted if the entries are written one after the other: documentation comes
before the line it belongs to, and the place of a line is noted when its own entry is written.

Main statement: `places_of_parse`: the lists of places, the lines at these places and the names in
the record fit together, and renaming place by place always finds an entry.
-/

namespace TypingBundle

/-! ### Places in a list of entries -/

namespace Entry

variable {entries : List Entry} {e : Entry} {role : Role} {i : Nat}

theorem lt_of_mem_places (member : i ∈ places role entries) : i < entries.length := by
  obtain ⟨e, listed, _⟩ := mem_places.1 member
  exact (List.getElem?_eq_some_iff.1 listed).1

theorem pairwise_places (role : Role) (entries : List Entry) :
    (places role entries).Pairwise (· < ·) :=
  List.pairwise_lt_range.filter _

theorem places_eq_nil (none : ∀ e ∈ entries, e.role ≠ role) : places role entries = [] := by
  rw [List.eq_nil_iff_forall_not_mem]
  intro i member
  obtain ⟨e, listed, fits⟩ := mem_places.1 member
  exact none e (List.mem_of_getElem? listed) fits

/-- An entry has one role, so no place is listed for two. -/
theorem disjoint_places {role' : Role} (different : role ≠ role') :
    (places role entries).Disjoint (places role' entries) := by
  intro i member member'
  obtain ⟨e, listed, fits⟩ := mem_places.1 member
  obtain ⟨e', listed', fits'⟩ := mem_places.1 member'
  cases listed.symm.trans listed'
  exact different (fits.symm.trans fits')

/-- The place of a new entry is the number of entries before it. -/
theorem places_concat (role : Role) (entries : List Entry) (e : Entry) :
    places role (entries ++ [e]) =
      places role entries ++ if e.role = role then [entries.length] else [] := by
  rw [places, List.length_append, List.length_singleton, List.range_succ, List.filter_append]
  congr 1
  · refine List.filter_congr fun i inside => ?_
    rw [List.getElem?_append_left (List.mem_range.1 inside)]
  · by_cases fits : e.role = role
    · simp [fits]
    · simp [fits]

/-- The entries at the places of a role are those with the role. -/
theorem filterMap_places (role : Role) (entries : List Entry) :
    (places role entries).filterMap (entries[·]?) = entries.filter (·.role = role) := by
  induction entries using List.reverseRecOn with
  | nil => rfl
  | append_singleton entries e ih =>
    rw [places_concat, List.filterMap_append, List.filter_append, ← ih]
    congr 1
    · refine List.filterMap_congr fun i member => ?_
      rw [List.getElem?_append_left (lt_of_mem_places member)]
    · by_cases fits : e.role = role
      · simp [fits]
      · simp [fits]

/-- Entries with one of them changed, if there is one at the place. -/
def change? (f : Entry → Entry) (entries : List Entry) (i : Nat) : Option (List Entry) :=
  (entries[i]?).map fun e => entries.set i (f e)

/-- Changing entries place by place finds each of them, if the places are different and among those
of the entries. -/
theorem foldlM_change? (f : Entry → Entry) {places : List Nat} (nodup : places.Nodup)
    (inside : ∀ i ∈ places, i < entries.length) :
    ∃ changed, places.foldlM (change? f) entries = some changed ∧
      ∀ k, changed[k]? = (entries[k]?).map fun e => if k ∈ places then f e else e := by
  induction places generalizing entries with
  | nil => exact ⟨entries, rfl, by simp⟩
  | cons i places ih =>
    obtain ⟨unlisted, nodup⟩ := List.nodup_cons.1 nodup
    have here := inside i List.mem_cons_self
    -- The later places are other ones, so the entries there are as they were.
    have later : ∀ j ∈ places, j < (entries.set i (f entries[i])).length := by
      intro j member
      rw [List.length_set]
      exact inside j (List.mem_cons_of_mem _ member)
    obtain ⟨changed, run, each⟩ := ih nodup later
    refine ⟨changed, ?_, ?_⟩
    · rw [List.foldlM_cons, change?, List.getElem?_eq_getElem here]
      exact run
    · intro k
      rw [each k]
      by_cases same : i = k
      · subst same
        simp [here, unlisted]
      · simp [List.getElem?_set_ne same, Ne.symm same]

end Entry

/-! ### Places that are noted -/

/-- What has been written while lines were read: the entries, and the places among them that were
noted for renaming. -/
@[ext]
structure Draft where
  entries : List Entry := []
  imports : List Nat := []
  declarations : List Nat := []

namespace Draft

variable {settings : Settings} {isSource : Bool} {d : Draft} {e : Entry}

/-- The draft with another entry. -/
def push (d : Draft) (e : Entry) : Draft := { d with entries := d.entries ++ [e] }

/-- The place of the last entry noted as that of an import by name. -/
def noteImport (d : Draft) : Draft := { d with imports := d.imports ++ [d.entries.length - 1] }

/-- The place of the last entry noted as that of a module declaration. -/
def noteDeclaration (d : Draft) : Draft :=
  { d with declarations := d.declarations ++ [d.entries.length - 1] }

/-- The draft with the entries of a line: those of its documentation and then its own, whose place
is noted if the line can be renamed and externals are taken in. -/
def add (settings : Settings) (isSource : Bool) (d : Draft) (r : ReadLine) : Draft :=
  let documented := r.doc.foldl (fun d line => d.push { line := Line.alignDoc line }) d
  match r.reading.written? settings isSource r.line with
  | none => documented
  | some e =>
    match r.reading, settings.externals with
    | .externalImport _, true => (documented.push e).noteImport
    | .moduleDeclaration _, true => (documented.push e).noteDeclaration
    | _, _ => documented.push e

/-- The noted places are those of the entries with a role. -/
structure Agrees (d : Draft) : Prop where
  imports : d.imports = Entry.places .externalImport d.entries
  declarations : d.declarations = Entry.places .moduleDeclaration d.entries

/-- With another entry, its place has to be noted as the role of the entry says. -/
theorem Agrees.concat (agrees : d.Agrees) (e : Entry) :
    Agrees ⟨d.entries ++ [e],
      d.imports ++ (if e.role = .externalImport then [d.entries.length] else []),
      d.declarations ++ (if e.role = .moduleDeclaration then [d.entries.length] else [])⟩ := by
  constructor
  · rw [Entry.places_concat, agrees.imports]
  · rw [Entry.places_concat, agrees.declarations]

theorem Agrees.push (agrees : d.Agrees) (settled : e.role = .settled) : (d.push e).Agrees := by
  simpa [Draft.push, settled] using agrees.concat e

theorem Agrees.noteImport (agrees : d.Agrees) (role : e.role = .externalImport) :
    (d.push e).noteImport.Agrees := by
  simpa [Draft.push, Draft.noteImport, role] using agrees.concat e

theorem Agrees.noteDeclaration (agrees : d.Agrees) (role : e.role = .moduleDeclaration) :
    (d.push e).noteDeclaration.Agrees := by
  simpa [Draft.push, Draft.noteDeclaration, role] using agrees.concat e

/-- Documentation moves the place of the line behind it, and nothing is noted for it. -/
theorem document (agrees : d.Agrees) (doc : List Text) :
    let documented := doc.foldl (fun d line => d.push { line := Line.alignDoc line }) d
    documented.Agrees ∧
      documented.entries = d.entries ++ doc.map fun line => { line := Line.alignDoc line } := by
  induction doc generalizing d with
  | nil => exact ⟨agrees, by simp⟩
  | cons line doc ih =>
    obtain ⟨agrees, entries⟩ := ih (agrees.push (e := { line := Line.alignDoc line }) rfl)
    refine ⟨agrees, ?_⟩
    rw [List.foldl_cons, entries]
    simp [push]

/-- A line of any kind leaves the noted places in agreement with the entries. -/
theorem Agrees.add (agrees : d.Agrees) (settings : Settings) (isSource : Bool) (r : ReadLine) :
    (d.add settings isSource r).Agrees ∧
      (d.add settings isSource r).entries = d.entries ++ r.entries settings isSource := by
  obtain ⟨line, doc, reading⟩ := r
  obtain ⟨agrees, entries⟩ := document agrees doc
  rw [ReadLine.entries, ← List.append_assoc, ← entries]
  unfold Draft.add
  cases reading with
  | nothing => exact ⟨agrees, (List.append_nil _).symm⟩
  | reference target => exact ⟨agrees, (List.append_nil _).symm⟩
  | blank => exact ⟨agrees.push rfl, rfl⟩
  | untypedImport specifier => exact ⟨agrees.push rfl, rfl⟩
  | relativeImport specifier target renamed => exact ⟨agrees.push rfl, rfl⟩
  | code => exact ⟨agrees.push rfl, rfl⟩
  | externalImport specifier =>
    simp only [Reading.written?]
    cases settings.externals with
    | true => exact ⟨agrees.noteImport rfl, rfl⟩
    | false => exact ⟨agrees.push rfl, rfl⟩
  | moduleDeclaration name =>
    simp only [Reading.written?]
    cases settings.externals with
    | true => exact ⟨agrees.noteDeclaration rfl, rfl⟩
    | false => exact ⟨agrees.push rfl, rfl⟩

/-- All lines together write the entries and note their places. -/
theorem Agrees.foldl (agrees : d.Agrees) (settings : Settings) (isSource : Bool)
    (lines : List ReadLine) :
    (lines.foldl (Draft.add settings isSource) d).Agrees ∧
      (lines.foldl (Draft.add settings isSource) d).entries =
        d.entries ++ lines.flatMap (ReadLine.entries settings isSource) := by
  induction lines generalizing d with
  | nil => exact ⟨agrees, by simp⟩
  | cons r lines ih =>
    obtain ⟨agrees', entries⟩ := agrees.add settings isSource r
    obtain ⟨agrees'', entries'⟩ := ih agrees'
    refine ⟨agrees'', ?_⟩
    rw [List.foldl_cons, entries', entries, List.flatMap_cons, List.append_assoc]

theorem foldl_add (settings : Settings) (isSource : Bool) (lines : List ReadLine) :
    let entries := lines.flatMap (ReadLine.entries settings isSource)
    lines.foldl (add settings isSource) {} =
      ⟨entries, Entry.places .externalImport entries, Entry.places .moduleDeclaration entries⟩ := by
  intro entries
  have start : Agrees {} := ⟨rfl, rfl⟩
  obtain ⟨⟨imports, declarations⟩, written⟩ := start.foldl settings isSource lines
  rw [written] at imports declarations
  exact Draft.ext written imports declarations

end Draft

/-! ### The lines of a file -/

namespace Line.Class

/-- What a line of the class can be renamed as: an import of something that is no path, or the
declaration of a module. -/
def role : Class → Role
  | .importing found => if Specifier.isPath found.spec.specifier then .settled else .externalImport
  | .moduleDeclaration _ => .moduleDeclaration
  | _ => .settled

theorem role_eq_externalImport_iff {found : Class} :
    found.role = .externalImport ↔
      ∃ imported, found = .importing imported ∧
        Specifier.isPath imported.spec.specifier = false := by
  cases found with
  | importing imported =>
    cases path : Specifier.isPath imported.spec.specifier with
    | true => simp [role, path]
    | false => simp [role, path]
  | _ => simp [role]

theorem role_eq_moduleDeclaration_iff {found : Class} :
    found.role = .moduleDeclaration ↔ ∃ declared, found = .moduleDeclaration declared := by
  cases found with
  | importing imported =>
    cases path : Specifier.isPath imported.spec.specifier with
    | true => simp [role, path]
    | false => simp [role, path]
  | _ => simp [role]

end Line.Class

theorem Classified.reads_of_mem {text line : Text} {found : Line.Class}
    (member : (line, found) ∈ ofText text) : found.Reads line := by
  rw [← map_scan, List.mem_map] at member
  obtain ⟨scanned, scans, same⟩ := member
  cases same
  exact reads_of_mem_scanLines scans

section

variable {σ : Type} [FileStore σ] {store : σ} {settings : Settings} {sources : Sources}
  {file dir : Path} {record : Record} {text line name : Text} {isSource : Bool} {role : Role}

/-- Where externals are taken in, the entry of a line has the role of its class. -/
theorem filter_written (on : settings.externals = true) (renamable : role ≠ .settled)
    (found : Line.Class) (line : Text) :
    (((readLine store settings dir found).written? settings isSource line).toList.filter
        (·.role = role)).map Entry.line = if found.role = role then [line] else [] := by
  cases found with
  | importing imported =>
    cases path : Specifier.isPath imported.spec.specifier with
    | false =>
      have read : readLine store settings dir (.importing imported) =
          .externalImport imported.spec.specifier := by
        simp [readLine, readImport, path]
      rw [read]
      by_cases same : Role.externalImport = role
      · simp [Reading.written?, Line.Class.role, on, path, same]
      · simp [Reading.written?, Line.Class.role, on, path, same]
    | true =>
      rw [readLine]
      unfold readImport
      by_cases untyped : (imported.style = .sideEffect && !FileStore.isFile store
          (resolveSpecifier store dir imported.spec.specifier)) = true
      · simp [path, untyped, Reading.written?, Line.Class.role, renamable.symm]
      · simp [path, untyped, Reading.written?, Line.Class.role, renamable.symm]
  | moduleDeclaration declared =>
    by_cases same : Role.moduleDeclaration = role
    · simp [readLine, Reading.written?, Line.Class.role, on, same]
    · simp [readLine, Reading.written?, Line.Class.role, on, same]
  | _ => simp [readLine, Reading.written?, Line.Class.role, renamable.symm]

/-- The lines of the entries with a role are the lines of the classes with that role. -/
theorem map_line_filter_entries (on : settings.externals = true) (renamable : role ≠ .settled)
    (text : Text) :
    (((readLines store settings dir text).flatMap (ReadLine.entries settings isSource)).filter
        (·.role = role)).map Entry.line =
      ((Classified.ofText text).filter (·.2.role = role)).map Prod.fst := by
  rw [← Classified.map_scan, readLines]
  induction scan text with
  | nil => rfl
  | cons scanned rest ih =>
    have doc : (scanned.doc.map fun line => ({ line := Line.alignDoc line } : Entry)).filter
        (·.role = role) = [] := by
      simp [renamable.symm]
    rw [List.map_cons, List.flatMap_cons, List.filter_append, List.map_append, ih, ReadLine.entries,
      List.filter_append, doc, List.nil_append, filter_written on renamable]
    by_cases same : scanned.found.role = role
    · simp [same]
    · simp [same]

theorem readLine_eq_externalImport_iff {found : Line.Class} :
    readLine store settings dir found = .externalImport name ↔
      ∃ imported, found = .importing imported ∧
        Specifier.isPath imported.spec.specifier = false ∧ imported.spec.specifier = name := by
  constructor
  · intro read
    obtain ⟨imported, rfl, named⟩ := readLine_eq_externalImport read
    refine ⟨imported, rfl, ?_, named⟩
    rw [readLine] at read
    unfold readImport at read
    cases path : Specifier.isPath imported.spec.specifier with
    | false => rfl
    | true =>
      simp only [path, Bool.not_true, Bool.false_eq_true, if_false] at read
      split at read
      · cases read
      · cases read
  · rintro ⟨imported, rfl, path, rfl⟩
    simp [readLine, readImport, path]

/-! ### Records -/

namespace Record

/-- The text of a file, if there is one that can be read. -/
def text? (store : σ) (file : Path) : Option Text :=
  if FileStore.isFile store file then (Store.readDeclarations store file).toOption else none

/-- The lines of a file with their classes. -/
def classified (store : σ) (file : Path) : Classified :=
  (text? store file).elim [] Classified.ofText

/-- The lines of a file with what they contribute. -/
def linesRead (store : σ) (settings : Settings) (file : Path) : List ReadLine :=
  (text? store file).elim [] (readLines store settings (directory file))

/-- The lines of entries as they were before any change. -/
def originals (record : Record) (places : List Nat) : List Text :=
  (places.filterMap (record.entries[·]?)).map Entry.line

/-- A record collects what the lines of its file contribute. -/
theorem collected_of_parse (parsed : parse store settings sources file = .ok record) :
    let lines := linesRead store settings file
    record.entries = lines.flatMap (ReadLine.entries settings record.isSource) ∧
      record.externalImports = (lines.filterMap ReadLine.externalImport?).eraseDups ∧
      record.declaredModules = (lines.filterMap ReadLine.declaredModule?).eraseDups := by
  unfold parse at parsed
  unfold linesRead text?
  split at parsed
  next present =>
    rw [if_pos present]
    cases read : Store.readDeclarations store file with
    | error cause =>
      rw [read] at parsed
      cases parsed
    | ok text =>
      rw [read] at parsed
      cases parsed
      exact ⟨rfl, rfl, rfl⟩
  next absent =>
    rw [if_neg absent]
    cases parsed
    exact ⟨rfl, rfl, rfl⟩

/-- Lines are read from the classified lines of the file. -/
theorem exists_mem_linesRead {reading : Reading} :
    (∃ r ∈ linesRead store settings file, r.reading = reading) ↔
      ∃ line found, (line, found) ∈ classified store file ∧
        readLine store settings (directory file) found = reading := by
  unfold linesRead classified
  cases text? store file with
  | none => simp
  | some text => simp [readLines, ← Classified.map_scan]

theorem reads_of_mem_classified {found : Line.Class}
    (member : (line, found) ∈ classified store file) : found.Reads line := by
  unfold classified at member
  cases read : text? store file with
  | none =>
    rw [read] at member
    cases member
  | some text =>
    rw [read] at member
    exact Classified.reads_of_mem member

theorem originals_placesOf (parsed : parse store settings sources file = .ok record)
    (on : settings.externals = true) (renamable : role ≠ .settled) :
    record.originals (record.placesOf role) =
      ((classified store file).filter (·.2.role = role)).map Prod.fst := by
  rw [originals, placesOf, Entry.filterMap_places, (collected_of_parse parsed).1]
  unfold linesRead classified
  cases text? store file with
  | none => rfl
  | some text => exact map_line_filter_entries on renamable text

theorem mem_originals_imports (parsed : parse store settings sources file = .ok record)
    (on : settings.externals = true) :
    line ∈ record.originals (record.placesOf .externalImport) ↔ ∃ imported,
      (line, .importing imported) ∈ classified store file ∧
        Specifier.isPath imported.spec.specifier = false := by
  rw [originals_placesOf parsed on (by decide), List.mem_map]
  simp only [List.mem_filter, decide_eq_true_eq, Line.Class.role_eq_externalImport_iff]
  constructor
  · rintro ⟨⟨line, found⟩, ⟨listed, imported, rfl, named⟩, rfl⟩
    exact ⟨imported, listed, named⟩
  · rintro ⟨imported, listed, named⟩
    exact ⟨_, ⟨listed, imported, rfl, named⟩, rfl⟩

theorem mem_originals_declarations (parsed : parse store settings sources file = .ok record)
    (on : settings.externals = true) :
    line ∈ record.originals (record.placesOf .moduleDeclaration) ↔ ∃ declared,
      (line, .moduleDeclaration declared) ∈ classified store file := by
  rw [originals_placesOf parsed on (by decide), List.mem_map]
  simp only [List.mem_filter, decide_eq_true_eq, Line.Class.role_eq_moduleDeclaration_iff]
  constructor
  · rintro ⟨⟨line, found⟩, ⟨listed, declared, rfl⟩, rfl⟩
    exact ⟨declared, listed⟩
  · rintro ⟨declared, listed⟩
    exact ⟨_, ⟨listed, declared, rfl⟩, rfl⟩

/-- A module is imported by its name exactly if a line says so. -/
theorem mem_externalImports_iff (parsed : parse store settings sources file = .ok record) :
    name ∈ record.externalImports ↔ ∃ line imported,
      (line, .importing imported) ∈ classified store file ∧
        Specifier.isPath imported.spec.specifier = false ∧ imported.spec.specifier = name := by
  rw [(collected_of_parse parsed).2.1, List.mem_eraseDups, List.mem_filterMap]
  simp only [ReadLine.externalImport?_eq_some, exists_mem_linesRead,
    readLine_eq_externalImport_iff]
  constructor
  · rintro ⟨line, _, listed, imported, rfl, named⟩
    exact ⟨line, imported, listed, named⟩
  · rintro ⟨line, imported, listed, named⟩
    exact ⟨line, _, listed, imported, rfl, named⟩

/-- A module is declared exactly if a line says so. -/
theorem mem_declaredModules_iff (parsed : parse store settings sources file = .ok record) :
    name ∈ record.declaredModules ↔ ∃ line declared,
      (line, .moduleDeclaration declared) ∈ classified store file ∧ declared.specifier = name := by
  rw [(collected_of_parse parsed).2.2, List.mem_eraseDups, List.mem_filterMap]
  simp only [ReadLine.declaredModule?_eq_some, exists_mem_linesRead]
  constructor
  · rintro ⟨line, _, listed, read⟩
    obtain ⟨declared, rfl, named⟩ := readLine_eq_moduleDeclaration read
    exact ⟨line, declared, listed, named⟩
  · rintro ⟨line, declared, listed, rfl⟩
    exact ⟨line, _, listed, rfl⟩

theorem mem_externalImports_iff_originals (parsed : parse store settings sources file = .ok record)
    (on : settings.externals = true) :
    name ∈ record.externalImports ↔
      ∃ line ∈ record.originals (record.placesOf .externalImport),
        ∃ found, Line.import? line = some found ∧ found.spec.specifier = name := by
  rw [mem_externalImports_iff parsed]
  constructor
  · rintro ⟨line, imported, listed, path, named⟩
    exact ⟨line, (mem_originals_imports parsed on).2 ⟨imported, listed, path⟩, imported,
      reads_of_mem_classified listed, named⟩
  · rintro ⟨line, member, found, reads, named⟩
    obtain ⟨imported, listed, path⟩ := (mem_originals_imports parsed on).1 member
    cases reads.symm.trans (reads_of_mem_classified listed)
    exact ⟨line, found, listed, path, named⟩

theorem mem_declaredModules_iff_originals (parsed : parse store settings sources file = .ok record)
    (on : settings.externals = true) :
    name ∈ record.declaredModules ↔
      ∃ line ∈ record.originals (record.placesOf .moduleDeclaration),
        ∃ found, Line.moduleDeclaration? line = some found ∧ found.specifier = name := by
  rw [mem_declaredModules_iff parsed]
  constructor
  · rintro ⟨line, declared, listed, named⟩
    exact ⟨line, (mem_originals_declarations parsed on).2 ⟨declared, listed⟩, declared,
      reads_of_mem_classified listed, named⟩
  · rintro ⟨line, member, found, reads, named⟩
    obtain ⟨declared, listed⟩ := (mem_originals_declarations parsed on).1 member
    cases reads.symm.trans (reads_of_mem_classified listed)
    exact ⟨line, found, listed, named⟩

theorem nodup_renamable (record : Record) : record.renamable.Nodup := by
  have increasing (role : Role) : (record.placesOf role).Nodup :=
    (Entry.pairwise_places role record.entries).imp Nat.ne_of_lt
  refine List.nodup_append.2 ⟨increasing _, increasing _, ?_⟩
  rintro i member _ member' rfl
  exact Entry.disjoint_places (by decide) member member'

theorem lt_of_mem_renamable {i : Nat} (member : i ∈ record.renamable) :
    i < record.entries.length := by
  rcases List.mem_append.1 member with member | member
  · exact Entry.lt_of_mem_places member
  · exact Entry.lt_of_mem_places member

/-- Renaming the entries at the listed places, one after the other, is renaming the record. -/
theorem foldlM_renamable (settings : Settings) (exports : Exports) (inclusion : Inclusion)
    (record : Record) :
    record.renamable.foldlM
        (Entry.change? (Rename.entry settings exports inclusion record.isSource)) record.entries =
      some (Rename.record settings exports inclusion record).entries := by
  obtain ⟨changed, run, each⟩ :=
    Entry.foldlM_change? (Rename.entry settings exports inclusion record.isSource)
      (nodup_renamable record) (fun i => lt_of_mem_renamable)
  rw [run, Option.some.injEq]
  apply List.ext_getElem?
  intro k
  rw [each k, Rename.record, List.getElem?_map]
  cases listed : record.entries[k]? with
  | none => rfl
  | some e =>
    by_cases member : k ∈ record.renamable
    · simp [member]
    · have settled := (notMem_renamable_iff listed).1 member
      simp [member, Rename.entry_of_settled settled]

end Record
end

/-- The lists of places in the record of a parsed file. They are the places that are noted while the
entries are written line by line. They are strictly increasing, have no place in common, and are
places of entries, so that renaming place by place never fails and renames the record. Where
externals are left out there are none. Where they are taken in, the original lines at the first list
are, in their order, exactly the lines of the file that import something other than a path, and what
they import is what the record lists as imported by name; those at the second list are exactly the
lines that declare modules, and these modules are what the record lists as declared. No line of the
first list has been changed. -/
theorem places_of_parse {σ : Type} [FileStore σ] (store : σ) (settings : Settings)
    (sources : Sources) (file : Path) (record : Record)
    (parsed : Record.parse store settings sources file = .ok record) :
    let imports := record.placesOf .externalImport
    let declarations := record.placesOf .moduleDeclaration
    let lines := Record.classified store file
    (Record.linesRead store settings file).foldl (Draft.add settings record.isSource) {} =
        ⟨record.entries, imports, declarations⟩ ∧
      (imports.Pairwise (· < ·) ∧ declarations.Pairwise (· < ·) ∧ imports.Disjoint declarations ∧
        ∀ i ∈ imports ++ declarations, i < record.entries.length) ∧
      (∀ exports inclusion, (declarations ++ imports).foldlM
          (Entry.change? (Rename.entry settings exports inclusion record.isSource))
          record.entries =
        some (Rename.record settings exports inclusion record).entries) ∧
      (settings.externals = false → imports = [] ∧ declarations = []) ∧
      (settings.externals = true →
        record.originals imports =
            (lines.filter (·.2.role = .externalImport)).map Prod.fst ∧
          (∀ line ∈ record.originals imports, ∃ found, Line.import? line = some found ∧
            Specifier.isPath found.spec.specifier = false) ∧
          (∀ name, name ∈ record.externalImports ↔ ∃ line ∈ record.originals imports,
            ∃ found, Line.import? line = some found ∧ found.spec.specifier = name) ∧
          record.originals declarations =
            (lines.filter (·.2.role = .moduleDeclaration)).map Prod.fst ∧
          (∀ line ∈ record.originals declarations,
            ∃ found, Line.moduleDeclaration? line = some found) ∧
          ∀ name, name ∈ record.declaredModules ↔ ∃ line ∈ record.originals declarations,
            ∃ found, Line.moduleDeclaration? line = some found ∧ found.specifier = name) ∧
      ∀ i ∈ imports, ∀ e, record.entries[i]? = some e → e.replacement = none := by
  intro imports declarations lines
  refine ⟨?_, ⟨?_, ?_, ?_, ?_⟩, ?_, ?_, ?_, ?_⟩
  · rw [Draft.foldl_add, ← (Record.collected_of_parse parsed).1]
    rfl
  · exact Entry.pairwise_places _ _
  · exact Entry.pairwise_places _ _
  · exact Entry.disjoint_places (by decide)
  · intro i member
    rcases List.mem_append.1 member with member | member
    · exact Entry.lt_of_mem_places member
    · exact Entry.lt_of_mem_places member
  · intro exports inclusion
    exact Record.foldlM_renamable settings exports inclusion record
  · intro off
    have settled := Record.settled_of_parse off parsed
    refine ⟨Entry.places_eq_nil ?_, Entry.places_eq_nil ?_⟩
    · intro e member
      simp [settled e member]
    · intro e member
      simp [settled e member]
  · intro on
    refine ⟨Record.originals_placesOf parsed on (by decide), ?_,
      fun name => Record.mem_externalImports_iff_originals parsed on,
      Record.originals_placesOf parsed on (by decide), ?_,
      fun name => Record.mem_declaredModules_iff_originals parsed on⟩
    · intro line member
      obtain ⟨imported, listed, named⟩ := (Record.mem_originals_imports parsed on).1 member
      exact ⟨imported, Record.reads_of_mem_classified listed, named⟩
    · intro line member
      obtain ⟨declared, listed⟩ := (Record.mem_originals_declarations parsed on).1 member
      exact ⟨declared, Record.reads_of_mem_classified listed⟩
  · intro i member e listed
    have importing := (Record.mem_placesOf listed).1 member
    have fits := Record.fitsRole_of_parse parsed (List.mem_of_getElem? listed)
    rw [Entry.FitsRole, importing] at fits
    exact fits.1

namespace Sample

/-- Documentation stands before an import of a file and before the first of two imports by name. -/
def annotated : Text :=
  ("/** a */\nimport b = require('./b');\n/**\n* c\n*/\nimport e = require('e');\n" ++
    "export * from 'f';\ndeclare module 'g' \x7b").toList

/-- The main file alone, with these lines. -/
def annotatedStore : MemoryStore := .ofFiles [(main, annotated)]

end Sample

theorem places_of_parse_annotated :
    ∃ record,
      Record.parse Sample.annotatedStore Sample.settings Sample.sources Sample.main = .ok record ∧
      Sample.settings.externals = true ∧
      record.placesOf .externalImport = [5, 6] ∧ record.placesOf .moduleDeclaration = [7] ∧
      record.originals [5, 6] =
        ["import e = require('e');".toList, "export * from 'f';".toList] ∧
      ['f'] ∈ record.externalImports ∧
      (record.entries[5]?).map Entry.replacement = some none := by
  have places : (Record.parse Sample.annotatedStore Sample.settings Sample.sources
      Sample.main).map (fun record =>
        (record.placesOf .externalImport, record.placesOf .moduleDeclaration,
          record.entries.length)) = .ok ([5, 6], [7], 8) := by decide +kernel
  obtain ⟨record, parsed, found⟩ := except_map_eq_ok.1 places
  simp only [Prod.mk.injEq] at found
  obtain ⟨imports, declarations, length⟩ := found
  obtain ⟨_, _, _, _, on, unchanged⟩ := places_of_parse _ _ _ _ record parsed
  obtain ⟨originals, _, names, _⟩ := on rfl
  rw [imports] at originals names unchanged
  have lines : ((Record.classified Sample.annotatedStore Sample.main).filter
      (·.2.role = .externalImport)).map Prod.fst =
        ["import e = require('e');".toList, "export * from 'f';".toList] := by decide +kernel
  rw [lines] at originals
  rw [originals] at names
  refine ⟨record, parsed, rfl, imports, declarations, originals, ?_, ?_⟩
  · refine (names ['f']).2 ⟨"export * from 'f';".toList, by simp, ?_⟩
    exact ⟨⟨.esModule, ⟨"export * from ".toList, '\x27', ['f'], [';']⟩⟩, by decide +kernel, rfl⟩
  · have listed : record.entries[5]? = some record.entries[5] := List.getElem?_eq_getElem (by omega)
    rw [listed, Option.map_some, unchanged 5 (by simp) _ listed]

end TypingBundle
