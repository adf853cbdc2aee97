import TypingBundle.Proofs.Line.Specifier
import TypingBundle.Proofs.Path.Position
import TypingBundle.Record.Parse

/-!
What a record comes from. Each entry of a record stands for one line of its file, and the lines that
stand behind the entries are listed by `Record.readings`, in the same order.

Main statements: `entries_of_parse` says that the two lists go together, and `mem_declaredModules`
says that a module is declared by one of the lines.
-/

namespace TypingBundle

/-! ### Lines behind entries -/

/-- The lines behind the entries of a line: its documentation, which contributes nothing of its own,
and the line itself unless it is left out. -/
def ReadLine.readings (r : ReadLine) : List (Text × Reading) :=
  r.doc.map (fun line => (line, .nothing)) ++
    match r.reading with
    | .nothing => []
    | .reference _ => []
    | reading => [(r.line, reading)]

/-- The entry of a line with what it contributes. A line without a contribution that has an entry is
one of documentation. -/
def Reading.entry (settings : Settings) (isSource : Bool) (line : Text × Reading) : Entry :=
  (line.2.written? settings isSource line.1).getD { line := Line.alignDoc line.1 }

section

variable {settings : Settings} (isSource : Bool) (line name : Text)

theorem Reading.entry_externalImport (on : settings.externals = true) :
    entry settings isSource (line, .externalImport name) =
      { line, role := .externalImport } := by
  simp [entry, written?, on]

theorem Reading.entry_moduleDeclaration (on : settings.externals = true) :
    entry settings isSource (line, .moduleDeclaration name) = {
      line
      replacement := if isSource then some (Line.dropDeclare line) else none
      role := .moduleDeclaration } := by
  simp [entry, written?, on]

/-- Where externals are left out, no entry can be renamed. -/
theorem Reading.role_entry (off : settings.externals = false) (reading : Reading) :
    (entry settings isSource (line, reading)).role = .settled := by
  cases reading <;> simp [entry, written?, off]

end

theorem ReadLine.entries_eq_map (settings : Settings) (isSource : Bool) (r : ReadLine) :
    r.entries settings isSource = r.readings.map (Reading.entry settings isSource) := by
  obtain ⟨line, doc, reading⟩ := r
  rw [entries, readings, List.map_append, List.map_map]
  congr 1
  cases reading with
  | nothing => rfl
  | blank => rfl
  | reference target => rfl
  | externalImport specifier => rfl
  | untypedImport specifier => rfl
  | relativeImport specifier target renamed => rfl
  | moduleDeclaration name => rfl
  | code => rfl

/-- A line that contributes something is the line that was read, not its documentation. -/
theorem ReadLine.eq_of_mem_readings {r : ReadLine} {line : Text} {reading : Reading}
    (contributes : reading ≠ .nothing) (member : (line, reading) ∈ r.readings) :
    r.line = line ∧ r.reading = reading := by
  obtain ⟨own, doc, found⟩ := r
  rcases List.mem_append.1 member with documentation | itself
  · obtain ⟨other, _, same⟩ := List.mem_map.1 documentation
    cases same
    exact absurd rfl contributes
  · cases found with
    | nothing => cases itself
    | reference target => cases itself
    | _ =>
      cases List.mem_singleton.1 itself
      exact ⟨rfl, rfl⟩

/-- What a line contributes stands behind an entry, unless the line is left out. -/
theorem ReadLine.exists_mem_readings {lines : List ReadLine} {reading : Reading}
    (contributes : reading ≠ .nothing) (stays : ∀ target, reading ≠ .reference target) :
    (∃ line, (line, reading) ∈ lines.flatMap readings) ↔ ∃ r ∈ lines, r.reading = reading := by
  simp only [List.mem_flatMap]
  constructor
  · rintro ⟨line, r, listed, inside⟩
    exact ⟨r, listed, (eq_of_mem_readings contributes inside).2⟩
  · rintro ⟨⟨line, doc, reading⟩, listed, rfl⟩
    refine ⟨line, _, listed, List.mem_append_right _ ?_⟩
    cases reading with
    | nothing => exact absurd rfl contributes
    | reference target => exact absurd rfl (stays target)
    | _ => exact List.mem_singleton.2 rfl

theorem ReadLine.declaredModule?_eq_some {r : ReadLine} {name : Text} :
    r.declaredModule? = some name ↔ r.reading = .moduleDeclaration name := by
  obtain ⟨line, doc, reading⟩ := r
  cases reading <;> simp [declaredModule?]

theorem ReadLine.relativeImport?_eq_some {r : ReadLine} {target : Location} :
    r.relativeImport? = some target ↔
      ∃ specifier renamed, r.reading = .relativeImport specifier target renamed := by
  obtain ⟨line, doc, reading⟩ := r
  cases reading <;> simp [relativeImport?]

/-! ### Scanned lines -/

theorem reads_of_mem_scanLines {state : CommentState} {lines : List Text} {scanned : ScannedLine}
    (member : scanned ∈ scanLines state lines) : scanned.found.Reads scanned.line := by
  induction lines generalizing state with
  | nil => cases member
  | cons line lines ih =>
    rcases List.mem_cons.1 member with rfl | later
    · exact Line.reads_classify line state.inBlock
    · exact ih later

section

variable {σ : Type} [FileStore σ] {store : σ} {settings : Settings} {sources : Sources}
  {file dir : Path} {record : Record} {line name : Text}

theorem resolveSpecifier_isDeclarationFile (store : σ) (dir : Path) (specifier : Text) :
    (resolveSpecifier store dir specifier).isDeclarationFile = true := by
  unfold resolveSpecifier
  dsimp only
  split
  · rw [Location.isDeclarationFile_child]
    decide
  · exact Location.isDeclarationFile_addDeclarationEnding _

theorem readImport_cases (store : σ) (settings : Settings) (dir : Path) (found : Line.Import) :
    readImport store settings dir found = .externalImport found.spec.specifier ∨
      readImport store settings dir found = .untypedImport found.spec.specifier ∨
      let target := resolveSpecifier store dir found.spec.specifier
      readImport store settings dir found = .relativeImport found.spec.specifier target
        (found.spec.withSpecifier (settings.exportedName target)) := by
  unfold readImport
  dsimp only
  split
  · exact Or.inl rfl
  · split
    · exact Or.inr (Or.inl rfl)
    · exact Or.inr (Or.inr rfl)

theorem readLine_eq_externalImport {found : Line.Class}
    (read : readLine store settings dir found = .externalImport name) :
    ∃ imported, found = .importing imported ∧ imported.spec.specifier = name := by
  cases found with
  | importing imported =>
    rw [readLine] at read
    rcases readImport_cases store settings dir imported with ext | untyped | rel
    · rw [ext] at read
      cases read
      exact ⟨imported, rfl, rfl⟩
    · rw [untyped] at read
      cases read
    · rw [rel] at read
      cases read
  | _ => cases read

theorem readLine_eq_moduleDeclaration {found : Line.Class}
    (read : readLine store settings dir found = .moduleDeclaration name) :
    ∃ declared, found = .moduleDeclaration declared ∧ declared.specifier = name := by
  cases found with
  | moduleDeclaration declared =>
    cases read
    exact ⟨declared, rfl, rfl⟩
  | importing imported =>
    rw [readLine] at read
    rcases readImport_cases store settings dir imported with ext | untyped | rel
    · rw [ext] at read
      cases read
    · rw [untyped] at read
      cases read
    · rw [rel] at read
      cases read
  | _ => cases read

theorem readLine_eq_relativeImport {found : Line.Class} {target : Location} {renamed : Text}
    (read : readLine store settings dir found = .relativeImport name target renamed) :
    ∃ imported, found = .importing imported ∧ imported.spec.specifier = name ∧
      target = resolveSpecifier store dir name ∧
      renamed = imported.spec.withSpecifier (settings.exportedName target) := by
  cases found with
  | importing imported =>
    rw [readLine] at read
    rcases readImport_cases store settings dir imported with ext | untyped | rel
    · rw [ext] at read
      cases read
    · rw [untyped] at read
      cases read
    · rw [rel] at read
      cases read
      exact ⟨imported, rfl, rfl, rfl, rfl⟩
  | _ => cases read

/-! ### Records -/

namespace Record

/-- The lines of a file that come into the output, each with what it contributes. There are none if
the file can not be read. -/
def readings (store : σ) (settings : Settings) (file : Path) : List (Text × Reading) :=
  if FileStore.isFile store file then
    match Store.readDeclarations store file with
    | .ok text => (readLines store settings (directory file) text).flatMap ReadLine.readings
    | .error _ => []
  else []

/-- The two ways to a record: from nothing, and from the text of a file. -/
theorem parse_cases (parsed : parse store settings sources file = .ok record) :
    (readings store settings file = [] ∧
        record = blank settings file (sources.contains file) false) ∨
      ∃ text, readings store settings file =
          (readLines store settings (directory file) text).flatMap ReadLine.readings ∧
        record = ofText store settings sources file text := by
  unfold parse at parsed
  unfold readings
  split at parsed
  · rename_i present
    rw [if_pos present]
    cases read : Store.readDeclarations store file with
    | error cause =>
      rw [read] at parsed
      cases parsed
    | ok text =>
      rw [read] at parsed
      cases parsed
      exact Or.inr ⟨text, rfl, rfl⟩
  · rename_i absent
    rw [if_neg absent]
    cases parsed
    exact Or.inl ⟨rfl, rfl⟩

theorem path_of_parse (parsed : parse store settings sources file = .ok record) :
    record.path = file := by
  rcases parse_cases parsed with ⟨_, rfl⟩ | ⟨text, _, rfl⟩
  · rfl
  · rfl

theorem isSource_of_parse (parsed : parse store settings sources file = .ok record) :
    record.isSource = sources.contains file := by
  rcases parse_cases parsed with ⟨_, rfl⟩ | ⟨text, _, rfl⟩
  · rfl
  · rfl

theorem exportedName_of_parse (parsed : parse store settings sources file = .ok record) :
    record.exportedName = settings.exportedName file := by
  rcases parse_cases parsed with ⟨_, rfl⟩ | ⟨text, _, rfl⟩
  · rfl
  · rfl

/-- The entries of a record are those of the lines that come into the output. -/
theorem entries_of_parse (parsed : parse store settings sources file = .ok record) :
    record.entries =
      (readings store settings file).map (Reading.entry settings record.isSource) := by
  rcases parse_cases parsed with ⟨none, rfl⟩ | ⟨text, lines, rfl⟩
  · rw [none]
    rfl
  · have each := funext (ReadLine.entries_eq_map settings (sources.contains file))
    rw [lines, List.map_flatMap]
    simp only [ofText, ofLines, blank, each]

/-- What a line contributes comes from a class that says something true of the line. -/
theorem exists_class_of_mem_readings {reading : Reading} (contributes : reading ≠ .nothing)
    (member : (line, reading) ∈ readings store settings file) :
    ∃ found : Line.Class, found.Reads line ∧
      readLine store settings (directory file) found = reading := by
  unfold readings at member
  split at member
  · split at member
    · obtain ⟨r, listed, inside⟩ := List.mem_flatMap.1 member
      obtain ⟨scanned, scans, rfl⟩ := List.mem_map.1 listed
      obtain ⟨rfl, read⟩ := ReadLine.eq_of_mem_readings contributes inside
      exact ⟨scanned.found, reads_of_mem_scanLines scans, read⟩
    · cases member
  · cases member

/-- A line that imports a module by its name reads as an import of that name. -/
theorem import?_of_mem_readings
    (member : (line, .externalImport name) ∈ readings store settings file) :
    ∃ found, Line.import? line = some found ∧ found.spec.specifier = name := by
  obtain ⟨_, reads, read⟩ := exists_class_of_mem_readings (by simp) member
  obtain ⟨found, rfl, named⟩ := readLine_eq_externalImport read
  exact ⟨found, reads, named⟩

/-- A line that declares a module reads as a declaration of that module. -/
theorem moduleDeclaration?_of_mem_readings
    (member : (line, .moduleDeclaration name) ∈ readings store settings file) :
    ∃ found, Line.moduleDeclaration? line = some found ∧ found.specifier = name := by
  obtain ⟨_, reads, read⟩ := exists_class_of_mem_readings (by simp) member
  obtain ⟨found, rfl, named⟩ := readLine_eq_moduleDeclaration read
  exact ⟨found, reads, named⟩

/-- A line that imports a file reads as an import of a path. It is renamed to the name of the file
that the path leads to. -/
theorem import?_of_relativeImport {target : Location} {renamed : Text}
    (member : (line, .relativeImport name target renamed) ∈ readings store settings file) :
    ∃ found, Line.import? line = some found ∧ found.spec.specifier = name ∧
      target = resolveSpecifier store (directory file) name ∧
      renamed = found.spec.withSpecifier (settings.exportedName target) := by
  obtain ⟨_, reads, read⟩ := exists_class_of_mem_readings (by simp) member
  obtain ⟨found, rfl, parts⟩ := readLine_eq_relativeImport read
  exact ⟨found, reads, parts⟩

/-- A file declares a module by one of its lines. -/
theorem mem_declaredModules (parsed : parse store settings sources file = .ok record) :
    name ∈ record.declaredModules ↔
      ∃ line, (line, .moduleDeclaration name) ∈ readings store settings file := by
  rcases parse_cases parsed with ⟨none, rfl⟩ | ⟨text, lines, rfl⟩
  · rw [none]
    simp [blank]
  · rw [lines, ReadLine.exists_mem_readings (by simp) (by simp)]
    simp only [ofText, ofLines, List.mem_eraseDups, List.mem_filterMap,
      ReadLine.declaredModule?_eq_some]

/-- A file is imported by the lines that lead to it. -/
theorem mem_relativeImports_of_mem_readings {target : Location} {renamed : Text}
    (parsed : parse store settings sources file = .ok record)
    (member : (line, .relativeImport name target renamed) ∈ readings store settings file) :
    target ∈ record.relativeImports := by
  rcases parse_cases parsed with ⟨none, rfl⟩ | ⟨text, lines, rfl⟩
  · rw [none] at member
    cases member
  · rw [lines] at member
    obtain ⟨r, listed, reading⟩ :=
      (ReadLine.exists_mem_readings (by simp) (by simp)).1 ⟨line, member⟩
    simp only [ofText, ofLines, List.mem_eraseDups, List.mem_filterMap,
      ReadLine.relativeImport?_eq_some]
    exact ⟨r, listed, name, renamed, reading⟩

theorem settled_of_parse (off : settings.externals = false)
    (parsed : parse store settings sources file = .ok record) :
    ∀ entry ∈ record.entries, entry.role = .settled := by
  rw [entries_of_parse parsed]
  intro entry member
  obtain ⟨⟨line, reading⟩, _, rfl⟩ := List.mem_map.1 member
  exact Reading.role_entry record.isSource line off reading

end Record
end
end TypingBundle
