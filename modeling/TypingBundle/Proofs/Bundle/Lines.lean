import TypingBundle.Proofs.Bundle.Turns
import TypingBundle.Proofs.Path.OneLine
import TypingBundle.Proofs.Record.Lines
import TypingBundle.Proofs.Rename

/-!
The lines of a bundle. Every phase keeps lines apart: what is read from a line, renamed or generated
stays on one line. So the text of a bundle splits into the lines that were put into it.

Main statement: `splitOn_content`.
-/

namespace TypingBundle

/-! ### Names -/

/-- Settings whose own texts stand on one line each. -/
structure Settings.OneLine (s : Settings) : Prop where
  name : '\n' ∉ s.name
  namePrefix : '\n' ∉ s.namePrefix
  separator : '\n' ∉ s.separator
  indent : '\n' ∉ s.indent
  mainFile : '\n' ∉ s.mainFile.text

namespace Settings.OneLine

variable {s : Settings} {l : Location}

theorem exportedName (plain : s.OneLine) (file : '\n' ∉ l.text) : '\n' ∉ s.exportedName l := by
  have stem : '\n' ∉ s.moduleName l :=
    Text.notMem_replaceChar (by decide)
      (Path.notMem_relative (by decide) s.baseDir (Location.notMem_dropDeclarationEnding file))
  have position : '\n' ∉ s.foldedPosition l :=
    Text.notMem_replaceChar plain.separator (Text.notMem_replacePair (by decide) stem)
  unfold Settings.exportedName Settings.positionName
  split
  · exact plain.name
  · simp [plain.namePrefix, plain.name, plain.separator, position]

theorem libraryName (plain : s.OneLine) {identifier : Text} (named : '\n' ∉ identifier) :
    '\n' ∉ s.libraryName identifier := by
  simp [Settings.libraryName, plain.namePrefix, plain.name, plain.separator, named]

end Settings.OneLine

theorem Settings.notMem_displayPath (s : Settings) {l : Location} (file : '\n' ∉ l.text) :
    '\n' ∉ s.displayPath l :=
  Text.notMem_replaceChar (by decide) (Path.notMem_relative (by decide) s.baseDir file)

/-! ### Files -/

theorem Record.notMem_directory {l : Location} (file : '\n' ∉ l.text) :
    '\n' ∉ (Record.directory l).text := by
  rw [Record.directory_toPath]
  split
  · simp
  · rw [Location.notMem_text_iff (by decide)] at file
    refine (Location.notMem_text_iff (by decide)).2 fun n member => ?_
    exact file n (List.dropLast_subset _ member)

theorem Record.Leads.notMem {dir : Path} {target : Location} (leads : Record.Leads dir target)
    (plain : '\n' ∉ dir.text) : '\n' ∉ target.text := by
  cases leads with
  | reference path => exact Path.notMem_locate plain path
  | file path => exact Location.notMem_addDeclarationEnding (Path.notMem_locate plain path)
  | index path => exact Location.notMem_child (Path.notMem_locate plain path) (by decide)

section

variable {σ : Type} [FileStore σ] {store : σ} {settings : Settings} {sources : Sources}
  {registry : Registry} {exports : Exports} {inclusion : Inclusion} {l m : Location} {n : Nat}
  {record : Record}

namespace Registry

theorem notMem_of_names (names : Names store settings sources l m) (file : '\n' ∉ l.text) :
    '\n' ∉ m.text := by
  obtain ⟨record, parsed, listed⟩ := names
  have leads := Record.leads_of_mem_successors parsed (List.mem_append.2 listed)
  exact leads.notMem (Record.notMem_directory file)

theorem notMem_of_reaches (main : '\n' ∉ settings.mainFile.text)
    (reached : Graph.Reaches (Names store settings sources) settings.mainFile n l) :
    '\n' ∉ l.text := by
  induction reached with
  | start => exact main
  | step _ names ih => exact notMem_of_names names ih

/-- All files of a walk stand on one line, if the main file does. -/
theorem Walked.notMem_of_mem (walked : Walked store settings sources registry)
    (main : '\n' ∉ settings.mainFile.text) (member : l ∈ registry.locations) : '\n' ∉ l.text := by
  obtain ⟨n, reached⟩ := (walked.breadthFirst.mem_iff l).1 member
  rw [walked.main] at reached
  exact notMem_of_reaches main reached

end Registry

/-! ### Entries -/

/-- An entry whose first and last form stand on one line. -/
structure Entry.OneLine (entry : Entry) : Prop where
  line : '\n' ∉ entry.line
  text : '\n' ∉ entry.text

theorem Entry.OneLine.of_line {line : Text} (plain : '\n' ∉ line) (role : Role) :
    Entry.OneLine { line, role } := ⟨plain, plain⟩

namespace Record

theorem oneLine_of_mem_readings (plain : settings.OneLine) (file : '\n' ∉ l.text)
    {line : Text} {reading : Reading} (isSource : Bool)
    (member : (line, reading) ∈ readings store settings l) :
    (Reading.entry settings isSource (line, reading)).OneLine := by
  have free := notMem_of_mem_readings member
  have undeclared : '\n' ∉ Line.dropDeclare line := fun feed =>
    free (Line.dropDeclare_subset line feed)
  cases reading with
  | nothing => exact .of_line (Line.notMem_alignDoc free) _
  | blank => exact .of_line List.not_mem_nil _
  | reference target => exact .of_line (Line.notMem_alignDoc free) _
  | externalImport specifier => exact .of_line free _
  | untypedImport specifier => exact .of_line free _
  | relativeImport specifier target renamed =>
    obtain ⟨found, read, rfl, rfl, rfl⟩ := import?_of_relativeImport member
    refine ⟨free, ?_⟩
    have whole := Line.withSpecifier_import? read
    have specifier : '\n' ∉ found.spec.specifier := fun feed =>
      free ((Line.infix_import? read).subset feed)
    apply Line.notMem_withSpecifier (whole.symm ▸ free)
    apply plain.exportedName
    exact (leads_resolveSpecifier store _ specifier).notMem (notMem_directory file)
  | moduleDeclaration name =>
    refine ⟨free, ?_⟩
    cases isSource with
    | true => exact undeclared
    | false => exact free
  | code =>
    have published : '\n' ∉ Line.dropPublic line := fun feed =>
      free (Line.dropPublic_subset line feed)
    cases isSource with
    | true => exact .of_line (fun feed => published (Line.dropDeclare_subset _ feed)) _
    | false => exact .of_line published _

theorem oneLine_of_parse (plain : settings.OneLine) (file : '\n' ∉ l.text)
    (parsed : parse store settings sources l = .ok record) :
    ∀ entry ∈ record.entries, entry.OneLine := by
  rw [entries_of_parse parsed]
  intro entry member
  obtain ⟨⟨line, reading⟩, listed, rfl⟩ := List.mem_map.1 member
  exact oneLine_of_mem_readings plain file _ listed

end Record

namespace Rename

variable {line text : Text} {isSource : Bool}

theorem notMem_declaration? (plain : settings.OneLine) (free : '\n' ∉ line)
    (made : declaration? settings isSource line = some text) : '\n' ∉ text := by
  unfold declaration? at made
  obtain ⟨found, read, made⟩ := Option.bind_eq_some_iff.1 made
  have named : '\n' ∉ found.specifier := fun feed =>
    free ((Line.infix_moduleDeclaration? read).subset feed)
  rw [← Line.withSpecifier_moduleDeclaration? read] at free
  have renamed : '\n' ∉ found.withSpecifier (settings.libraryName found.specifier) :=
    Line.notMem_withSpecifier free (plain.libraryName named)
  split at made
  · cases made
  · cases made
    split
    · exact fun feed => renamed (Line.dropDeclare_subset _ feed)
    · exact renamed

theorem notMem_importing? (plain : settings.OneLine) (free : '\n' ∉ line)
    (made : importing? settings exports inclusion line = some text) : '\n' ∉ text := by
  unfold importing? at made
  split at made
  · rename_i other outcome
    cases made
    obtain ⟨found, read, outcome⟩ := Option.bind_eq_some_iff.1 outcome
    have named : '\n' ∉ found.spec.specifier := fun feed =>
      free ((Line.infix_import? read).subset feed)
    rw [← Line.withSpecifier_import? read] at free
    dsimp only at outcome
    split at outcome
    · cases outcome
    · split at outcome
      · cases outcome
        exact Line.notMem_withSpecifier free (plain.libraryName named)
      · cases outcome
  · cases made

/-- Renaming puts a generated name in the place of another one. -/
theorem notMem_entry (plain : settings.OneLine) {e : Entry} (oneLine : e.OneLine) :
    '\n' ∉ (entry settings exports inclusion isSource e).text := by
  unfold entry
  split
  · rename_i text made
    unfold newText? at made
    split at made
    · cases made
    · exact notMem_declaration? plain oneLine.line made
    · exact notMem_importing? plain oneLine.line made
  · exact oneLine.text

end Rename

/-! ### Dependencies -/

theorem Edge.dependency?_ofExternal {name : Text} {d : Dependency}
    (left : (ofExternal settings exports name).dependency? = some d) :
    d = .unresolved name ∨
      ∃ owner : Location, exports.owner? name = some owner ∧ d = .file owner := by
  unfold ofExternal at left
  split at left
  · rename_i owner _ owned
    cases left
    exact Or.inr ⟨owner, owned, rfl⟩
  · cases left
    exact Or.inl rfl
  · cases left
    exact Or.inl rfl
  · split at left <;> cases left

/-- A dependency is listed by its own text. -/
theorem Dependency.notMem_listed {d : Dependency} (shown : '\n' ∉ d.display settings) :
    '\n' ∉ d.listed settings := by
  unfold listed
  split
  · have closing : '\n' ∉ "\" />".toList := by decide
    cases d with
    | file path =>
      have opening : '\n' ∉ "/// <reference path=\"".toList := by decide
      exact List.not_mem_append (List.not_mem_append opening shown) closing
    | unresolved name =>
      have opening : '\n' ∉ "/// <reference types=\"".toList := by decide
      exact List.not_mem_append (List.not_mem_append opening shown) closing
  · have comment : '\n' ∉ "//   ".toList := by decide
    exact List.not_mem_append comment shown

theorem Inclusion.notMem_display (walked : Registry.Walked store settings sources registry)
    (built : Exports.build registry = .ok exports) (main : '\n' ∉ settings.mainFile.text)
    {d : Dependency} (member : d ∈ (resolve settings registry exports).dependencies) :
    '\n' ∉ d.display settings := by
  rw [resolve, ofUsed, List.mem_eraseDups, List.mem_filterMap] at member
  obtain ⟨edge, listed, left⟩ := member
  obtain ⟨l, _, out⟩ := List.mem_flatMap.1 listed
  unfold edgesAt at out
  split at out
  · rename_i record found
    have parsed := (walked.parse_of_get? found).2
    rcases List.mem_append.1 out with external | relative
    · obtain ⟨name, imported, rfl⟩ := List.mem_map.1 external
      rcases Edge.dependency?_ofExternal left with rfl | ⟨owner, owned, rfl⟩
      · exact Record.notMem_of_mem_externalImports parsed imported
      · obtain ⟨declaring, entry, _⟩ := Exports.exists_record_of_owner? built owned
        have file := walked.notMem_of_mem main (List.mem_map_of_mem entry)
        exact settings.notMem_displayPath file
    · obtain ⟨file, _, rfl⟩ := List.mem_map.1 relative
      rw [Edge.dependency?_ofRelative] at left
      cases left
  · cases out

end

/-! ### Lines of a bundle -/

namespace Output

/-- The lines of a body; a body without entries is one empty line. -/
def orBlank : List Text → List Text
  | [] => [[]]
  | lines => lines

/-- The lines of a module block around a body. -/
def moduleLines (settings : Settings) (name : Text) (lines : List Text) : List Text :=
  ["declare module '".toList ++ name ++ "' \x7b".toList] ++
    orBlank (lines.map (settings.indent ++ ·)) ++ [['\x7d'], []]

/-- The lines of a file in a bundle: its entries under the indentation of the bundle, for a source
inside a module block, and an empty line. -/
def recordLines (settings : Settings) (record : Record) : List Text :=
  let entries := record.entries.map fun entry =>
    Indent.exchange record.indent settings.indent entry.text
  if record.isSource then moduleLines settings record.exportedName entries
  else orBlank entries ++ [[]]

/-- The lines of a bundle: the header, the list of dependencies, an empty line and the files. -/
def bundleLines (settings : Settings) (header : Option Text) (dependencies : List Dependency)
    (records : List Record) : List Text :=
  header.toList ++
    (if dependencies = [] then []
      else dependenciesTitle :: dependencies.map (·.listed settings)) ++
    [[]] ++ records.flatMap (recordLines settings)

variable {settings : Settings}

theorem join_append_orBlank (newline : Text) (lines : List Text) :
    Text.join newline lines ++ newline = (orBlank lines).flatMap (· ++ newline) := by
  cases lines with
  | nil => simp [Text.join, orBlank]
  | cons line lines => exact Text.join_append newline (List.cons_ne_nil line lines)

theorem moduleBlock_append (noHook : settings.bodyHook = none) (name : Text)
    (lines : List Text) :
    moduleBlock settings name lines ++ settings.newline =
      (moduleLines settings name lines).flatMap (· ++ settings.newline) := by
  rw [moduleLines, List.flatMap_append, List.flatMap_append, ← join_append_orBlank]
  unfold moduleBlock
  rw [noHook, body]
  -- The fixed texts stay closed, only the order of the parts counts.
  generalize "declare module '".toList = opening
  generalize "' \x7b".toList = brace
  simp

theorem block_append (noHook : settings.bodyHook = none) (record : Record) :
    block settings record ++ settings.newline =
      (recordLines settings record).flatMap (· ++ settings.newline) := by
  unfold block recordLines
  dsimp only
  split
  · exact moduleBlock_append noHook _ _
  · rw [List.flatMap_append, ← join_append_orBlank]
    simp [lines]

theorem dependencyList_eq (dependencies : List Dependency) :
    dependencyList settings dependencies =
      (if dependencies = [] then []
        else dependenciesTitle :: dependencies.map (·.listed settings)).flatMap
          (· ++ settings.newline) := by
  unfold dependencyList
  cases dependencies with
  | nil => rfl
  | cons d dependencies =>
    rw [List.isEmpty_cons, if_neg (List.cons_ne_nil d dependencies)]
    rfl

/-- The text of a bundle is its lines, each of them ended. -/
theorem content_eq_flatMap {registry : Registry} {inclusion : Inclusion} {records : List Record}
    (noHook : settings.bodyHook = none) (nonempty : inclusion.used ≠ [])
    (found : inclusion.used.map registry.get? = records.map some) (header : Option Text) :
    content settings registry inclusion header =
      (bundleLines settings header inclusion.dependencies records).flatMap
        (· ++ settings.newline) := by
  have listed : inclusion.used.filterMap registry.get? = records := by
    have values := congrArg (List.filterMap id) found
    rwa [List.filterMap_map, List.filterMap_map, Function.id_comp, Function.id_comp,
      List.filterMap_some] at values
  have recorded : records ≠ [] := by
    rintro rfl
    exact nonempty (List.map_eq_nil_iff.1 found)
  have blocks : Text.join settings.newline (records.map (block settings)) ++ settings.newline =
      (records.flatMap (recordLines settings)).flatMap (· ++ settings.newline) := by
    rw [Text.join_append _ (by simpa using recorded), List.flatMap_map, List.flatMap_assoc]
    simp only [block_append noHook]
  unfold content bundleLines
  dsimp only
  rw [listed, dependencyList_eq, List.append_assoc _ _ settings.newline, blocks]
  cases header with
  | none =>
    simp only [Option.toList_none, List.flatMap_append, List.flatMap_singleton, List.nil_append]
  | some text =>
    simp only [Option.toList_some, List.flatMap_append, List.flatMap_singleton, List.nil_append]

theorem notMem_orBlank {lines : List Text} (plain : ∀ line ∈ lines, '\n' ∉ line) :
    ∀ line ∈ orBlank lines, '\n' ∉ line := by
  cases lines with
  | nil => simp [orBlank]
  | cons first rest => exact plain

theorem notMem_moduleLines (plain : settings.OneLine) {name : Text} {lines : List Text}
    (named : '\n' ∉ name) (free : ∀ line ∈ lines, '\n' ∉ line) :
    ∀ line ∈ moduleLines settings name lines, '\n' ∉ line := by
  have opening : '\n' ∉ "declare module '".toList := by decide
  have brace : '\n' ∉ "' \x7b".toList := by decide
  have further : ∀ line ∈ lines.map (settings.indent ++ ·), '\n' ∉ line := by
    intro line member
    obtain ⟨inner, listed, rfl⟩ := List.mem_map.1 member
    exact List.not_mem_append plain.indent (free inner listed)
  intro line member
  rcases List.mem_append.1 member with before | closing
  · rcases List.mem_append.1 before with first | inside
    · rw [List.mem_singleton.1 first]
      exact List.not_mem_append (List.not_mem_append opening named) brace
    · exact notMem_orBlank further line inside
  · rcases List.mem_pair.1 closing with rfl | rfl <;> decide

theorem notMem_recordLines (plain : settings.OneLine) {record : Record}
    (named : '\n' ∉ record.exportedName) (entries : ∀ entry ∈ record.entries, '\n' ∉ entry.text) :
    ∀ line ∈ recordLines settings record, '\n' ∉ line := by
  have free : ∀ line ∈ record.entries.map (fun entry =>
      Indent.exchange record.indent settings.indent entry.text), '\n' ∉ line := by
    intro line member
    obtain ⟨entry, listed, rfl⟩ := List.mem_map.1 member
    exact Indent.notMem_exchange (entries entry listed) plain.indent
  unfold recordLines
  dsimp only
  split
  · exact notMem_moduleLines plain named free
  · intro line member
    rcases List.mem_append.1 member with inside | last
    · exact notMem_orBlank free line inside
    · rw [List.mem_singleton.1 last]
      exact List.not_mem_nil

theorem notMem_bundleLines {header : Option Text} {dependencies : List Dependency}
    {records : List Record} (headed : ∀ text ∈ header, '\n' ∉ text)
    (shown : ∀ d ∈ dependencies, '\n' ∉ d.display settings)
    (written : ∀ record ∈ records, ∀ line ∈ recordLines settings record, '\n' ∉ line) :
    ∀ line ∈ bundleLines settings header dependencies records, '\n' ∉ line := by
  intro line member
  rw [bundleLines, List.mem_append, List.mem_append, List.mem_append] at member
  rcases member with ((top | listed) | blank) | files
  · exact headed line (Option.mem_toList.1 top)
  · split at listed
    · cases listed
    · rcases List.mem_cons.1 listed with rfl | each
      · decide
      · obtain ⟨d, inside, rfl⟩ := List.mem_map.1 each
        exact Dependency.notMem_listed (shown d inside)
  · rw [List.mem_singleton.1 blank]
    exact List.not_mem_nil
  · obtain ⟨record, inside, line⟩ := List.mem_flatMap.1 files
    exact written record inside _ line

end Output

section

variable {σ : Type} [FileStore σ] {store : σ} {settings : Settings} {sources : Sources}
  {registry : Registry} {exports : Exports} {inclusion : Inclusion} {l : Location}
  {record : Record}

/-- The lines of a file of the bundle, after renaming, stand on one line each. -/
theorem Rename.notMem_recordLines (walked : Registry.Walked store settings sources registry)
    (plain : settings.OneLine) (used : l ∈ inclusion.used)
    (found : (Rename.registry settings exports inclusion registry).get? l = some record) :
    ∀ line ∈ Output.recordLines settings record, '\n' ∉ line := by
  rw [get?_registry, Option.map_eq_some_iff] at found
  obtain ⟨first, found, renamed⟩ := found
  rw [if_pos (Inclusion.isUsed_iff.2 used)] at renamed
  subst renamed
  obtain ⟨member, parsed⟩ := walked.parse_of_get? found
  have file := walked.notMem_of_mem plain.mainFile member
  apply Output.notMem_recordLines plain
  · rw [Rename.record, Record.exportedName_of_parse parsed]
    exact plain.exportedName file
  · intro entry listed
    obtain ⟨old, inside, rfl⟩ := List.mem_map.1 listed
    exact notMem_entry plain (Record.oneLine_of_parse plain file parsed old inside)

/-- A line ending has its line feed at the end and nowhere else. -/
theorem NewLine.exists_text_eq (ending : NewLine) :
    ∃ front, ending.text = front ++ ['\n'] ∧ '\n' ∉ front := by
  cases ending with
  | lineFeed => exact ⟨[], rfl, by decide⟩
  | returnLineFeed => exact ⟨['\r'], rfl, by decide⟩

/-- The text that the phases of a run lead to, with any list of sources and any header, splits at its
line endings into the header, the list of dependencies, an empty line, the lines of each file in the
order of the bundle, and the empty end. No file of the bundle is without its record, and none comes
twice. -/
theorem splitOn_content (header : Option Text) (ending : NewLine)
    (newline : settings.newline = ending.text) (noHook : settings.bodyHook = none)
    (plain : settings.OneLine) (headed : ∀ text ∈ header, '\n' ∉ text)
    (walks : Registry.walk store settings sources = .ok registry)
    (built : Exports.build registry = .ok exports) :
    let inclusion := Inclusion.resolve settings registry exports
    let renamed := Rename.registry settings exports inclusion registry
    inclusion.used.Nodup ∧
      ∃ records : List Record, inclusion.used.map renamed.get? = records.map some ∧
        Text.splitOn settings.newline (Output.content settings renamed inclusion header) =
          Output.bundleLines settings header inclusion.dependencies records ++ [[]] := by
  intro inclusion renamed
  have walked := Registry.walked_of_walk walks
  have order := Inclusion.breadthFirst_used walked built
  have nonempty : inclusion.used ≠ [] := List.ne_nil_of_mem (List.mem_of_head? order.head)
  have kept : ∀ l ∈ inclusion.used, ∃ record, renamed.get? l = some record := by
    intro l used
    obtain ⟨first, found⟩ := Inclusion.exists_get?_of_mem_used used
    rw [Rename.get?_registry, found]
    exact ⟨_, rfl⟩
  obtain ⟨records, found⟩ := exists_map_eq_map_some kept
  refine ⟨order.nodup, records, found, ?_⟩
  have written : ∀ record ∈ records, ∀ line ∈ Output.recordLines settings record, '\n' ∉ line := by
    intro record member
    have listed : some record ∈ inclusion.used.map renamed.get? := by
      rw [found]
      exact List.mem_map_of_mem member
    obtain ⟨l, used, got⟩ := List.mem_map.1 listed
    exact Rename.notMem_recordLines walked plain used got
  have free := Output.notMem_bundleLines headed
    (fun d member => Inclusion.notMem_display walked built plain.mainFile member) written
  obtain ⟨front, ends, apart⟩ := ending.exists_text_eq
  rw [Output.content_eq_flatMap noHook nonempty found header, newline, ends]
  exact Text.splitOn_flatMap apart free

end

theorem splitOn_content_sample :
    ∃ after p, Bundle.run Sample.store Sample.options Sample.root = (after, .ok Sample.result) ∧
      Bundle.plan Sample.store Sample.settings = .ok p ∧ Sample.settings.OneLine ∧
      ∃ records : List Record,
        [Sample.main, Sample.other].map p.renamed.get? = records.map some ∧
        Text.splitOn ['\n'] Sample.result.content =
          Output.bundleLines Sample.settings (some Header.generatedText) p.inclusion.dependencies
            records ++ [[]] := by
  obtain ⟨after, p, ran, made, same⟩ := Sample.course.exists_run Sample.resolve_options
  have planned := Bundle.planned_of_plan made
  have used : p.inclusion.used = [Sample.main, Sample.other] := congrArg Result.usedFiles same
  have content : p.content = Sample.result.content := congrArg Result.content same
  have plain : Sample.settings.OneLine := by constructor <;> decide
  obtain ⟨_, headed, written⟩ := planned.content
  cases headed
  obtain ⟨_, records, found, lines⟩ := splitOn_content (some Header.generatedText) .lineFeed rfl rfl
    plain (by rintro _ ⟨⟩; decide) planned.walked planned.built
  rw [← planned.inclusion, ← planned.renamed, ← written, content] at lines
  rw [← planned.inclusion, ← planned.renamed, used] at found
  exact ⟨after, p, ran, made, plain, records, found, lines⟩

end TypingBundle
