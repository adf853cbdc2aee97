import TypingBundle.Proofs.Graph.BreadthFirst
import TypingBundle.Proofs.Outcome
import TypingBundle.Proofs.Record.Parse
import TypingBundle.Registry
import TypingBundle.Store.Memory

/-!
The files that a main file leads to. What is said of a walk holds of every kind of store; that the
walk can not fail holds of files in memory.

Main statements: `walked_of_walk` says what a registry consists of, `Walked.get?_eq_some_iff` says
what is looked up in it, and `walk_breadthFirst` says which files it has and in which order.
-/

namespace TypingBundle

theorem nodup_eraseDups {α : Type} [BEq α] [LawfulBEq α] (l : List α) : l.eraseDups.Nodup := by
  induction h : l.length using Nat.strongRecOn generalizing l with
  | ind n ih =>
    cases l with
    | nil => simp
    | cons a l =>
      have shorter : (l.filter fun b => !b == a).length < n := by
        have := List.length_filter_le (fun b => !b == a) l
        simp only [List.length_cons] at h
        omega
      rw [List.eraseDups_cons, List.nodup_cons]
      refine ⟨?_, ih _ shorter _ rfl⟩
      simp [List.mem_eraseDups]

/-! ### Records -/

/-- Every file of a registry has a record. -/
theorem Registry.exists_get? {registry : Registry} {l : Location}
    (member : l ∈ registry.locations) :
    ∃ record, registry.get? l = some record := by
  obtain ⟨entry, listed, rfl⟩ := List.mem_map.1 member
  have present : (registry.records.find? fun other => other.1 = entry.1).isSome = true := by
    rw [List.find?_isSome]
    exact ⟨entry, listed, by simp⟩
  obtain ⟨other, first⟩ := Option.isSome_iff_exists.1 present
  exact ⟨other.2, by rw [Registry.get?, first]; rfl⟩

/-- Only files of a registry have a record in it. -/
theorem Registry.mem_of_get? {registry : Registry} {l : Location} {record : Record}
    (found : registry.get? l = some record) : (l, record) ∈ registry.records := by
  obtain ⟨entry, first, rfl⟩ := Option.map_eq_some_iff.1 found
  have same : entry.1 = l := by simpa using List.find?_some first
  rw [← same]
  exact List.mem_of_find?_eq_some first

theorem Registry.mem_locations_of_get? {registry : Registry} {l : Location} {record : Record}
    (found : registry.get? l = some record) : l ∈ registry.locations :=
  List.mem_map_of_mem (Registry.mem_of_get? found)

section

variable {σ : Type} [FileStore σ] {store : σ} {settings : Settings} {sources : Sources}
  {l : Location} {record : Record}

namespace Registry

/-- A file names another one by a reference directive or by a relative import. -/
def Names (store : σ) (settings : Settings) (sources : Sources) (l m : Location) : Prop :=
  ∃ record, Record.parse store settings sources l = .ok record ∧
    (m ∈ record.references ∨ m ∈ record.relativeImports)

theorem edgeOf_successors :
    Graph.edgeOf (successors store settings sources) = Names store settings sources := by
  funext l m
  apply propext
  simp only [Graph.edgeOf, successors, Names]
  split
  · rename_i record parsed
    simp [parsed, Record.successors]
  · rename_i e failed
    simp [failed]

/-- A location without a file names nothing. -/
theorem successors_of_notMem (absent : l ∉ FileStore.files store) :
    successors store settings sources l = [] := by
  have missing : FileStore.isFile store l = false := by
    cases found : FileStore.isFile store l with
    | false => rfl
    | true => exact absurd (FileStore.mem_files store l found) absent
  simp [successors, Record.parse, missing, Record.blank, Record.successors]

theorem breadthFirst_discovered :
    Graph.BreadthFirst (Names store settings sources) settings.mainFile
      (discovered store settings sources) := by
  rw [← edgeOf_successors]
  exact Graph.breadthFirst_traverse (fun _ => successors_of_notMem) settings.mainFile

/-! ### Walks -/

/-- What a walk puts together: the record of every file that was discovered, in that order. -/
structure Walked (store : σ) (settings : Settings) (sources : Sources) (registry : Registry) :
    Prop where
  main : registry.main = settings.mainFile
  locations : registry.locations = discovered store settings sources
  parsed : ∀ entry ∈ registry.records,
    Record.parse store settings sources entry.1 = .ok entry.2
  externalTypings : registry.externalTypings = externalTypingsOf sources registry.records

theorem walked_of_walk {registry : Registry}
    (walked : walk store settings sources = .ok registry) :
    Walked store settings sources registry := by
  obtain ⟨records, mapped, made⟩ := except_bind_eq_ok.1 walked
  cases made
  have keeps : ∀ l entry, parseAt store settings sources l = .ok entry → entry.1 = l := by
    intro l entry parsed
    obtain ⟨record, _, rfl⟩ := except_map_eq_ok.1 parsed
    rfl
  obtain ⟨locations, outcomes⟩ := mapM_eq_ok_of_key keeps mapped
  refine ⟨rfl, locations, ?_, rfl⟩
  intro entry member
  obtain ⟨record, parsed, same⟩ := except_map_eq_ok.1 (outcomes entry member)
  rw [parsed, ← same]

namespace Walked

variable {registry : Registry}

theorem breadthFirst (walked : Walked store settings sources registry) :
    Graph.BreadthFirst (Names store settings sources) registry.main registry.locations := by
  rw [walked.main, walked.locations]
  exact breadthFirst_discovered

theorem parse_of_get? (walked : Walked store settings sources registry)
    (found : registry.get? l = some record) :
    l ∈ registry.locations ∧ Record.parse store settings sources l = .ok record := by
  have listed := mem_of_get? found
  exact ⟨mem_locations_of_get? found, walked.parsed (l, record) listed⟩

/-- What a walked registry holds for a file is what the file parses to. -/
theorem get?_eq_some_iff (walked : Walked store settings sources registry) :
    registry.get? l = some record ↔
      l ∈ registry.locations ∧ Record.parse store settings sources l = .ok record := by
  constructor
  · exact walked.parse_of_get?
  · rintro ⟨member, parsed⟩
    obtain ⟨other, found⟩ := exists_get? member
    have same := (walked.parse_of_get? found).2
    rw [parsed] at same
    cases same
    exact found

/-- Files that a file of a walked registry names are in the registry. -/
theorem mem_locations_of_names {m : Location} (walked : Walked store settings sources registry)
    (member : l ∈ registry.locations) (names : Names store settings sources l m) :
    m ∈ registry.locations :=
  walked.breadthFirst.mem_of_edge member names

theorem main_mem (walked : Walked store settings sources registry) :
    registry.main ∈ registry.locations :=
  List.mem_of_head? walked.breadthFirst.head

theorem mem_externalTypings (walked : Walked store settings sources registry) :
    l ∈ registry.externalTypings ↔
      ∃ entry ∈ registry.records, l ∈ entry.2.references ∧ sources.contains l = false := by
  rw [walked.externalTypings, externalTypingsOf, List.mem_eraseDups, List.mem_flatMap]
  simp

end Walked
end Registry
end

/-! ### Files in memory -/

/-- A file in memory is always read. -/
theorem MemoryStore.exists_parse (store : MemoryStore) (settings : Settings) (sources : Sources)
    (file : Path) : ∃ record, Record.parse store settings sources file = .ok record := by
  unfold Record.parse
  cases found : store.get? file with
  | none => simp [FileStore.isFile, found]
  | some text => simp [FileStore.isFile, FileStore.read, Store.readDeclarations, found, Except.map]

theorem MemoryStore.exists_walk (store : MemoryStore) (settings : Settings) (sources : Sources) :
    ∃ registry, Registry.walk store settings sources = .ok registry := by
  have succeeds : ∀ l ∈ Registry.discovered store settings sources,
      ∃ entry, Registry.parseAt store settings sources l = .ok entry := by
    intro l _
    obtain ⟨record, parsed⟩ := store.exists_parse settings sources l
    exact ⟨(l, record), by rw [Registry.parseAt, parsed]; rfl⟩
  obtain ⟨records, mapped⟩ := exists_mapM_eq_ok succeeds
  refine ⟨⟨settings.mainFile, records, Registry.externalTypingsOf sources records⟩, ?_⟩
  rw [Registry.walk, Registry.ofFiles, mapped]
  rfl

/-- A walk through files in memory ends, whatever they name, and finds the files that the main file
leads to: each once, the main file first, nearer files before those further away, and each with the
record that it parses to. The order is that of the loop which does not look whether a file waits
already. -/
theorem walk_breadthFirst (store : MemoryStore) (settings : Settings) (sources : Sources) :
    ∃ registry, Registry.walk store settings sources = .ok registry ∧
      registry.main = settings.mainFile ∧
      Graph.BreadthFirst (Registry.Names store settings sources) settings.mainFile
        registry.locations ∧
      (∀ entry ∈ registry.records,
        Record.parse store settings sources entry.1 = .ok entry.2 ∧ entry.2.path = entry.1) ∧
      (∀ l record, registry.get? l = some record ↔ (l, record) ∈ registry.records) ∧
      (∀ l, l ∈ registry.externalTypings ↔
        ∃ entry ∈ registry.records, l ∈ entry.2.references ∧ sources.contains l = false) ∧
      registry.externalTypings.Nodup ∧
      (∃ turns, (Graph.advance (Registry.successors store settings sources)
        Graph.enqueueNew)^[turns] ([], [settings.mainFile]) = (registry.locations, [])) ∧
      (∃ turns, (Graph.advance (Registry.successors store settings sources)
        Graph.enqueueAll)^[turns] ([], [settings.mainFile]) = (registry.locations, [])) := by
  obtain ⟨registry, made⟩ := store.exists_walk settings sources
  have walked := Registry.walked_of_walk made
  have order := walked.breadthFirst
  rw [walked.main] at order
  refine ⟨registry, made, walked.main, order, ?_, ?_, ?_, ?_, ?_, ?_⟩
  · intro entry member
    have parsed := walked.parsed entry member
    exact ⟨parsed, Record.path_of_parse parsed⟩
  · intro l record
    rw [walked.get?_eq_some_iff]
    constructor
    · rintro ⟨member, parsed⟩
      obtain ⟨entry, listed, rfl⟩ := List.mem_map.1 member
      have same := walked.parsed entry listed
      rw [parsed] at same
      cases same
      exact listed
    · intro listed
      exact ⟨List.mem_map_of_mem listed, walked.parsed (l, record) listed⟩
  · intro l
    exact walked.mem_externalTypings
  · rw [walked.externalTypings]
    exact nodup_eraseDups _
  · rw [walked.locations, Registry.discovered]
    exact Graph.exists_iterate_advance (fun _ => Registry.successors_of_notMem)
      Graph.enqueueNew_nil [] [settings.mainFile]
  · rw [walked.locations, Registry.discovered, ← Graph.traverse_enqueueAll_singleton]
    exact Graph.exists_iterate_advance (fun _ => Registry.successors_of_notMem)
      Graph.enqueueAll_nil [] [settings.mainFile]

end TypingBundle
