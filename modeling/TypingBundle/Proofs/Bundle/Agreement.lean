import TypingBundle.Proofs.Bundle.Turns

/-!
What a run depends on. It reads the files that the main file leads to and the file of the header,
and it looks whether there is a file where a specifier may lead to. Nothing else in a store has a
part in the outcome.

Main statements: `run_eq_of_agree` says that two stores which agree there have the same outcome, and
`run_again` says when the output of a run changes nothing for the next one.
-/

namespace TypingBundle

/-! ### Looking for files -/

section

variable {σ : Type} [FileStore σ] {store other : σ} {settings : Settings} {dir : Path}

/-- The places at which a file is looked for when a specifier is resolved: that of the declaration
file, and that of the directory index if there is no such file. -/
def probesOf (store : σ) (dir : Path) (specifier : Text) : List Location :=
  let base := dir.locate ⟨specifier⟩
  if FileStore.isFile store base.addDeclarationEnding then [base.addDeclarationEnding]
  else [base.addDeclarationEnding, base.child Name.directoryIndex]

theorem mem_probesOf {specifier : Text} {m : Location} :
    m ∈ probesOf store dir specifier ↔
      m = (dir.locate ⟨specifier⟩).addDeclarationEnding ∨
        FileStore.isFile store (dir.locate ⟨specifier⟩).addDeclarationEnding.toPath = false ∧
          m = (dir.locate ⟨specifier⟩).child Name.directoryIndex := by
  unfold probesOf
  cases present : FileStore.isFile store (dir.locate ⟨specifier⟩).addDeclarationEnding.toPath with
  | true => simp [present]
  | false => simp [present]

/-- A specifier leads to one of the places at which a file was looked for. -/
theorem resolveSpecifier_mem_probesOf (specifier : Text) :
    resolveSpecifier store dir specifier ∈ probesOf store dir specifier := by
  rw [mem_probesOf, resolveSpecifier]
  split
  · rename_i chosen
    simp only [Bool.and_eq_true, Bool.not_eq_true'] at chosen
    exact Or.inr ⟨chosen.1, rfl⟩
  · exact Or.inl rfl

theorem resolveSpecifier_congr {specifier : Text}
    (same : ∀ m ∈ probesOf store dir specifier,
      FileStore.isFile other m.toPath = FileStore.isFile store m.toPath) :
    resolveSpecifier other dir specifier = resolveSpecifier store dir specifier := by
  have file := same _ (mem_probesOf.2 (Or.inl rfl))
  unfold resolveSpecifier
  cases present : FileStore.isFile store (dir.locate ⟨specifier⟩).addDeclarationEnding.toPath with
  | true => simp [file, present]
  | false =>
    have index := same _ (mem_probesOf.2 (Or.inr ⟨present, rfl⟩))
    simp [file, index, present]

/-- The places at which a file is looked for when a line of a class is read: only an import of a
path looks for files. -/
def Line.Class.probes (store : σ) (dir : Path) : Line.Class → List Location
  | .importing found =>
    if Specifier.isPath found.spec.specifier then probesOf store dir found.spec.specifier else []
  | _ => []

theorem readImport_congr {found : Line.Import}
    (same : ∀ m ∈ (Line.Class.importing found).probes store dir,
      FileStore.isFile other m.toPath = FileStore.isFile store m.toPath) :
    readImport other settings dir found = readImport store settings dir found := by
  unfold readImport
  by_cases path : Specifier.isPath found.spec.specifier = true
  · rw [Line.Class.probes, if_pos path] at same
    have target := resolveSpecifier_congr same
    have present := same _ (resolveSpecifier_mem_probesOf found.spec.specifier)
    simp only [target, present]
  · simp [path]

theorem readLine_congr {found : Line.Class}
    (same : ∀ m ∈ found.probes store dir,
      FileStore.isFile other m.toPath = FileStore.isFile store m.toPath) :
    readLine other settings dir found = readLine store settings dir found := by
  cases found with
  | importing found => exact readImport_congr same
  | _ => rfl

namespace Record

variable {sources others : Sources} {file : Path}

/-- The places at which a file is looked for when a file is parsed. -/
def probes (store : σ) (file : Path) : List Location :=
  match Store.readDeclarations store file with
  | .ok text => (scan text).flatMap fun scanned => scanned.found.probes store (directory file)
  | .error _ => []

/-- Texts whose lines are classified alike and that are indented by the same unit come down to the
same record, if there is a file in both stores or in neither wherever their lines look for one. -/
theorem ofText_congr {text text' : Text} (unit : Indent.detect? text' = Indent.detect? text)
    (scans : scan text' = scan text) (isSource : others.contains file = sources.contains file)
    (same : ∀ scanned ∈ scan text, ∀ m ∈ scanned.found.probes store (directory file),
      FileStore.isFile other m.toPath = FileStore.isFile store m.toPath) :
    ofText other settings others file text' = ofText store settings sources file text := by
  have lines : readLines other settings (directory file) text' =
      readLines store settings (directory file) text := by
    unfold readLines
    rw [scans]
    apply List.map_congr_left
    intro scanned scanning
    rw [readLine_congr (same scanned scanning)]
  simp only [ofText, unit, isSource, lines]

/-- A file parses to the same record in two stores that agree on the file, whether it is a source,
and whether there is a file where one is looked for. -/
theorem parse_congr (isFile : FileStore.isFile other file = FileStore.isFile store file)
    (text : Store.readDeclarations other file = Store.readDeclarations store file)
    (isSource : others.contains file = sources.contains file)
    (same : ∀ m ∈ probes store file,
      FileStore.isFile other m.toPath = FileStore.isFile store m.toPath) :
    parse other settings others file = parse store settings sources file := by
  unfold parse
  rw [isFile, text, isSource]
  unfold probes at same
  cases read : Store.readDeclarations store file with
  | error cause => rfl
  | ok text =>
    rw [read] at same
    have record : ofText other settings others file text =
        ofText store settings sources file text :=
      ofText_congr rfl rfl isSource fun scanned scans m member =>
        same m (List.mem_flatMap.2 ⟨scanned, scans, member⟩)
    simp only [record]

end Record
end

/-! ### Walks -/

namespace Registry

variable {σ : Type} [FileStore σ] {store other : σ} {settings : Settings}
  {sources others : Sources}

/-- Where the files that a walk discovers parse to the same records in another store, the other
store has the same walk. -/
theorem walk_congr
    (parses : ∀ l ∈ discovered store settings sources,
      Record.parse other settings others l = Record.parse store settings sources l)
    (isSource : ∀ l ∈ discovered store settings sources, others.contains l = sources.contains l) :
    walk other settings others = walk store settings sources := by
  have next : ∀ l ∈ discovered store settings sources,
      successors other settings others l = successors store settings sources l := by
    intro l member
    rw [successors, successors, parses l member]
  have found : discovered other settings others = discovered store settings sources :=
    Graph.traverse_congr (fun _ => successors_of_notMem) (fun _ => successors_of_notMem)
      Graph.enqueueNew_nil next
  have records : (discovered store settings sources).mapM (parseAt other settings others) =
      (discovered store settings sources).mapM (parseAt store settings sources) := by
    apply mapM_congr
    intro l member
    rw [parseAt, parseAt, parses l member]
  rw [walk, walk, ofFiles, ofFiles, found, records]
  cases made : (discovered store settings sources).mapM (parseAt store settings sources) with
  | error e => rfl
  | ok entries =>
    have walked : Walked store settings sources
        ⟨settings.mainFile, entries, externalTypingsOf sources entries⟩ := by
      apply walked_of_walk
      rw [walk, ofFiles, made]
      rfl
    -- What a discovered file refers to was discovered, so both stores call it a source or neither.
    have typings : externalTypingsOf others entries = externalTypingsOf sources entries := by
      unfold externalTypingsOf
      congr 1
      apply List.flatMap_congr
      intro entry listed
      apply List.filter_congr
      intro m refers
      have parsed := walked.parsed entry listed
      have member := walked.mem_locations_of_names (List.mem_map_of_mem listed)
        ⟨entry.2, parsed, Or.inl refers⟩
      rw [walked.locations] at member
      rw [isSource m member]
    change Except.ok _ = Except.ok _
    rw [typings]

end Registry

/-! ### Plans -/

/-- Two stores in which the main file is found alike, with the same header and the same walk, have
the same plan, apart from the list of sources. -/
theorem Bundle.plan_congr {σ : Type} [FileStore σ] {store other : σ} {settings : Settings}
    (main : FileStore.isFile other settings.mainFile.toPath =
      FileStore.isFile store settings.mainFile.toPath)
    (header : Bundle.header other settings = Bundle.header store settings)
    (walk : Registry.walk other settings (Bundle.sources other settings) =
      Registry.walk store settings (Bundle.sources store settings)) :
    Bundle.plan other settings = (Bundle.plan store settings).map fun p =>
      { p with sources := Bundle.sources other settings } := by
  unfold Bundle.plan
  dsimp only
  rw [main, header, walk]
  cases FileStore.isFile store settings.mainFile.toPath with
  | false => rfl
  | true =>
    cases Bundle.header store settings with
    | error e => rfl
    | ok header =>
      cases Registry.walk store settings (Bundle.sources store settings) with
      | error e => rfl
      | ok registry =>
        cases built : Exports.build registry with
        | error e => simp [bind, Except.bind, built, Except.map]
        | ok exports => simp [bind, Except.bind, built, Except.map, pure, Except.pure]

/-! ### Runs in memory -/

namespace Bundle

variable {store other : MemoryStore} {settings : Settings} {files : List Location}

/-- Two stores have the same texts at some files and at the file of the header, and where a file is
looked for when those files are parsed, both have one or neither has. -/
structure Agree (store other : MemoryStore) (settings : Settings) (files : List Location) :
    Prop where
  texts : ∀ l ∈ files, other.textAt? l = store.textAt? l
  probes : ∀ l ∈ files, ∀ m ∈ Record.probes store l,
    (other.textAt? m).isSome = (store.textAt? m).isSome
  header : ∀ l, settings.header = .file l → other.textAt? l = store.textAt? l

namespace Agree

theorem isSource {l : Location} (agree : Agree store other settings files) (member : l ∈ files) :
    (Bundle.sources other settings).contains l = (Bundle.sources store settings).contains l := by
  rw [Bool.eq_iff_iff, contains_sources_memory, contains_sources_memory, agree.texts l member]

theorem parse {l : Location} (agree : Agree store other settings files) (member : l ∈ files) :
    Record.parse other settings (Bundle.sources other settings) l =
      Record.parse store settings (Bundle.sources store settings) l := by
  have text := agree.texts l member
  apply Record.parse_congr
  · simp [FileStore.isFile, text]
  · simp [Store.readDeclarations, FileStore.read, text]
  · exact agree.isSource member
  · intro m probed
    simpa [FileStore.isFile] using agree.probes l member m probed

theorem walk
    (agree : Agree store other settings
      (Registry.discovered store settings (Bundle.sources store settings))) :
    Registry.walk other settings (Bundle.sources other settings) =
      Registry.walk store settings (Bundle.sources store settings) :=
  Registry.walk_congr (fun _ => agree.parse) (fun _ => agree.isSource)

theorem header_eq (agree : Agree store other settings files) :
    Bundle.header other settings = Bundle.header store settings := by
  unfold Bundle.header
  cases headed : settings.header with
  | file l => simp [FileStore.read, agree.header l headed]
  | _ => rfl

/-- Stores that agree on the files that are discovered have the same plan, apart from the list of
sources. -/
theorem plan
    (agree : Agree store other settings
      (Registry.discovered store settings (Bundle.sources store settings))) :
    Bundle.plan other settings = (Bundle.plan store settings).map fun p =>
      { p with sources := Bundle.sources other settings } := by
  have main : settings.mainFile ∈
      Registry.discovered store settings (Bundle.sources store settings) :=
    List.mem_of_head? Registry.breadthFirst_discovered.head
  apply plan_congr
  · simp [FileStore.isFile, agree.texts _ main]
  · exact agree.header_eq
  · exact agree.walk

end Agree

/-- A store agrees with itself after a file was written that is none of the files in question, nor
the header, nor a new file at a place where one is looked for. -/
theorem agree_insert {l : Location} (text : Text) (apart : l ∉ files)
    (header : settings.header ≠ .file l)
    (unprobed : (store.textAt? l).isSome = true ∨ ∀ m ∈ files, l ∉ Record.probes store m) :
    Agree store (store.insert l text) settings files where
  texts m member := by
    have different : m ≠ l := fun same => apart (same ▸ member)
    simp [different]
  probes m member place probed := by
    by_cases same : place = l
    · subst same
      rcases unprobed with present | unprobed
      · simp [present]
      · exact absurd probed (unprobed m member)
    · simp [same]
  header m headed := by
    have different : m ≠ l := by
      rintro rfl
      exact header headed
    simp [different]

end Bundle

/-- Files that a run does not look at have no part in its outcome. Where another store agrees with a
store on every file that the walk through the store comes to, on the header, and on whether there is
a file wherever those files make the walk look for one, the two stores have the same outcome: the
same error or the same result in all its parts. -/
theorem run_eq_of_agree (store other : MemoryStore) (options : Options) (cwd : Path)
    (agree : ∀ settings registry, options.resolve cwd = .ok settings →
      Registry.walk store settings (Bundle.sources store settings) = .ok registry →
      Bundle.Agree store other settings registry.locations) :
    (Bundle.run other options cwd).2 = (Bundle.run store options cwd).2 := by
  cases resolved : options.resolve cwd with
  | error e => simp only [Bundle.run, resolved]
  | ok settings =>
    obtain ⟨registry, walks⟩ := store.exists_walk settings (Bundle.sources store settings)
    have agrees := agree settings registry resolved walks
    rw [(Registry.walked_of_walk walks).locations] at agrees
    rw [Bundle.run_of_resolve resolved, Bundle.run_of_resolve resolved, Bundle.runSettings_memory,
      Bundle.runSettings_memory, agrees.plan]
    -- The result does not mention the list of sources, which is all that the plans differ in.
    cases Bundle.plan store settings with
    | error e => rfl
    | ok p => rfl

namespace Sample

/-- A file that no file of the sample names, although it declares a module that one of them
imports. -/
def unrelated : Location := folder.child ⟨"u.d.ts".toList, rfl⟩

/-- The two files look for each other and for nothing else. -/
theorem probes_store :
    [main, other].flatMap (fun l : Location => Record.probes store l) = [other, main] := by
  rfl

theorem notMem_probes {l : Location} (apart : l ∉ [other, main]) :
    ∀ m ∈ [main, other], l ∉ Record.probes store m := by
  intro m member probed
  rw [← probes_store] at apart
  exact apart (List.mem_flatMap.2 ⟨m, member, probed⟩)

end Sample

theorem run_eq_of_agree_sample :
    let other := Sample.store.insert Sample.unrelated "declare module 'f' \x7b".toList
    Bundle.Agree Sample.store other Sample.settings [Sample.main, Sample.other] ∧
      (Bundle.run other Sample.options Sample.root).2 = .ok Sample.result := by
  intro other
  have agrees : Bundle.Agree Sample.store other Sample.settings [Sample.main, Sample.other] :=
    Bundle.agree_insert _ (by decide) (by decide) (Or.inr (Sample.notMem_probes (by decide)))
  obtain ⟨p, made, same⟩ := Sample.course.exists_plan
  refine ⟨agrees, ?_⟩
  rw [run_eq_of_agree Sample.store other Sample.options Sample.root,
    Bundle.run_of_resolve Sample.resolve_options, Bundle.runSettings_memory, made]
  · exact congrArg Except.ok same
  · intro settings registry resolved walks
    obtain rfl : Sample.settings = settings := Except.ok.inj resolved
    rw [Sample.course.locations walks]
    exact agrees

/-- The output of a run changes nothing for the next run. Let a run write its bundle to a place that
is none of the files its walk comes to and not that of the header, and let there have been a file at
that place before, or let the walk not look for one there. Then the same run in the store after it
has the same result and leaves that store as it is. -/
theorem run_again (store after : MemoryStore) (options : Options) (cwd : Path)
    (settings : Settings) (registry : Registry) (result : Result)
    (resolved : options.resolve cwd = .ok settings)
    (walked : Registry.walk store settings (Bundle.sources store settings) = .ok registry)
    (ran : Bundle.run store options cwd = (after, .ok result)) (emitted : result.emitted = true)
    (keeps : settings.removeSource = false) (apart : settings.outFile ∉ registry.locations)
    (header : settings.header ≠ .file settings.outFile)
    (unprobed : (store.textAt? settings.outFile).isSome = true ∨
      ∀ l ∈ registry.locations, settings.outFile ∉ Record.probes store l) :
    Bundle.run after options cwd = (after, .ok result) := by
  obtain ⟨_, p, again, made, rfl⟩ := Bundle.exists_plan_of_run ran
  cases resolved.symm.trans again
  have first := Bundle.run_of_plan resolved made emitted keeps
  obtain rfl : store.insert settings.outFile p.content = after := by
    rw [first] at ran
    exact congrArg Prod.fst ran
  -- The first run wrote only the output, which the second run does not look at.
  have agrees := Bundle.agree_insert p.content apart header unprobed
  rw [(Registry.walked_of_walk walked).locations] at agrees
  have again : Bundle.plan (store.insert settings.outFile p.content) settings =
      .ok { p with sources :=
        Bundle.sources (store.insert settings.outFile p.content) settings } := by
    rw [agrees.plan, made]
    rfl
  rw [Bundle.run_of_plan resolved again emitted keeps, MemoryStore.insert_insert]
  rfl

theorem run_again_sample :
    ∃ after, Bundle.run Sample.store Sample.options Sample.root = (after, .ok Sample.result) ∧
      Bundle.run after Sample.options Sample.root = (after, .ok Sample.result) := by
  obtain ⟨p, made, same⟩ := Sample.course.exists_plan
  obtain ⟨registry, walks⟩ :=
    Sample.store.exists_walk Sample.settings (Bundle.sources Sample.store Sample.settings)
  have emits : p.emits = true := congrArg Result.emitted same
  have ran := Bundle.run_of_plan Sample.resolve_options made emits rfl
  rw [same] at ran
  have locations : registry.locations = [Sample.main, Sample.other] := Sample.course.locations walks
  refine ⟨_, ran, run_again Sample.store _ Sample.options Sample.root Sample.settings registry
    Sample.result Sample.resolve_options walks ran rfl rfl ?_ ?_ (Or.inr ?_)⟩
  · rw [locations]
    decide
  · decide
  · rw [locations]
    exact Sample.notMem_probes (by decide)

namespace Shadow

open Sample (main folder text bareSettings)

def index : Location := (folder.child ⟨['l'], rfl⟩).child Name.directoryIndex

/-- The main file imports the index of a directory that has the name of the bundle. -/
def store : MemoryStore := .ofFiles [
  (main, "export * from './l';".toList), (index, "export declare const a: 1;".toList)]

def first : Result where
  emitted := true
  outputPath := bareSettings.outFile
  content := text [
    "", "declare module 'l' \x7b", "    export * from '__l/l/index';", "\x7d", "",
    "declare module '__l/l/index' \x7b", "    export const a: 1;", "\x7d", "", ""]
  usedFiles := [main, index]
  excludedFiles := []
  externalDependencies := []
  missingFiles := []

/-- The bundle is now found where the main file looks for a file first. -/
def second : Result where
  emitted := true
  outputPath := bareSettings.outFile
  content := text [
    "// Dependencies for this module:", "//   l.d.ts", "",
    "declare module 'l' \x7b", "    export * from '__l/l';", "\x7d", "",
    "declare module '__l/l' \x7b", "    ", "    module 'l' \x7b",
    "        export * from '__l/l/index';", "    \x7d", "    ", "    module '__l/l/index' \x7b",
    "        export const a: 1;", "    \x7d", "\x7d", "", ""]
  usedFiles := [main, bareSettings.outFile]
  excludedFiles := []
  externalDependencies := ["l.d.ts".toList]
  missingFiles := []

def firstCourse : Bundle.Course store bareSettings where
  files := [main, index]
  walkTurns := 2
  used := [main, index]
  usedTurns := 2
  result := first
  main := by decide +kernel
  walks := by decide +kernel
  computes := by decide +kernel

def secondCourse :
    Bundle.Course (store.insert bareSettings.outFile first.content) bareSettings where
  files := [main, bareSettings.outFile]
  walkTurns := 2
  used := [main, bareSettings.outFile]
  usedTurns := 2
  result := second
  main := by decide +kernel
  walks := by decide +kernel
  computes := by decide +kernel

end Shadow

/-- That the output is none of the files of a run is not enough for the next run to be the same:
the output may take the place of a directory index. -/
theorem run_again_shadowed :
    ∃ registry after last,
      Sample.bareOptions.resolve Sample.root = .ok Sample.bareSettings ∧
      Registry.walk Shadow.store Sample.bareSettings
        (Bundle.sources Shadow.store Sample.bareSettings) = .ok registry ∧
      Sample.bareSettings.removeSource = false ∧ Sample.bareSettings.outFile ∉ registry.locations ∧
      Sample.bareSettings.header ≠ .file Sample.bareSettings.outFile ∧
      Bundle.run Shadow.store Sample.bareOptions Sample.root = (after, .ok Shadow.first) ∧
      Shadow.first.emitted = true ∧
      Bundle.run after Sample.bareOptions Sample.root = (last, .ok Shadow.second) ∧
      Shadow.second.content ≠ Shadow.first.content ∧
      Shadow.second.usedFiles ≠ Shadow.first.usedFiles ∧
      Shadow.second.externalDependencies ≠ Shadow.first.externalDependencies := by
  obtain ⟨registry, walks⟩ :=
    Shadow.store.exists_walk Sample.bareSettings (Bundle.sources Shadow.store Sample.bareSettings)
  obtain ⟨p, made, same⟩ := Shadow.firstCourse.exists_plan
  obtain ⟨q, again, same'⟩ := Shadow.secondCourse.exists_plan
  have emits : p.emits = true := congrArg Result.emitted same
  have emits' : q.emits = true := congrArg Result.emitted same'
  have content : p.content = Shadow.first.content := congrArg Result.content same
  have ran := Bundle.run_of_plan Sample.resolve_bareOptions made emits rfl
  have reran := Bundle.run_of_plan Sample.resolve_bareOptions again emits' rfl
  rw [same, content] at ran
  rw [same'] at reran
  refine ⟨registry, _, _, Sample.resolve_bareOptions, walks, rfl, ?_, ?_, ran, rfl, reran, ?_, ?_,
    ?_⟩
  · rw [Shadow.firstCourse.locations walks]
    decide
  · decide
  · decide
  · decide
  · decide

end TypingBundle
