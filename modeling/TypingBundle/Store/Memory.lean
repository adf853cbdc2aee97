import TypingBundle.Store.Basic

/-!
Files in memory: texts by location, sorted. Different spellings of a path lead to the same file,
and directories exist as far as there are files in them.
-/

namespace TypingBundle

/-- Sorted entries with one put in; an entry at the same location is replaced. -/
def Store.insertEntry (l : Location) (text : Text) :
    List (Location × Text) → List (Location × Text)
  | [] => [(l, text)]
  | (m, other) :: rest =>
    if l.sortsBefore m then (l, text) :: (m, other) :: rest
    else if l = m then (l, text) :: rest
    else (m, other) :: insertEntry l text rest

/-- Whether entries are sorted by location, without two at the same one. -/
def Store.IsSorted (entries : List (Location × Text)) : Prop :=
  entries.Pairwise fun a b => a.1.sortsBefore b.1 = true

theorem Store.mem_insertEntry {l : Location} {text : Text} {entries : List (Location × Text)}
    {entry : Location × Text} (member : entry ∈ insertEntry l text entries) :
    entry = (l, text) ∨ entry ∈ entries := by
  induction entries with
  | nil => simpa [insertEntry] using member
  | cons head rest ih =>
    obtain ⟨m, other⟩ := head
    simp only [insertEntry] at member
    split at member
    · simpa using member
    · split at member
      · rcases List.mem_cons.1 member with found | found
        · exact Or.inl found
        · exact Or.inr (List.mem_cons_of_mem _ found)
      · rcases List.mem_cons.1 member with rfl | found
        · simp
        · rcases ih found with found | found
          · exact Or.inl found
          · exact Or.inr (List.mem_cons_of_mem _ found)

theorem Store.isSorted_insertEntry (l : Location) (text : Text) {entries : List (Location × Text)}
    (sorted : IsSorted entries) : IsSorted (insertEntry l text entries) := by
  induction entries with
  | nil => simp [insertEntry, IsSorted]
  | cons head rest ih =>
    obtain ⟨m, other⟩ := head
    obtain ⟨above, sortedRest⟩ := List.pairwise_cons.1 sorted
    simp only [insertEntry]
    split
    next first =>
      refine List.Pairwise.cons ?_ sorted
      intro entry member
      rcases List.mem_cons.1 member with rfl | member
      · exact first
      · exact Location.sortsBefore_trans first (above entry member)
    next notFirst =>
      split
      next same =>
        subst same
        exact List.Pairwise.cons above sortedRest
      next different =>
        refine List.Pairwise.cons ?_ (ih sortedRest)
        intro entry member
        rcases mem_insertEntry member with rfl | member
        · cases later : m.sortsBefore l with
          | true => rfl
          | false =>
            exact absurd (Location.eq_of_not_sortsBefore (by simpa using notFirst) later) different
        · exact above entry member

/-- Files in memory. -/
structure MemoryStore where
  entries : List (Location × Text)
  sorted : Store.IsSorted entries

namespace MemoryStore

/-- The store without files. -/
def empty : MemoryStore := ⟨[], List.Pairwise.nil⟩

/-- The text at a location. -/
def textAt? (store : MemoryStore) (l : Location) : Option Text :=
  (store.entries.find? fun entry => entry.1 = l).map Prod.snd

/-- The text of a file, however its path is spelled. -/
def get? (store : MemoryStore) (path : Path) : Option Text := store.textAt? path.normalize

/-- The store with a file put in or replaced. -/
def insert (store : MemoryStore) (path : Path) (text : Text) : MemoryStore :=
  ⟨Store.insertEntry path.normalize text store.entries,
    Store.isSorted_insertEntry path.normalize text store.sorted⟩

/-- The store without a file. -/
def erase (store : MemoryStore) (path : Path) : MemoryStore :=
  ⟨store.entries.filter fun entry => entry.1 ≠ path.normalize, store.sorted.filter _⟩

/-- Where there are files, in order. -/
def locations (store : MemoryStore) : List Location := store.entries.map Prod.fst

/-- The store of some files; of two texts for one file the later stays. -/
def ofFiles (files : List (Path × Text)) : MemoryStore :=
  files.foldl (fun store (path, text) => store.insert path text) empty

@[simp]
theorem get?_toPath (store : MemoryStore) (l : Location) : store.get? l = store.textAt? l := by
  rw [get?, Location.normalize_toPath]

theorem mem_of_textAt? {store : MemoryStore} {l : Location} {text : Text}
    (found : store.textAt? l = some text) : (l, text) ∈ store.entries := by
  obtain ⟨entry, first, rfl⟩ := Option.map_eq_some_iff.1 found
  have same : entry.1 = l := by simpa using List.find?_some first
  exact same ▸ List.mem_of_find?_eq_some first

theorem mem_locations_of_isSome {store : MemoryStore} {l : Location}
    (present : (store.textAt? l).isSome = true) : l ∈ store.locations := by
  obtain ⟨text, found⟩ := Option.isSome_iff_exists.1 present
  exact List.mem_map.2 ⟨(l, text), mem_of_textAt? found, rfl⟩

instance : FileStore MemoryStore where
  read store path :=
    match store.get? path with
    | some text => .ok text
    | none => .error (.noSuchFile path)
  write store path text := .ok (store.insert path text)
  remove store path :=
    match store.get? path with
    | some _ => .ok (store.erase path)
    | none => .error (.noSuchFile path)
  isPresent store path := store.locations.any fun l => l.isUnder path.normalize
  isFile store path := (store.get? path).isSome
  makeDirectories store _ := (store, none)
  declarationFiles store base :=
    store.locations.filter fun l => l.isUnder base.normalize && l.isDeclarationFile
  files store := store.locations
  mem_files store l found := mem_locations_of_isSome (by simpa using found)

end MemoryStore
end TypingBundle
