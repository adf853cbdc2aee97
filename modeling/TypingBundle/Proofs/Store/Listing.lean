import Mathlib.Data.List.Sort
import TypingBundle.Proofs.Store.Memory
import TypingBundle.Store.Disk

/-!
The files at or below a directory, listed from a disk and from memory. On a disk folders are gone
through depth first, each in the order of its names; in memory all locations are gone through in
their order. Both orders are the same, name by name from the root on, and not that of the written
locations, in which `/a-x` comes before `/a/z`.

Main statement: `declarationFiles_disk_eq_memory`: a disk and a memory with the same files list the
same declaration files in the same order.
-/

namespace TypingBundle

/-! ### The order of locations -/

namespace Location

variable {l m base : Location}

theorem keyBefore_append (key a b : List Text) :
    keyBefore (key ++ a) (key ++ b) = keyBefore a b := by
  induction key with
  | nil => rfl
  | cons x key ih => simp [keyBefore, ih]

/-- Two places below a directory are in the order of the first names that lead to them. -/
theorem sortsBefore_of_before {rooted : Bool} {n m : Name} {above names names' : List Name}
    (first : Text.before n.text m.text = true) :
    sortsBefore ⟨rooted, above ++ n :: names⟩ ⟨rooted, above ++ m :: names'⟩ = true := by
  simp only [sortsBefore, sortKey, List.map_append, List.map_cons, keyBefore_append]
  simp [keyBefore, first]

theorem sortsBefore_asymm (before : l.sortsBefore m = true) : m.sortsBefore l = false := by
  cases after : m.sortsBefore l with
  | false => rfl
  | true =>
    have loop := sortsBefore_trans before after
    rw [sortsBefore_irrefl] at loop
    cases loop

/-- Lists of locations in order are the same if they have the same members. -/
theorem eq_of_sorted {left right : List Location}
    (sorted : left.Pairwise fun l m => l.sortsBefore m = true)
    (sorted' : right.Pairwise fun l m => l.sortsBefore m = true)
    (same : ∀ l, l ∈ left ↔ l ∈ right) : left = right := by
  have : Std.Irrefl fun l m : Location => l.sortsBefore m = true := ⟨fun l => by simp⟩
  have : Std.Antisymm fun l m : Location => l.sortsBefore m = true :=
    ⟨fun l m before after => by simp [sortsBefore_asymm before] at after⟩
  exact sorted.eq_of_mem_iff sorted' same

theorem isUnder_iff (rooted : base.rooted = true) :
    l.isUnder base = true ↔ ∃ names, l = ⟨true, base.names ++ names⟩ := by
  obtain ⟨_, below⟩ := base
  obtain ⟨isRooted, names⟩ := l
  cases rooted
  simp only [isUnder, components, if_true, List.isPrefixOf_iff_prefix, mk.injEq]
  cases isRooted with
  | false =>
    cases names with
    | nil => simp
    | cons n names => simp
  | true =>
    simp only [if_true, List.singleton_append, List.cons_prefix_cons, true_and]
    constructor
    · rintro ⟨rest, written⟩
      obtain ⟨left, right, rfl, left', -⟩ := List.map_eq_append_iff.1 written.symm
      have same : left = below :=
        List.map_injective_iff.2 (fun _ _ same => Component.name.inj same) left'
      exact ⟨right, by rw [same]⟩
    · rintro ⟨rest, rfl⟩
      exact ⟨rest.map .name, by simp⟩

end Location

/-! ### The files of a folder -/

namespace Folder

variable {f inner : Folder} {l m : Location} {n : Name} {names above : List Name}

/-- Whether names lead to a file. -/
def HasFile (f : Folder) (names : List Name) : Prop :=
  ∃ above n content, names = above ++ [n] ∧ (f.at? above).bind (find? n) = some (.file content)

theorem at?_append (f : Folder) (above names : List Name) :
    f.at? (above ++ names) = (f.at? above).bind fun inner => inner.at? names := by
  induction above generalizing f with
  | nil => rfl
  | cons n above ih =>
    simp only [List.cons_append, at?]
    split
    · exact ih _
    · rfl

theorem hasFile_cons :
    f.HasFile (n :: names) ↔
      (∃ content, f.find? n = some (.file content) ∧ names = []) ∨
        ∃ inner, f.find? n = some (.folder inner) ∧ inner.HasFile names := by
  constructor
  · rintro ⟨above, last, content, written, found⟩
    cases above with
    | nil =>
      simp only [List.nil_append, List.cons.injEq] at written
      obtain ⟨rfl, rfl⟩ := written
      exact .inl ⟨content, by simpa [at?] using found, rfl⟩
    | cons n' above =>
      simp only [List.cons_append, List.cons.injEq] at written
      obtain ⟨rfl, rfl⟩ := written
      simp only [at?] at found
      split at found
      · rename_i inner inside
        exact .inr ⟨inner, inside, above, last, content, rfl, found⟩
      · cases found
  · rintro (⟨content, found, rfl⟩ | ⟨inner, found, above, last, content, rfl, found'⟩)
    · exact ⟨[], n, content, rfl, found⟩
    · exact ⟨n :: above, last, content, rfl, by simpa [at?, found] using found'⟩

theorem not_hasFile_nil : ¬ f.HasFile [] := by
  rintro ⟨above, n, content, written, -⟩
  simp at written

/-- Names that go on below a folder lead to a file there. -/
theorem hasFile_append (inside : f.at? above = some inner) :
    f.HasFile (above ++ names) ↔ inner.HasFile names := by
  induction above generalizing f with
  | nil =>
    cases inside
    rfl
  | cons n above ih =>
    simp only [at?] at inside
    split at inside
    · rename_i below found
      rw [List.cons_append, hasFile_cons]
      simp [found, ih inside]
    · cases inside

theorem isSorted_of_at? (sorted : f.IsSorted) (inside : f.at? names = some inner) :
    inner.IsSorted := by
  induction names generalizing f with
  | nil =>
    cases inside
    exact sorted
  | cons n names ih =>
    simp only [at?] at inside
    split at inside
    · rename_i found
      exact ih (isSorted_of_find? sorted found) inside
    · cases inside

/-- What is listed stands at or below one of the names. -/
theorem exists_name_of_mem_filesAt (member : m ∈ f.filesAt l) :
    ∃ n ∈ f.names, ∃ names, m = ⟨l.rooted, l.names ++ n :: names⟩ := by
  induction f generalizing l with
  | empty => cases member
  | file n content rest ih =>
    rcases List.mem_cons.1 member with rfl | member
    · exact ⟨n, List.mem_cons_self, [], rfl⟩
    · obtain ⟨n', listed, names, rfl⟩ := ih member
      exact ⟨n', List.mem_cons_of_mem _ listed, names, rfl⟩
  | folder n inner rest inside ih =>
    rcases List.mem_append.1 member with member | member
    · obtain ⟨n', -, names, rfl⟩ := inside member
      exact ⟨n, List.mem_cons_self, n' :: names, by simp [Location.child]⟩
    · obtain ⟨n', listed, names, rfl⟩ := ih member
      exact ⟨n', List.mem_cons_of_mem _ listed, names, rfl⟩

/-- Depth first and in the order of names is in the order of locations. -/
theorem pairwise_filesAt (sorted : f.IsSorted) (l : Location) :
    (f.filesAt l).Pairwise fun l m => l.sortsBefore m = true := by
  induction f generalizing l with
  | empty => exact List.Pairwise.nil
  | file n content rest ih =>
    obtain ⟨first, tail⟩ := sorted
    refine List.Pairwise.cons ?_ (ih tail l)
    intro m member
    obtain ⟨n', listed, names, rfl⟩ := exists_name_of_mem_filesAt member
    exact Location.sortsBefore_of_before (first n' listed)
  | folder n inner rest inside ih =>
    obtain ⟨first, below, tail⟩ := sorted
    refine List.pairwise_append.2 ⟨inside below _, ih tail l, ?_⟩
    intro a memberA b memberB
    obtain ⟨n₁, -, names, rfl⟩ := exists_name_of_mem_filesAt memberA
    obtain ⟨n₂, listed, names', rfl⟩ := exists_name_of_mem_filesAt memberB
    simpa [Location.child] using Location.sortsBefore_of_before (first n₂ listed)

theorem mem_names_of_find? {node : Node} (found : f.find? n = some node) : n ∈ f.names := by
  induction f with
  | empty => cases found
  | file n' content rest ih =>
    simp only [find?] at found
    split at found
    · rename_i same
      simp [names, same]
    · simp [names, ih found]
  | folder n' inner rest _ ih =>
    simp only [find?] at found
    split at found
    · rename_i same
      simp [names, same]
    · simp [names, ih found]

/-- The first of the names that lead to a file is one of the folder. -/
theorem HasFile.exists_cons (has : f.HasFile names) :
    ∃ n rest, names = n :: rest ∧ n ∈ f.names := by
  cases names with
  | nil => exact absurd has not_hasFile_nil
  | cons n rest =>
    refine ⟨n, rest, rfl, ?_⟩
    rcases hasFile_cons.1 has with ⟨_, found, _⟩ | ⟨_, found, _⟩
    · exact mem_names_of_find? found
    · exact mem_names_of_find? found

/-- A name that comes before all others is that of no other entry. -/
theorem ne_of_first {k : Name} (first : ∀ m ∈ f.names, Text.before n.text m.text = true)
    (listed : k ∈ f.names) : n ≠ k := by
  rintro rfl
  simpa using first n listed

/-- Only files are listed. -/
theorem hasFile_of_mem_filesAt (sorted : f.IsSorted) (member : m ∈ f.filesAt l) :
    ∃ names, m = ⟨l.rooted, l.names ++ names⟩ ∧ f.HasFile names := by
  induction f generalizing l with
  | empty => cases member
  | file n content rest ih =>
    obtain ⟨first, tail⟩ := sorted
    rcases List.mem_cons.1 member with rfl | member
    · exact ⟨[n], rfl, hasFile_cons.2 (.inl ⟨content, by simp [find?], rfl⟩)⟩
    · obtain ⟨names, rfl, has⟩ := ih tail member
      obtain ⟨k, names, rfl, listed⟩ := has.exists_cons
      refine ⟨k :: names, rfl, ?_⟩
      rw [hasFile_cons] at has ⊢
      simpa [find?, ne_of_first first listed] using has
  | folder n inner rest inside ih =>
    obtain ⟨first, below, tail⟩ := sorted
    rcases List.mem_append.1 member with member | member
    · obtain ⟨names, rfl, has⟩ := inside below member
      refine ⟨n :: names, by simp [Location.child], hasFile_cons.2 (.inr ⟨inner, ?_, has⟩)⟩
      simp [find?]
    · obtain ⟨names, rfl, has⟩ := ih tail member
      obtain ⟨k, names, rfl, listed⟩ := has.exists_cons
      refine ⟨k :: names, rfl, ?_⟩
      rw [hasFile_cons] at has ⊢
      simpa [find?, ne_of_first first listed] using has

/-- Exactly the files are listed. -/
theorem mem_filesAt_iff (sorted : f.IsSorted) :
    m ∈ f.filesAt l ↔ ∃ names, m = ⟨l.rooted, l.names ++ names⟩ ∧ f.HasFile names := by
  constructor
  · exact hasFile_of_mem_filesAt sorted
  · rintro ⟨names, rfl, above, n, content, rfl, found⟩
    simpa using mem_filesAt l found

end Folder

/-! ### The files of a disk -/

namespace DiskStore

variable {disk : DiskStore} {root inner : Folder} {l m : Location} {above names : List Name}

/-- Names that are not too long are followed through the folders that they lead to. -/
theorem follow_append (inside : (root.at? (above ++ names)).isSome = true)
    (short : ∀ n ∈ names, byteLength n.text ≤ nameLimit) (rest : List Text) :
    follow root above (names.map Name.text ++ rest) = follow root (above ++ names) rest := by
  induction names generalizing above with
  | nil => simp
  | cons n names ih =>
    have further : (root.at? (above ++ [n] ++ names)).isSome = true := by simpa using inside
    have here : ∃ inner, (root.at? above).bind (Folder.find? n) = some (.folder inner) := by
      rw [List.append_assoc, Folder.at?_append] at further
      obtain ⟨inner, found⟩ := Option.isSome_iff_exists.1 further
      obtain ⟨outer, reached, found⟩ := Option.bind_eq_some_iff.1 found
      simp only [List.singleton_append, Folder.at?] at found
      split at found
      · rename_i below named
        exact ⟨below, by rw [reached, Option.bind_some, named]⟩
      · cases found
    obtain ⟨inner, found⟩ := here
    have fits : ¬ nameLimit < byteLength n.text := Nat.not_lt.2 (short n (by simp))
    rw [List.map_cons, List.cons_append, follow, Name.ofPiece?_text]
    simp only [fits, if_false, found]
    rw [ih further fun m member => short m (List.mem_cons_of_mem _ member), List.append_assoc,
      List.singleton_append]

/-- Names that are followed to a folder lead to it in the tree. -/
theorem follow_folder {reached : List Name} (inside : (root.at? above).isSome = true)
    (found : follow root above (names.map Name.text) = .ok (.folder reached)) :
    reached = above ++ names ∧ (root.at? reached).isSome = true := by
  induction names generalizing above with
  | nil =>
    simp only [List.map_nil, follow, Except.ok.injEq, Target.folder.injEq] at found
    subst found
    exact ⟨by simp, inside⟩
  | cons n names ih =>
    simp only [List.map_cons, follow, Name.ofPiece?_text] at found
    split at found
    · cases found
    · split at found
      · rename_i below named
        have further : (root.at? (above ++ [n])).isSome = true := by
          obtain ⟨outer, reached, named⟩ := Option.bind_eq_some_iff.1 named
          simp [Folder.at?_append, reached, Folder.at?, named]
        simpa using ih further found
      · split at found <;> cases found
      · split at found <;> cases found

/-- A location that a disk takes: neither the names nor the whole path are too long, and there is no
character in them that no path can hold. -/
structure Fits (l : Location) : Prop where
  valid : '\x00' ∉ l.text
  length : byteLength l.text < pathBound
  names : ∀ n ∈ l.names, byteLength n.text ≤ nameLimit

/-- The pieces of a location from the root are its names, after an empty one. -/
theorem follow_split (rooted : l.rooted = true) :
    follow root [] (Text.split '/' l.text) = follow root [] (l.names.map Name.text) := by
  obtain ⟨isRooted, names⟩ := l
  cases rooted
  have empty : Component.ofPiece? [] = none := by decide
  cases names with
  | nil => simp [Location.text, Text.join, Text.split, follow, empty]
  | cons n names =>
    have pieces := Name.split_join_text (List.cons_ne_nil n names)
    simp only [Location.text, if_true, List.singleton_append, Text.split, pieces]
    rw [follow]
    simp only [empty]

theorem target_eq_ok {t : Target} (rooted : l.rooted = true) (found : disk.target l = .ok t) :
    follow disk.root [] (l.names.map Name.text) = .ok t := by
  simp only [target] at found
  split at found
  · cases found
  split at found
  · cases found
  split at found
  · cases found
  · rwa [← follow_split rooted]

/-- A location that fits is followed name by name. -/
theorem target_of_fits (fits : Fits l) (rooted : l.rooted = true) :
    disk.target l = follow disk.root [] (l.names.map Name.text) := by
  have nonempty : l.text ≠ [] := by simp [Location.text, rooted]
  simp only [target, Location.toPath, fits.valid, nonempty, Nat.not_le.2 fits.length, if_false]
  exact follow_split rooted

/-- Only files at or below a place are found there. -/
theorem hasFile_of_mem_filesBelow (rooted : l.rooted = true) (member : m ∈ disk.filesBelow l) :
    ∃ names, m = ⟨true, l.names ++ names⟩ ∧ disk.root.HasFile (l.names ++ names) := by
  unfold filesBelow at member
  split at member
  · rename_i reached found
    obtain ⟨rfl, inside⟩ := follow_folder rfl (target_eq_ok rooted found)
    obtain ⟨inner, inside⟩ := Option.isSome_iff_exists.1 inside
    rw [List.nil_append] at member inside
    rw [inside, Option.getD_some,
      Folder.mem_filesAt_iff (Folder.isSorted_of_at? disk.sorted inside)] at member
    obtain ⟨names, rfl, has⟩ := member
    exact ⟨names, rfl, (Folder.hasFile_append inside).2 has⟩
  · rename_i folder n content found
    obtain ⟨names, inside⟩ := target_toPath found
    obtain rfl := List.mem_singleton.1 member
    exact ⟨[], by simp [names], folder, n, content, by simp [names], inside⟩
  · cases member

/-- Every file at or below a place that fits is found there. -/
theorem mem_filesBelow_of_hasFile (fits : Fits l) (rooted : l.rooted = true)
    (has : disk.root.HasFile (l.names ++ names)) :
    ⟨true, l.names ++ names⟩ ∈ disk.filesBelow l := by
  obtain ⟨above, n, content, written, found⟩ := has
  obtain ⟨outer, reached, _⟩ := Option.bind_eq_some_iff.1 found
  rcases List.eq_nil_or_concat names with rfl | ⟨front, last, rfl⟩
  · -- The place is a file itself.
    rw [List.append_nil] at written
    have followed : disk.target l = .ok (.file above n content false) := by
      have fit : ¬ nameLimit < byteLength n.text :=
        Nat.not_lt.2 (fits.names n (by simp [written]))
      have through := @follow_append disk.root [] above (by simp [reached])
        (fun m member => fits.names m (by simp [written, member])) [n.text]
      rw [target_of_fits fits rooted, written, List.map_append, List.map_singleton, through]
      simp [follow, fit, found, isEnd]
    simp [filesBelow, followed, written]
  · -- The place is a folder, and the file stands somewhere below it.
    have split : l.names ++ front = above := by
      rw [List.concat_eq_append, ← List.append_assoc] at written
      exact (List.append_inj' written rfl).1
    obtain ⟨inner, inside⟩ : ∃ inner, disk.root.at? l.names = some inner := by
      rw [← split, Folder.at?_append] at reached
      obtain ⟨inner, inside, _⟩ := Option.bind_eq_some_iff.1 reached
      exact ⟨inner, inside⟩
    have followed : disk.target l = .ok (.folder l.names) := by
      have through := @follow_append disk.root [] l.names (by simp [inside]) fits.names []
      rw [List.append_nil] at through
      rw [target_of_fits fits rooted, through]
      rfl
    simp only [filesBelow, followed, inside, Option.getD_some]
    rw [Folder.mem_filesAt_iff (Folder.isSorted_of_at? disk.sorted inside)]
    exact ⟨_, rfl, (Folder.hasFile_append inside).1 ⟨above, n, content, written, found⟩⟩

theorem pairwise_filesBelow (disk : DiskStore) (path : Path) :
    (disk.filesBelow path).Pairwise fun l m => l.sortsBefore m = true := by
  unfold filesBelow
  split
  · rename_i names _
    cases inside : disk.root.at? names with
    | none => exact List.Pairwise.nil
    | some inner => exact Folder.pairwise_filesAt (Folder.isSorted_of_at? disk.sorted inside) _
  · exact List.pairwise_singleton _ _
  · exact List.Pairwise.nil

/-- Whether the files of a disk are those of a memory. -/
def SameFiles (disk : DiskStore) (memory : MemoryStore) : Prop :=
  ∀ l : Location, (memory.textAt? l).isSome = true ↔ l.rooted = true ∧ disk.root.HasFile l.names

theorem sameFiles_of_locations {memory : MemoryStore} (listed : memory.locations = disk.files) :
    disk.SameFiles memory := by
  intro l
  rw [← MemoryStore.mem_locations, listed, files, Folder.mem_filesAt_iff disk.sorted]
  constructor
  · rintro ⟨names, rfl, has⟩
    exact ⟨rfl, has⟩
  · rintro ⟨rooted, has⟩
    exact ⟨l.names, by rw [← rooted]; rfl, has⟩

end DiskStore

/-- A disk and a memory with the same files list the same declaration files below a directory, in
the same order; below a file they list the file, and below what does not exist nothing. The path of
the directory is one that a disk takes, as that of all there is on it. -/
theorem declarationFiles_disk_eq_memory {disk : DiskStore} {memory : MemoryStore}
    (same : disk.SameFiles memory) {base : Location} (rooted : base.rooted = true)
    (fits : (∃ names, disk.root.HasFile (base.names ++ names)) → DiskStore.Fits base) :
    FileStore.declarationFiles disk base = FileStore.declarationFiles memory base := by
  have listed : FileStore.declarationFiles disk base =
      (disk.filesBelow base).filter Location.isDeclarationFile := rfl
  have listed' : FileStore.declarationFiles memory base =
      memory.locations.filter fun l => l.isUnder base && l.isDeclarationFile :=
    congrArg (fun place => memory.locations.filter fun l => l.isUnder place && l.isDeclarationFile)
      (Location.normalize_toPath base)
  have sorted : memory.locations.Pairwise fun l m => l.sortsBefore m = true :=
    List.pairwise_map.2 memory.sorted
  rw [listed, listed']
  refine Location.eq_of_sorted ((disk.pairwise_filesBelow base).filter _) (sorted.filter _) ?_
  intro l
  rw [List.mem_filter, List.mem_filter, Bool.and_eq_true, Location.isUnder_iff rooted,
    MemoryStore.mem_locations, same l, ← and_assoc]
  refine and_congr_left fun _ => ?_
  constructor
  · intro member
    obtain ⟨names, rfl, has⟩ := DiskStore.hasFile_of_mem_filesBelow rooted member
    exact ⟨⟨rfl, has⟩, names, rfl⟩
  · rintro ⟨⟨_, has⟩, names, rfl⟩
    exact DiskStore.mem_filesBelow_of_hasFile (fits ⟨names, has⟩) rooted has

/-! A folder `t` with a file `z.d.ts` further down, next to one whose written location would come
first, and one that declares nothing. -/

namespace Listing

/-- The folder. -/
def base : Location := ⟨true, [⟨['t'], rfl⟩]⟩

/-- The file further down. -/
def inner : Location := ⟨true, [⟨['t'], rfl⟩, ⟨['a'], rfl⟩, ⟨"z.d.ts".toList, rfl⟩]⟩

/-- The declaration file of the folder itself. -/
def beside : Location := ⟨true, [⟨['t'], rfl⟩, ⟨"a-x.d.ts".toList, rfl⟩]⟩

def disk : DiskStore where
  root := .folder ⟨['t'], rfl⟩
    (.folder ⟨['a'], rfl⟩ (.file ⟨"z.d.ts".toList, rfl⟩ (.text []) .empty)
      (.file ⟨"a-x.d.ts".toList, rfl⟩ (.text []) (.file ⟨"n.txt".toList, rfl⟩ (.text []) .empty)))
    .empty
  sorted := by
    simp only [Folder.IsSorted, Folder.names]
    decide

def memory : MemoryStore := .ofFiles [
  (beside.toPath, []), (Path.ofString "/t/n.txt", []), (inner.toPath, [])]

end Listing

theorem declarationFiles_disk_eq_memory_listing :
    Listing.disk.SameFiles Listing.memory ∧ DiskStore.Fits Listing.base ∧
      FileStore.declarationFiles Listing.disk Listing.base = [Listing.inner, Listing.beside] ∧
      FileStore.declarationFiles Listing.memory Listing.base = [Listing.inner, Listing.beside] := by
  have same : Listing.disk.SameFiles Listing.memory :=
    DiskStore.sameFiles_of_locations (by decide)
  have fits : DiskStore.Fits Listing.base := ⟨by decide, by decide, by decide⟩
  have listed : FileStore.declarationFiles Listing.memory Listing.base =
      [Listing.inner, Listing.beside] := by decide
  have agree : FileStore.declarationFiles Listing.disk Listing.base =
      FileStore.declarationFiles Listing.memory Listing.base :=
    declarationFiles_disk_eq_memory same rfl fun _ => fits
  exact ⟨same, fits, agree.trans listed, listed⟩

end TypingBundle
