import TypingBundle.Store.Basic
import TypingBundle.Store.Folder

/-!
Files on a disk: a tree of folders. A path is followed step by step, so that, unlike in memory, `..`
leads out of a folder only if the folder exists, and a file is in the way of everything below it.
Relative paths begin at the root. Names and paths are limited in length, counted in UTF-8 bytes.
-/

namespace TypingBundle

/-- A disk. -/
structure DiskStore where
  root : Folder
  sorted : root.IsSorted

namespace DiskStore

/-- Where a path leads. -/
inductive Target where
  | folder (names : List Name)
  /-- A file in a folder; `slash` tells whether the path goes on with a slash. -/
  | file (folder : List Name) (name : Name) (content : Content) (slash : Bool)
  /-- A name that is free in a folder. -/
  | free (folder : List Name) (name : Name) (slash : Bool)

/-- Whether nothing but slashes is left of a path. -/
def isEnd (pieces : List Text) : Bool := pieces.all fun piece => piece = []

/-- How many bytes a text takes in UTF-8. -/
def byteLength (text : Text) : Nat := text.foldl (fun total c => total + c.utf8Size) 0

/-- A name takes at most this many bytes. -/
def nameLimit : Nat := 255

/-- A path takes fewer bytes than this. -/
def pathBound : Nat := 4096

/-- Follows the pieces of a path from the folder that names lead to. -/
def follow (root : Folder) (names : List Name) : List Text → Except Store.Cause Target
  | [] => .ok (.folder names)
  | piece :: rest =>
    match Component.ofPiece? piece with
    | some (.name n) =>
      if nameLimit < byteLength n.text then .error .nameTooLong
      else match (root.at? names).bind (Folder.find? n) with
        | some (.folder _) => follow root (names ++ [n]) rest
        | some (.file content) =>
          if isEnd rest then .ok (.file names n content (rest ≠ [])) else .error .notDirectory
        | none => if isEnd rest then .ok (.free names n (rest ≠ [])) else .error .notFound
    | some .up => follow root names.dropLast rest
    | _ => follow root names rest

/-- Where a path leads on a disk. The empty path leads nowhere. -/
def target (disk : DiskStore) (path : Path) : Except Store.Cause Target :=
  if '\x00' ∈ path.text then .error .invalidPath
  else if path.text = [] then .error .notFound
  else if pathBound ≤ byteLength path.text then .error .nameTooLong
  else follow disk.root [] (Text.split '/' path.text)

/-- The disk with an entry put into a folder. -/
def put (disk : DiskStore) (folder : List Name) (name : Name) (node : Node)
    (inside : node.IsSorted) : DiskStore :=
  ⟨disk.root.change (Folder.put name node) folder,
    Folder.isSorted_change (fun _ => Folder.isSorted_put inside) disk.sorted⟩

/-- The disk with an entry taken out of a folder. -/
def erase (disk : DiskStore) (folder : List Name) (name : Name) : DiskStore :=
  ⟨disk.root.change (Folder.erase name) folder,
    Folder.isSorted_change (fun _ => Folder.isSorted_erase) disk.sorted⟩

/-- The text of a file. -/
def read (disk : DiskStore) (path : Path) : Except Store.Cause Text := do
  match ← disk.target path with
  | .file _ _ (.text text) false => .ok text
  | .file _ _ (.binary _) false => .error .invalidText
  | .file _ _ _ true => .error .notDirectory
  | .folder _ => .error .isDirectory
  | .free _ _ _ => .error .notFound

/-- The disk with a file written. A path that ends in a slash does not name a file. -/
def write (disk : DiskStore) (path : Path) (text : Text) : Except Store.Cause DiskStore := do
  match ← disk.target path with
  | .file folder name _ false => .ok (disk.put folder name (.file (.text text)) trivial)
  | .free folder name false => .ok (disk.put folder name (.file (.text text)) trivial)
  | _ => .error .isDirectory

/-- The disk with a file removed. -/
def remove (disk : DiskStore) (path : Path) : Except Store.Cause DiskStore := do
  match ← disk.target path with
  | .file folder name _ false => .ok (disk.erase folder name)
  | .file _ _ _ true => .error .notDirectory
  | .folder _ => .error .isDirectory
  | .free _ _ _ => .error .notFound

/-- Whether a path leads to a folder. -/
def isFolder (disk : DiskStore) (path : Path) : Bool :=
  match disk.target path with
  | .ok (.folder _) => true
  | _ => false

/-- Whether a path leads to a file. -/
def isFile (disk : DiskStore) (path : Path) : Bool :=
  match disk.target path with
  | .ok (.file _ _ _ slash) => !slash
  | _ => false

/-- The disk with one new folder. -/
def makeDirectory (disk : DiskStore) (path : Path) : Except Store.Cause DiskStore := do
  match ← disk.target path with
  | .free folder name _ => .ok (disk.put folder name (.folder .empty) trivial)
  | _ => .error .alreadyExists

/-- The disk with one new folder, unless it is there already, or why there can be none. -/
def ensureDirectory (disk : DiskStore) (path : Path) : DiskStore × Option Store.Cause :=
  match disk.makeDirectory path with
  | .ok disk => (disk, none)
  | .error cause => (disk, if disk.isFolder path then none else some cause)

/-- The disk with a folder and, where that is needed, `depth` folders above it. Folders that were
made stay also where the next one can not be made. -/
def makeDirectories (disk : DiskStore) (path : Path) (depth : Nat) :
    DiskStore × Option Store.Cause :=
  match disk.ensureDirectory path with
  | (disk, some .notFound) =>
    match depth, path.parent? with
    | depth + 1, some parent =>
      match if parent.text = [] then (disk, none) else disk.makeDirectories parent depth with
      | (disk, none) => disk.ensureDirectory path
      | stopped => stopped
    | _, _ => (disk, some .notFound)
  | done => done

/-- All files at or below the place that a path leads to. -/
def filesBelow (disk : DiskStore) (path : Path) : List Location :=
  match disk.target path with
  | .ok (.folder names) => ((disk.root.at? names).getD .empty).filesAt ⟨true, names⟩
  | .ok (.file folder name _ false) => [⟨true, folder ++ [name]⟩]
  | _ => []

/-- All files, from the root. -/
def files (disk : DiskStore) : List Location := disk.root.filesAt ⟨true, []⟩

/-- Names that are followed to a file lead to it in the tree. -/
theorem follow_names {root : Folder} {above names folder : List Name} {n : Name}
    {content : Content} {slash : Bool}
    (found : follow root above (names.map Name.text) = .ok (.file folder n content slash)) :
    folder ++ [n] = above ++ names ∧
      (root.at? folder).bind (Folder.find? n) = some (.file content) := by
  induction names generalizing above with
  | nil => simp [follow] at found
  | cons m names ih =>
    simp only [List.map_cons, follow, Name.ofPiece?_text] at found
    split at found
    · simp at found
    · split at found
      · simpa using ih found
      · rename_i other inside
        split at found
        · rename_i last
          simp only [Except.ok.injEq, Target.file.injEq] at found
          obtain ⟨rfl, rfl, rfl, _⟩ := found
          have none : names = [] := by
            cases names with
            | nil => rfl
            | cons next rest => simp [isEnd, next.ne_nil] at last
          exact ⟨by simp [none], inside⟩
        · simp at found
      · split at found <;> simp at found

/-- A written location at which a file is found leads to it from the root by its names. -/
theorem target_toPath {disk : DiskStore} {l : Location} {folder : List Name} {n : Name}
    {content : Content} {slash : Bool}
    (found : disk.target l = .ok (.file folder n content slash)) :
    l.names = folder ++ [n] ∧
      (disk.root.at? folder).bind (Folder.find? n) = some (.file content) := by
  obtain ⟨rooted, names⟩ := l
  simp only [target] at found
  split at found
  · simp at found
  split at found
  · simp at found
  split at found
  · simp at found
  rename_i nonempty _
  cases names with
  | nil => cases rooted <;> simp [Location.toPath, Location.text, Text.join, Text.split, follow,
      Component.ofPiece?, isName] at found nonempty
  | cons m names =>
    have reached : follow disk.root [] ((m :: names).map Name.text) =
        .ok (.file folder n content slash) := by
      rw [← Name.split_join_text (List.cons_ne_nil m names)]
      cases rooted with
      | true => exact found
      | false => exact found
    obtain ⟨path, inside⟩ := follow_names reached
    exact ⟨by simpa using path.symm, inside⟩

instance : FileStore DiskStore where
  read := read
  write := write
  remove := remove
  isPresent disk path := disk.isFolder path || disk.isFile path
  isFile := isFile
  makeDirectories disk path :=
    if path.text = [] then (disk, none) else disk.makeDirectories path path.components.length
  declarationFiles disk path := (disk.filesBelow path).filter Location.isDeclarationFile
  -- Relative paths begin at the root, so each file has a relative location as well.
  files disk := disk.files ++ disk.root.filesAt ⟨false, []⟩
  mem_files disk l found := by
    simp only [isFile] at found
    split at found
    · rename_i reached
      obtain ⟨names, inside⟩ := target_toPath reached
      obtain ⟨rooted, _⟩ := l
      simp only at names
      subst names
      cases rooted with
      | true => exact List.mem_append_left _ (Folder.mem_filesAt ⟨true, []⟩ inside)
      | false => exact List.mem_append_right _ (Folder.mem_filesAt ⟨false, []⟩ inside)
    · simp at found

/-- The disk without files. -/
def empty : DiskStore := ⟨.empty, trivial⟩

/-- The disk with a file put at a location, and every folder above it. -/
def insert (disk : DiskStore) (path : Path) (content : Content) : DiskStore :=
  let prepared := (path.parent?.map fun parent =>
    (FileStore.makeDirectories disk parent).1).getD disk
  match prepared.target path with
  | .ok (.free folder name _) => prepared.put folder name (.file content) trivial
  | .ok (.file folder name _ _) => prepared.put folder name (.file content) trivial
  | _ => prepared

end DiskStore
end TypingBundle
