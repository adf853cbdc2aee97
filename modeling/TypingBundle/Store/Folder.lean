import TypingBundle.Path.Location

/-!
Folders: named entries, sorted by name, each of which is a file or again a folder.

Main statements: putting an entry in, taking one out and changing a folder further down keep every
folder sorted, and a file that names lead to is listed.
-/

namespace TypingBundle

/-- What a file holds. -/
inductive Content where
  | text (text : Text)
  /-- Bytes that are not UTF-8. -/
  | binary (bytes : List UInt8)
deriving DecidableEq

/-- The entries of a folder, one after the other. -/
inductive Folder where
  | empty
  | file (name : Name) (content : Content) (rest : Folder)
  | folder (name : Name) (inner rest : Folder)

/-- An entry of a folder. -/
inductive Node where
  | file (content : Content)
  | folder (inner : Folder)

namespace Folder

/-- The names of the entries. -/
def names : Folder → List Name
  | empty => []
  | file n _ rest => n :: rest.names
  | folder n _ rest => n :: rest.names

/-- The entry with a name. -/
def find? (name : Name) : Folder → Option Node
  | empty => none
  | file n content rest => if n = name then some (.file content) else rest.find? name
  | folder n inner rest => if n = name then some (.folder inner) else rest.find? name

/-- A folder with one more entry before all others. -/
def cons (name : Name) (node : Node) (rest : Folder) : Folder :=
  match node with
  | .file content => file name content rest
  | .folder inner => folder name inner rest

/-- The folder with an entry put in its place; an entry with the same name is replaced. -/
def put (name : Name) (node : Node) : Folder → Folder
  | empty => cons name node empty
  | file n content rest =>
    if Text.before name.text n.text then cons name node (file n content rest)
    else if n = name then cons name node rest
    else file n content (rest.put name node)
  | folder n inner rest =>
    if Text.before name.text n.text then cons name node (folder n inner rest)
    else if n = name then cons name node rest
    else folder n inner (rest.put name node)

/-- The folder without an entry. -/
def erase (name : Name) : Folder → Folder
  | empty => empty
  | file n content rest => if n = name then rest else file n content (rest.erase name)
  | folder n inner rest => if n = name then rest else folder n inner (rest.erase name)

/-- The folder that names lead to. -/
def at? (f : Folder) : List Name → Option Folder
  | [] => some f
  | n :: names =>
    match f.find? n with
    | some (.folder inner) => inner.at? names
    | _ => none

/-- The folder with a change in the folder that names lead to. -/
def change (alter : Folder → Folder) (f : Folder) : List Name → Folder
  | [] => alter f
  | n :: names =>
    match f.find? n with
    | some (.folder inner) => f.put n (.folder (inner.change alter names))
    | _ => f

/-- All files of a folder at a location, depth first. -/
def filesAt (l : Location) : Folder → List Location
  | empty => []
  | file n _ rest => l.child n :: rest.filesAt l
  | folder n inner rest => inner.filesAt (l.child n) ++ rest.filesAt l

/-- All entries below a folder with the names that lead to them; a folder has no content. -/
def entries (above : List Name) : Folder → List (List Name × Option Content)
  | empty => []
  | file n content rest => (above ++ [n], some content) :: rest.entries above
  | folder n inner rest =>
    (above ++ [n], none) :: (inner.entries (above ++ [n]) ++ rest.entries above)

/-! ### Order -/

/-- Whether the entries are sorted by name, without two of one name, here and further down. -/
def IsSorted : Folder → Prop
  | empty => True
  | file n _ rest => (∀ m ∈ rest.names, Text.before n.text m.text = true) ∧ rest.IsSorted
  | folder n inner rest =>
    (∀ m ∈ rest.names, Text.before n.text m.text = true) ∧ inner.IsSorted ∧ rest.IsSorted

end Folder

/-- Whether a folder in an entry is sorted. -/
def Node.IsSorted : Node → Prop
  | file _ => True
  | folder inner => inner.IsSorted

namespace Folder

@[simp]
theorem names_cons (name : Name) (node : Node) (rest : Folder) :
    (cons name node rest).names = name :: rest.names := by
  cases node <;> rfl

theorem isSorted_cons {name : Name} {node : Node} {rest : Folder}
    (first : ∀ m ∈ rest.names, Text.before name.text m.text = true) (inside : node.IsSorted)
    (sorted : rest.IsSorted) : (cons name node rest).IsSorted := by
  cases node with
  | file content => exact ⟨first, sorted⟩
  | folder inner => exact ⟨first, inside, sorted⟩

/-- Two different names come one before the other. -/
theorem before_of_not_before {a b : Name} (different : b ≠ a)
    (after : ¬ Text.before a.text b.text = true) : Text.before b.text a.text = true := by
  cases order : Text.before b.text a.text with
  | true => rfl
  | false =>
    have same : b.text = a.text := Text.eq_of_not_before order (by simpa using after)
    cases a
    cases b
    simp_all

theorem mem_names_put {name : Name} {node : Node} {f : Folder} {m : Name}
    (member : m ∈ (f.put name node).names) : m = name ∨ m ∈ f.names := by
  induction f with
  | empty => simpa [put, names] using member
  | file n content rest ih =>
    simp only [put] at member
    split at member
    · simpa [names] using member
    · split at member
      · simp only [names_cons, List.mem_cons] at member
        rcases member with rfl | member <;> simp_all [names]
      · simp only [names, List.mem_cons] at member ⊢
        rcases member with rfl | member
        · simp
        · rcases ih member with rfl | member <;> simp_all
  | folder n inner rest _ ih =>
    simp only [put] at member
    split at member
    · simpa [names] using member
    · split at member
      · simp only [names_cons, List.mem_cons] at member
        rcases member with rfl | member <;> simp_all [names]
      · simp only [names, List.mem_cons] at member ⊢
        rcases member with rfl | member
        · simp
        · rcases ih member with rfl | member <;> simp_all

theorem isSorted_put {name : Name} {node : Node} {f : Folder} (inside : node.IsSorted)
    (sorted : f.IsSorted) : (f.put name node).IsSorted := by
  induction f with
  | empty => exact isSorted_cons (by simp [names]) inside trivial
  | file n content rest ih =>
    obtain ⟨first, tail⟩ := sorted
    simp only [put]
    split
    · rename_i earlier
      refine isSorted_cons ?_ inside ⟨first, tail⟩
      intro m member
      rcases List.mem_cons.1 member with rfl | member
      · exact earlier
      · exact Text.before_trans earlier (first m member)
    · rename_i later
      split
      · rename_i same
        subst same
        exact isSorted_cons first inside tail
      · rename_i different
        refine ⟨?_, ih tail⟩
        intro m member
        rcases mem_names_put member with rfl | member
        · exact before_of_not_before different later
        · exact first m member
  | folder n inner rest _ ih =>
    obtain ⟨first, below, tail⟩ := sorted
    simp only [put]
    split
    · rename_i earlier
      refine isSorted_cons ?_ inside ⟨first, below, tail⟩
      intro m member
      rcases List.mem_cons.1 member with rfl | member
      · exact earlier
      · exact Text.before_trans earlier (first m member)
    · rename_i later
      split
      · rename_i same
        subst same
        exact isSorted_cons first inside tail
      · rename_i different
        refine ⟨?_, below, ih tail⟩
        intro m member
        rcases mem_names_put member with rfl | member
        · exact before_of_not_before different later
        · exact first m member

theorem mem_names_erase {name : Name} {f : Folder} {m : Name} (member : m ∈ (f.erase name).names) :
    m ∈ f.names := by
  induction f with
  | empty => exact member
  | file n content rest ih =>
    simp only [erase] at member
    split at member
    · simp [names, member]
    · simp only [names, List.mem_cons] at member ⊢
      exact member.imp_right ih
  | folder n inner rest _ ih =>
    simp only [erase] at member
    split at member
    · simp [names, member]
    · simp only [names, List.mem_cons] at member ⊢
      exact member.imp_right ih

theorem isSorted_erase {name : Name} {f : Folder} (sorted : f.IsSorted) :
    (f.erase name).IsSorted := by
  induction f with
  | empty => trivial
  | file n content rest ih =>
    obtain ⟨first, tail⟩ := sorted
    simp only [erase]
    split
    · exact tail
    · exact ⟨fun m member => first m (mem_names_erase member), ih tail⟩
  | folder n inner rest _ ih =>
    obtain ⟨first, below, tail⟩ := sorted
    simp only [erase]
    split
    · exact tail
    · exact ⟨fun m member => first m (mem_names_erase member), below, ih tail⟩

theorem isSorted_of_find? {name : Name} {f : Folder} {node : Node} (sorted : f.IsSorted)
    (found : f.find? name = some node) : node.IsSorted := by
  induction f with
  | empty => simp [find?] at found
  | file n content rest ih =>
    simp only [find?] at found
    split at found
    · cases found
      trivial
    · exact ih sorted.2 found
  | folder n inner rest _ ih =>
    simp only [find?] at found
    split at found
    · cases found
      exact sorted.2.1
    · exact ih sorted.2.2 found

theorem isSorted_change {alter : Folder → Folder}
    (keeps : ∀ g : Folder, g.IsSorted → (alter g).IsSorted) {f : Folder} {names : List Name}
    (sorted : f.IsSorted) : (f.change alter names).IsSorted := by
  induction names generalizing f with
  | nil => exact keeps f sorted
  | cons n names ih =>
    simp only [change]
    split
    · rename_i inner found
      have below : inner.IsSorted := isSorted_of_find? sorted found
      exact isSorted_put (show Node.IsSorted (.folder _) from ih below) sorted
    · exact sorted

/-! ### Files by name -/

/-- A file of a folder is listed under its name. -/
theorem child_mem_filesAt {f : Folder} {n : Name} {content : Content} (l : Location)
    (found : f.find? n = some (.file content)) : l.child n ∈ f.filesAt l := by
  induction f with
  | empty => simp [find?] at found
  | file m other rest ih =>
    simp only [find?] at found
    split at found
    · rename_i same
      simp [filesAt, same]
    · simp [filesAt, ih found]
  | folder m inner rest _ ih =>
    simp only [find?] at found
    split at found
    · simp at found
    · simp [filesAt, ih found]

/-- What is listed for a folder inside a folder is listed for the outer one. -/
theorem mem_filesAt_of_find? {f inner : Folder} {n : Name} {l m : Location}
    (found : f.find? n = some (.folder inner)) (member : m ∈ inner.filesAt (l.child n)) :
    m ∈ f.filesAt l := by
  induction f with
  | empty => simp [find?] at found
  | file other content rest ih =>
    simp only [find?] at found
    split at found
    · simp at found
    · simp [filesAt, ih found]
  | folder other below rest _ ih =>
    simp only [find?] at found
    split at found
    · rename_i same
      cases found
      subst same
      simp [filesAt, member]
    · simp [filesAt, ih found]

/-- A file that names lead to is listed. -/
theorem mem_filesAt {f : Folder} {names : List Name} {n : Name} {content : Content} (l : Location)
    (found : (f.at? names).bind (find? n) = some (.file content)) :
    ⟨l.rooted, l.names ++ names ++ [n]⟩ ∈ f.filesAt l := by
  induction names generalizing f l with
  | nil => simpa [Location.child] using child_mem_filesAt l (by simpa [at?] using found)
  | cons m names ih =>
    simp only [at?] at found
    split at found
    · rename_i inner inside
      refine mem_filesAt_of_find? inside ?_
      simpa [Location.child] using ih (l.child m) found
    · simp at found

end Folder
end TypingBundle
