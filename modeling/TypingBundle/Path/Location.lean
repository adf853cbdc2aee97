import TypingBundle.Path.Basic

/-!
Locations: paths without `.` and `..`, which are the identities of files. Every path has one,
found without looking at any file, and a location is written in exactly one way.

Main statements: `sortsBefore` is a strict total order on locations, and a written location is
read as itself.
-/

namespace TypingBundle

/-- A place in a directory tree, given by names from the root or from the working directory. -/
structure Location where
  rooted : Bool
  names : List Name
deriving DecidableEq

namespace Name

theorem ne_nil (n : Name) : n.text ≠ [] := by
  have valid := n.valid
  intro none
  simp [isName, none] at valid

/-- A name with the ending of declaration files. -/
def addDeclarationEnding (n : Name) : Name where
  text := n.text ++ Path.declarationEnding
  valid := by
    have valid := n.valid
    have long : 5 ≤ (n.text ++ Path.declarationEnding).length := by
      simp [Path.declarationEnding]
    have slashless : '/' ∉ Path.declarationEnding := by decide
    simp only [isName, ne_eq, decide_not, Bool.and_eq_true, Bool.not_eq_eq_eq_not, Bool.not_true,
      decide_eq_false_iff_not] at valid ⊢
    refine ⟨⟨⟨?_, ?_⟩, ?_⟩, ?_⟩
    · intro none
      simp [none] at long
    · simp [valid.1.1.2, slashless]
    · intro dot
      simp [dot] at long
    · intro dots
      simp [dots] at long

/-- The name of a declaration file without a stem. -/
def bareEnding : Name := ⟨Path.declarationEnding, by decide⟩

/-- The declaration file that stands for its directory. -/
def directoryIndex : Name := ⟨"index.d.ts".toList, by decide⟩

end Name

namespace Location

/-- The working directory itself, written as the empty path. -/
def empty : Location := ⟨false, []⟩

/-- One step onwards. Stepping up from a place without names stays there. -/
def step (l : Location) : Component → Location
  | .root => ⟨true, []⟩
  | .here => l
  | .up => ⟨l.rooted, l.names.dropLast⟩
  | .name n => ⟨l.rooted, l.names ++ [n]⟩

/-- The steps that lead to a location. -/
def components (l : Location) : List Component :=
  (if l.rooted then [.root] else []) ++ l.names.map .name

/-- The one way to write a location. -/
def text (l : Location) : Text :=
  (if l.rooted then ['/'] else []) ++ Text.join ['/'] (l.names.map Name.text)

/-- A location as a path. -/
def toPath (l : Location) : Path := ⟨l.text⟩

instance : Coe Location Path := ⟨toPath⟩

/-- A name inside a location. -/
def child (l : Location) (n : Name) : Location := ⟨l.rooted, l.names ++ [n]⟩

/-- The directory a location stands in. -/
def parent? (l : Location) : Option Location :=
  match l.names with
  | [] => none
  | names => some ⟨l.rooted, names.dropLast⟩

/-- The location with the ending of declaration files at its end. -/
def addDeclarationEnding (l : Location) : Location :=
  match l.names.getLast? with
  | some n => ⟨l.rooted, l.names.dropLast ++ [n.addDeclarationEnding]⟩
  | none => ⟨l.rooted, [Name.bareEnding]⟩

/-- Whether a location is at or below another. -/
def isUnder (l base : Location) : Bool := base.components.isPrefixOf l.components

/-- Whether the last name is that of a declaration file. -/
def isDeclarationFile (l : Location) : Bool :=
  match l.names.getLast? with
  | some n => Text.endsWith Path.declarationEnding n.text
  | none => false

/-- The texts by which locations are sorted: the root sorts before every name. -/
def sortKey (l : Location) : List Text :=
  (if l.rooted then [[]] else []) ++ l.names.map Name.text

/-- Lexicographic order of lists of texts. -/
def keyBefore : List Text → List Text → Bool
  | _, [] => false
  | [], _ :: _ => true
  | a :: as, b :: bs => Text.before a b || (a = b && keyBefore as bs)

/-- Strict order of locations, name by name and not by their whole text. -/
def sortsBefore (l m : Location) : Bool := keyBefore l.sortKey m.sortKey

theorem keyBefore_irrefl (key : List Text) : keyBefore key key = false := by
  induction key with
  | nil => rfl
  | cons a as ih => simp [keyBefore, ih]

theorem keyBefore_trans {a b c : List Text} (left : keyBefore a b = true)
    (right : keyBefore b c = true) : keyBefore a c = true := by
  induction a generalizing b c with
  | nil => cases b <;> cases c <;> simp_all [keyBefore]
  | cons x a ih =>
    cases b with
    | nil => simp [keyBefore] at left
    | cons y b =>
      cases c with
      | nil => simp [keyBefore] at right
      | cons z c =>
        simp only [keyBefore, Bool.or_eq_true, Bool.and_eq_true, decide_eq_true_eq] at left right ⊢
        rcases left with left | ⟨rfl, left⟩
        · rcases right with right | ⟨rfl, _⟩
          · exact Or.inl (Text.before_trans left right)
          · exact Or.inl left
        · rcases right with right | ⟨rfl, right⟩
          · exact Or.inl right
          · exact Or.inr ⟨rfl, ih left right⟩

theorem eq_of_not_keyBefore {a b : List Text} (left : keyBefore a b = false)
    (right : keyBefore b a = false) : a = b := by
  induction a generalizing b with
  | nil => cases b <;> simp_all [keyBefore]
  | cons x a ih =>
    cases b with
    | nil => simp [keyBefore] at right
    | cons y b =>
      simp only [keyBefore, Bool.or_eq_false_iff, Bool.and_eq_false_iff,
        decide_eq_false_iff_not] at left right
      have same : x = y := Text.eq_of_not_before left.1 right.1
      subst same
      simp only [not_true_eq_false, false_or] at left right
      rw [ih left.2 right.2]

theorem names_eq_of_texts_eq {a b : List Name} (texts : a.map Name.text = b.map Name.text) :
    a = b := by
  induction a generalizing b with
  | nil => cases b <;> simp_all
  | cons x a ih =>
    cases b with
    | nil => simp at texts
    | cons y b =>
      simp only [List.map_cons, List.cons.injEq] at texts
      obtain ⟨head, tail⟩ := texts
      have same : x = y := by
        cases x
        cases y
        simpa using head
      rw [same, ih tail]

/-- A name is not the empty text, so the key shows whether a location begins at the root. -/
theorem sortKey_injective {l m : Location} (keys : l.sortKey = m.sortKey) : l = m := by
  obtain ⟨rooted, names⟩ := l
  obtain ⟨rooted', names'⟩ := m
  cases rooted <;> cases rooted'
  · simp only [sortKey, Bool.false_eq_true, if_false, List.nil_append] at keys
    rw [names_eq_of_texts_eq keys]
  · cases names with
    | nil => simp [sortKey] at keys
    | cons n names =>
      simp only [sortKey, Bool.false_eq_true, if_false, List.nil_append, if_true, List.map_cons,
        List.cons_append, List.cons.injEq] at keys
      exact absurd keys.1 n.ne_nil
  · cases names' with
    | nil => simp [sortKey] at keys
    | cons n names' =>
      simp only [sortKey, Bool.false_eq_true, if_false, List.nil_append, if_true, List.map_cons,
        List.cons_append, List.cons.injEq] at keys
      exact absurd keys.1.symm n.ne_nil
  · simp only [sortKey, if_true, List.cons_append, List.nil_append, List.cons.injEq, true_and]
      at keys
    rw [names_eq_of_texts_eq keys]

@[simp]
theorem sortsBefore_irrefl (l : Location) : l.sortsBefore l = false := keyBefore_irrefl _

theorem sortsBefore_trans {l m n : Location} (left : l.sortsBefore m = true)
    (right : m.sortsBefore n = true) : l.sortsBefore n = true := keyBefore_trans left right

/-- Of two different locations one sorts before the other. -/
theorem eq_of_not_sortsBefore {l m : Location} (left : l.sortsBefore m = false)
    (right : m.sortsBefore l = false) : l = m :=
  sortKey_injective (eq_of_not_keyBefore left right)

end Location

namespace Path

/-- The location that a path denotes: `.` dropped and `..` folded into what is before it. -/
def normalize (p : Path) : Location := p.components.foldl Location.step Location.empty

/-- The location of a path that is read inside a directory. -/
def locate (base p : Path) : Location :=
  if p.isAbsolute then p.normalize else (base.join p).normalize

end Path

/-! ### Reading a written location -/

namespace Name

theorem notMem_slash (n : Name) : '/' ∉ n.text := by
  have valid := n.valid
  simp only [isName, ne_eq, decide_not, Bool.and_eq_true, Bool.not_eq_eq_eq_not, Bool.not_true,
    decide_eq_false_iff_not] at valid
  exact valid.1.1.2

theorem ne_dot (n : Name) : n.text ≠ ['.'] := by
  have valid := n.valid
  simp only [isName, ne_eq, decide_not, Bool.and_eq_true, Bool.not_eq_eq_eq_not, Bool.not_true,
    decide_eq_false_iff_not] at valid
  exact valid.1.2

theorem ne_dots (n : Name) : n.text ≠ ['.', '.'] := by
  have valid := n.valid
  simp only [isName, ne_eq, decide_not, Bool.and_eq_true, Bool.not_eq_eq_eq_not, Bool.not_true,
    decide_eq_false_iff_not] at valid
  exact valid.2

/-- The text of a name is read as that name. -/
@[simp]
theorem ofPiece?_text (n : Name) : Component.ofPiece? n.text = some (.name n) := by
  simp [Component.ofPiece?, n.ne_dots, n.valid]

theorem filterMap_ofPiece? (names : List Name) :
    (names.map Name.text).filterMap Component.ofPiece? = names.map .name := by
  induction names with
  | nil => rfl
  | cons n names ih => simp [ih]

/-- Names joined by slashes are found again between the slashes. -/
theorem split_join_text {names : List Name} (nonempty : names ≠ []) :
    Text.split '/' (Text.join ['/'] (names.map Name.text)) = names.map Name.text := by
  apply Text.split_join
  · simpa using nonempty
  · intro piece member
    obtain ⟨n, _, rfl⟩ := List.mem_map.1 member
    exact n.notMem_slash

end Name

namespace Location

theorem head?_text_ne_slash (names : List Name) :
    (Text.join ['/'] (names.map Name.text)).head? ≠ some '/' := by
  cases names with
  | nil => simp [Text.join]
  | cons n names =>
    obtain ⟨c, rest, written⟩ := List.exists_cons_of_ne_nil n.ne_nil
    have other : c ≠ '/' := by
      intro slash
      apply n.notMem_slash
      simp [written, slash]
    cases names with
    | nil => simpa [Text.join, written] using other
    | cons m names => simpa [Text.join, written] using other

/-- The steps of a written location are the steps that lead to it. -/
@[simp]
theorem components_toPath (l : Location) : l.toPath.components = l.components := by
  obtain ⟨rooted, names⟩ := l
  cases rooted with
  | true =>
    cases names with
    | nil => rfl
    | cons n names =>
      have pieces := Name.split_join_text (List.cons_ne_nil n names)
      have read := Name.filterMap_ofPiece? (n :: names)
      simp only [Path.components, toPath, text, components, if_true, List.singleton_append, pieces,
        read]
  | false =>
    cases names with
    | nil => rfl
    | cons n names =>
      have pieces := Name.split_join_text (List.cons_ne_nil n names)
      have read := Name.filterMap_ofPiece? (n :: names)
      have relative := head?_text_ne_slash (n :: names)
      simp only [Path.components, toPath, text, components, Bool.false_eq_true, if_false,
        List.nil_append]
      split
      · rename_i rest written
        rw [written] at relative
        exact absurd rfl relative
      · rw [pieces, List.map_cons]
        split
        · rename_i rest dot
          exact absurd (List.cons.inj dot).1 n.ne_dot
        · exact read

theorem foldl_step_names (l : Location) (names : List Name) :
    (names.map Component.name).foldl step l = ⟨l.rooted, l.names ++ names⟩ := by
  induction names generalizing l with
  | nil => simp
  | cons n names ih => simp [ih, step]

/-- A written location denotes itself. -/
@[simp]
theorem normalize_toPath (l : Location) : l.toPath.normalize = l := by
  obtain ⟨rooted, names⟩ := l
  rw [Path.normalize, components_toPath]
  cases rooted with
  | true => simp [components, foldl_step_names, step]
  | false => simp [components, foldl_step_names, empty]

theorem components_injective {l m : Location} (steps : l.components = m.components) : l = m := by
  rw [← normalize_toPath l, ← normalize_toPath m, Path.normalize, Path.normalize,
    components_toPath, components_toPath, steps]

/-- Two written locations denote the same path only if they are the same. -/
@[simp]
theorem same_toPath (l m : Location) : l.toPath.same m.toPath = decide (l = m) := by
  simp only [Path.same, components_toPath]
  exact decide_eq_decide.2 ⟨components_injective, fun same => same ▸ rfl⟩

/-- A written location ends in the name of a declaration file if the location does. -/
@[simp]
theorem isDeclarationFile_toPath (l : Location) :
    l.toPath.isDeclarationFile = l.isDeclarationFile := by
  obtain ⟨rooted, names⟩ := l
  simp only [Path.isDeclarationFile, Path.fileName?, components_toPath, components,
    isDeclarationFile]
  rcases List.eq_nil_or_concat names with rfl | ⟨before, n, rfl⟩
  · cases rooted <;> rfl
  · simp

end Location
end TypingBundle
