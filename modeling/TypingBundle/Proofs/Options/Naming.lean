import TypingBundle.Options.Resolve
import TypingBundle.Proofs.Outcome
import TypingBundle.Proofs.Path.Position
import TypingBundle.Proofs.Text.Pieces

/-!
The names that files get in a bundle. The name of a file is made from its position, and several
positions may come down to one name.

Main statements: `exportedName_eq_iff` says when two files have the same name, and
`foldedPosition_inj` says that plain positions are kept apart.
-/

namespace TypingBundle

/-! ### Marks and separators -/

namespace Text

variable {c mark : Char} {replacement separator text : Text} {pieces others : List Text}

theorem replaceChar_of_notMem (free : c ∉ text) : replaceChar c replacement text = text := by
  induction text with
  | nil => rfl
  | cons d text ih =>
    simp only [List.mem_cons, not_or] at free
    simp only [replaceChar, List.flatMap_cons] at ih ⊢
    rw [if_neg (Ne.symm free.1), ih free.2]
    rfl

/-- Replacing the marks between pieces by a separator joins the pieces by the separator. -/
theorem replaceChar_join (free : ∀ piece ∈ pieces, mark ∉ piece) :
    replaceChar mark separator (join [mark] pieces) = join separator pieces := by
  induction pieces with
  | nil => rfl
  | cons piece rest ih =>
    have first : replaceChar mark separator piece = piece :=
      replaceChar_of_notMem (free piece List.mem_cons_self)
    cases rest with
    | nil => exact first
    | cons next rest =>
      have later := ih fun p member => free p (List.mem_cons_of_mem _ member)
      simp only [join, ← later]
      simp only [replaceChar, List.flatMap_append, List.flatMap_singleton, if_true] at first ⊢
      rw [first]

theorem replacePair_of_not_contains (free : contains [c, c] text = false) :
    replacePair c replacement text = text := by
  fun_induction replacePair c replacement text with
  | case1 => rfl
  | case2 => rfl
  | case3 text d e found ih =>
    obtain ⟨rfl, rfl⟩ := found
    simp [contains, startsWith, dropStart?] at free
  | case4 d e text other ih =>
    rw [contains, Bool.or_eq_false_iff] at free
    rw [ih free.2]

theorem replacePair_cons_of_ne (other : mark ≠ c) (text : Text) :
    replacePair c replacement (mark :: text) = mark :: replacePair c replacement text := by
  cases text with
  | nil => rfl
  | cons d text => simp [replacePair, other]

/-- A pair does not go across a mark of another kind. -/
theorem replacePair_append_mark (other : mark ≠ c) (text rest : Text) :
    replacePair c replacement (text ++ mark :: rest) =
      replacePair c replacement text ++ mark :: replacePair c replacement rest := by
  fun_induction replacePair c replacement text with
  | case1 => exact replacePair_cons_of_ne other rest
  | case2 d => simp [replacePair, other, replacePair_cons_of_ne other]
  | case3 text d e found ih =>
    rw [List.cons_append, List.cons_append, replacePair, if_pos found, ih, List.append_assoc]
  | case4 d e text unlike ih =>
    rw [List.cons_append, List.cons_append, replacePair, if_neg unlike, ← List.cons_append, ih,
      List.cons_append]

theorem replacePair_join (other : mark ≠ c)
    (free : ∀ piece ∈ pieces, contains [c, c] piece = false) :
    replacePair c replacement (join [mark] pieces) = join [mark] pieces := by
  induction pieces with
  | nil => rfl
  | cons piece rest ih =>
    have first : replacePair c replacement piece = piece :=
      replacePair_of_not_contains (free piece List.mem_cons_self)
    cases rest with
    | nil => exact first
    | cons next rest =>
      have later := ih fun p member => free p (List.mem_cons_of_mem _ member)
      simp only [join, List.append_assoc, List.singleton_append]
      rw [replacePair_append_mark other, first, later]

/-- Joined pieces are known again if the separator begins with a character that is in none of
them. -/
theorem join_inj {start : Char} {rest : Text} (nonempty : pieces ≠ []) (nonempty' : others ≠ [])
    (free : ∀ piece ∈ pieces, start ∉ piece) (free' : ∀ piece ∈ others, start ∉ piece)
    (same : join (start :: rest) pieces = join (start :: rest) others) : pieces = others := by
  induction pieces generalizing others with
  | nil => contradiction
  | cons piece pieces ih =>
    cases others with
    | nil => contradiction
    | cons other others =>
      have first := free piece List.mem_cons_self
      have first' := free' other List.mem_cons_self
      -- A piece that stands alone has no separator in it, so the other list has one piece too.
      cases pieces with
      | nil =>
        cases others with
        | nil => exact congrArg (fun text => [text]) same
        | cons next' others =>
          simp only [join] at same
          rw [same] at first
          simp at first
      | cons next pieces =>
        cases others with
        | nil =>
          simp only [join] at same
          rw [← same] at first'
          simp at first'
        | cons next' others =>
          simp only [join, List.append_assoc, List.cons_append] at same
          obtain ⟨rfl, later⟩ := append_mark_inj first first' same
          have equal : next :: pieces = next' :: others := ih (by simp) (by simp)
            (fun p member => free p (List.mem_cons_of_mem _ member))
            (fun p member => free' p (List.mem_cons_of_mem _ member))
            (List.append_cancel_left later)
          rw [equal]

end Text

/-- Joined names are known again, even if there are none. -/
theorem Name.join_text_inj {separator : Text} {names others : List Name}
    (separates : separator ≠ [])
    (free : ∀ n ∈ names, ∀ c, separator.head? = some c → c ∉ n.text)
    (free' : ∀ n ∈ others, ∀ c, separator.head? = some c → c ∉ n.text)
    (same : Text.join separator (names.map text) = Text.join separator (others.map text)) :
    names = others := by
  obtain ⟨start, rest, rfl⟩ := List.exists_cons_of_ne_nil separates
  have written : ∀ (n : Name) (names : List Name),
      Text.join (start :: rest) ((n :: names).map text) ≠ [] := by
    intro n names
    cases names with
    | nil => exact n.ne_nil
    | cons m names => simp [Text.join]
  cases names with
  | nil =>
    cases others with
    | nil => rfl
    | cons m others => exact absurd same.symm (written m others)
  | cons n names =>
    cases others with
    | nil => exact absurd same (written n names)
    | cons m others =>
      apply Location.names_eq_of_texts_eq
      apply Text.join_inj (by simp) (by simp) _ _ same
      · simpa using fun n member => free n member start rfl
      · simpa using fun n member => free' n member start rfl

/-! ### Names by position -/

theorem Options.separator_ne_nil {options : Options} {cwd : Path} {settings : Settings}
    (resolved : options.resolve cwd = .ok settings) : settings.separator ≠ [] := by
  obtain ⟨main, _, resolved⟩ := except_bind_eq_ok.1 resolved
  obtain ⟨name, _, resolved⟩ := except_bind_eq_ok.1 resolved
  dsimp only at resolved
  split at resolved
  · cases resolved
  · rename_i nonempty
    cases resolved
    exact nonempty

namespace Settings

variable {s : Settings} {l m : Location}

/-- The main file has the name of the bundle, every other file a longer name of its own position. -/
theorem exportedName_location (s : Settings) (l : Location) :
    s.exportedName l = if l = s.mainFile then s.name else s.positionName l := by
  simp [exportedName]

theorem name_ne_positionName (separates : s.separator ≠ []) (file : Path) :
    s.name ≠ s.positionName file := by
  intro same
  have lengths := congrArg List.length same
  have positive := List.length_pos_iff.2 separates
  simp only [positionName, List.length_append] at lengths
  omega

/-- Two files have the same name if neither is the main file and their positions fold alike. -/
theorem exportedName_eq_iff (separates : s.separator ≠ []) (different : l ≠ m) :
    s.exportedName l = s.exportedName m ↔
      l ≠ s.mainFile ∧ m ≠ s.mainFile ∧ s.foldedPosition l = s.foldedPosition m := by
  rw [exportedName_location, exportedName_location]
  by_cases first : l = s.mainFile
  · have second : m ≠ s.mainFile := fun same => different (first.trans same.symm)
    simp [first, second, name_ne_positionName separates]
  · by_cases second : m = s.mainFile
    · simp [first, second, (name_ne_positionName separates _).symm]
    · simp [first, second, positionName]

/-- Whether a step is a name that stays as it is in a generated name, and that the separator keeps
apart from the names next to it. -/
def isPlainStep (s : Settings) : Component → Bool
  | .name n => '\\' ∉ n.text && !Text.contains ['.', '.'] n.text &&
      s.separator.head?.all (· ∉ n.text)
  | _ => false

/-- Whether a declaration file is at a plain position: only such steps lead to its stem. -/
def isPlain (s : Settings) (l : Location) : Bool :=
  l.stem?.any fun stem : Location => (s.baseDir.relativeSteps stem).all s.isPlainStep

theorem exists_names_of_plain {steps : List Component} (plain : steps.all s.isPlainStep = true) :
    ∃ names : List Name, steps = names.map .name ∧
      ∀ n ∈ names, s.isPlainStep (.name n) = true := by
  induction steps with
  | nil => exact ⟨[], rfl, by simp⟩
  | cons step steps ih =>
    rw [List.all_cons, Bool.and_eq_true] at plain
    obtain ⟨names, rfl, each⟩ := ih plain.2
    cases step with
    | name n => exact ⟨n :: names, rfl, by simpa using ⟨plain.1, each⟩⟩
    | _ => cases plain.1

theorem isPlainStep_name {n : Name} :
    s.isPlainStep (.name n) = true ↔
      '\\' ∉ n.text ∧ Text.contains ['.', '.'] n.text = false ∧
        ∀ c, s.separator.head? = some c → c ∉ n.text := by
  simp [isPlainStep, Option.all_eq_true, and_assoc]

/-- A plain position folds to the names on the way, with the separator between them. -/
theorem foldedPosition_of_isPlain (plain : s.isPlain l = true) :
    ∃ (stem : Location) (names : List Name), l.stem? = some stem ∧
      s.baseDir.relativeSteps stem = names.map .name ∧
      (∀ n ∈ names, s.isPlainStep (.name n) = true) ∧
      s.foldedPosition l = Text.join s.separator (names.map Name.text) := by
  obtain ⟨stem, found, all⟩ := (Option.any_eq_true _ _).1 plain
  obtain ⟨names, steps, each⟩ := exists_names_of_plain all
  refine ⟨stem, names, found, steps, each, ?_⟩
  have written : (s.baseDir.relative stem).text = Text.join ['/'] (names.map Name.text) := by
    rw [Path.relative, steps, Location.ofComponents_names]
    rfl
  have pieces : ∀ piece ∈ names.map Name.text,
      '\\' ∉ piece ∧ Text.contains ['.', '.'] piece = false ∧ '/' ∉ piece := by
    intro piece member
    obtain ⟨n, named, rfl⟩ := List.mem_map.1 member
    obtain ⟨slashed, undotted, _⟩ := isPlainStep_name.1 (each n named)
    exact ⟨slashed, undotted, n.notMem_slash⟩
  have position : s.moduleName l = Text.join ['/'] (names.map Name.text) := by
    rw [moduleName, Location.dropDeclarationEnding_of_stem? found, Path.slashed, written,
      Text.replaceChar_of_notMem (Text.notMem_join (by decide) fun p member => (pieces p member).1)]
  rw [foldedPosition, position]
  rw [Text.replacePair_join (by decide) fun p member => (pieces p member).2.1]
  rw [Text.replaceChar_join fun p member => (pieces p member).2.2]

/-- Files at plain positions are known again by their folded positions. -/
theorem foldedPosition_inj (separates : s.separator ≠ []) (plain : s.isPlain l = true)
    (plain' : s.isPlain m = true) (same : s.foldedPosition l = s.foldedPosition m) : l = m := by
  obtain ⟨stem, names, found, steps, each, folded⟩ := foldedPosition_of_isPlain plain
  obtain ⟨stem', names', found', steps', each', folded'⟩ := foldedPosition_of_isPlain plain'
  have equal : names = names' := by
    rw [folded, folded'] at same
    exact Name.join_text_inj separates (fun n member => (isPlainStep_name.1 (each n member)).2.2)
      (fun n member => (isPlainStep_name.1 (each' n member)).2.2) same
  -- Names never lead up, so both stems continue the base directory by the same names.
  have down : ∀ names : List Name, Component.up ∉ names.map Component.name := by simp
  have reached := Path.components_eq_of_relativeSteps (steps ▸ down names)
  have reached' := Path.components_eq_of_relativeSteps (steps' ▸ down names')
  have stems : stem = stem' := by
    apply Location.components_injective
    rw [reached, reached', steps, steps', equal]
  have left := Location.addDeclarationEnding_of_stem? found
  have right := Location.addDeclarationEnding_of_stem? found'
  rw [← left, ← right, stems]

end Settings
end TypingBundle
