import TypingBundle.Path.Location

/-!
Written locations under the operations of paths: the parent, the last name, a name put behind, the
ending of declaration files taken off, and the steps from a directory.

Main statements: `dropDeclarationEnding_of_stem?` and `components_eq_of_relativeSteps`. The first
says that the path of a declaration file without its ending is that of its stem, the second that
steps which never go up continue the steps of the directory.
-/

namespace TypingBundle

theorem Text.join_concat (separator piece : Text) {pieces : List Text} (nonempty : pieces ≠ []) :
    join separator (pieces ++ [piece]) = join separator pieces ++ separator ++ piece := by
  induction pieces with
  | nil => contradiction
  | cons first rest ih =>
    cases rest with
    | nil => rfl
    | cons next rest =>
      rw [List.cons_append, join_cons _ first (by simp), ih (by simp),
        join_cons _ first (List.cons_ne_nil next rest)]
      simp only [List.append_assoc]

theorem Text.dropEnd?_eq_some_iff {ending text rest : Text} :
    dropEnd? ending text = some rest ↔ text = rest ++ ending := by
  simp only [dropEnd?, Option.map_eq_some_iff, dropStart?_eq_some_iff]
  constructor
  · rintro ⟨front, written, rfl⟩
    rw [← List.reverse_reverse text, written]
    simp
  · rintro rfl
    exact ⟨rest.reverse, by simp, by simp⟩

/-! ### Written locations -/

namespace Name

theorem getLast?_text_ne_slash (n : Name) : n.text.getLast? ≠ some '/' := by
  intro last
  exact n.notMem_slash (List.mem_of_getLast? last)

theorem isAbsolute_text (n : Name) : (⟨n.text⟩ : Path).isAbsolute = false := by
  rw [Path.isAbsolute, decide_eq_false_iff_not]
  intro first
  exact n.notMem_slash (List.mem_of_head? first)

/-- Nothing is trimmed off names: none of them is empty or a dot. -/
theorem trimPieces_text (names : List Name) :
    Path.trimPieces (names.map Name.text) = names.map Name.text := by
  rcases List.eq_nil_or_concat names with rfl | ⟨before, n, rfl⟩
  · rfl
  · simp [Path.trimPieces, n.ne_nil, n.ne_dot]

end Name

namespace Location

variable {l stem dir : Location} {n : Name}

theorem eq_child_of_getLast? (last : l.names.getLast? = some n) :
    l = (⟨l.rooted, l.names.dropLast⟩ : Location).child n := by
  obtain ⟨rooted, names⟩ := l
  obtain ⟨before, rfl⟩ := List.getLast?_eq_some_iff.1 last
  simp [child]

/-- A location ends with a slash, or in nothing at all, only if it has no names. -/
theorem text_open_iff :
    l.text = [] ∨ l.text.getLast? = some '/' ↔ l.names = [] := by
  obtain ⟨rooted, names⟩ := l
  rcases List.eq_nil_or_concat names with rfl | ⟨before, n, rfl⟩
  · cases rooted <;> simp [text, Text.join]
  · have ends : n.text <:+ text ⟨rooted, before ++ [n]⟩ := by
      cases before with
      | nil => simp [text, Text.join]
      | cons first before =>
        rw [text, List.map_append, List.map_singleton, Text.join_concat _ _ (by simp)]
        simp only [← List.append_assoc, List.suffix_append]
    obtain ⟨front, written⟩ := ends
    have last : (text ⟨rooted, before ++ [n]⟩).getLast? = n.text.getLast? := by
      rw [← written, List.getLast?_append, List.getLast?_eq_some_getLast n.ne_nil]
      rfl
    have nonempty : text ⟨rooted, before ++ [n]⟩ ≠ [] := by
      intro none
      rw [none] at last
      exact n.ne_nil (List.getLast?_eq_none_iff.1 last.symm)
    simp [nonempty, last, n.getLast?_text_ne_slash]

/-- A name put behind a written location is written as a name inside the location. -/
theorem join_toPath (l : Location) (n : Name) : l.toPath.join ⟨n.text⟩ = (l.child n).toPath := by
  simp only [Path.join, n.isAbsolute_text, Bool.false_eq_true, if_false, toPath, text_open_iff]
  obtain ⟨rooted, names⟩ := l
  -- Only a location without names is written without a slash between it and the name.
  by_cases nameless : names = []
  · simp [text, child, nameless, Text.join]
  · have pieces : names.map Name.text ≠ [] := by simpa using nameless
    cases rooted <;> simp [text, child, nameless, Text.join_concat _ _ pieces]

theorem fileName?_toPath_child (dir : Location) (n : Name) :
    (dir.child n).toPath.fileName? = some n.text := by
  simp [Path.fileName?, components, child]

/-- The parent of a written location is the directory it stands in. -/
theorem parent?_toPath_child (dir : Location) (n : Name) :
    (dir.child n).toPath.parent? = some dir.toPath := by
  obtain ⟨rooted, names⟩ := dir
  have pieces : Text.split '/' (Text.join ['/'] ((names ++ [n]).map Name.text)) =
      (names ++ [n]).map Name.text := Name.split_join_text (by simp)
  have trimmed := Name.trimPieces_text (names ++ [n])
  have nonempty : (names ++ [n]).map Name.text ≠ [] := by simp
  have before : ((names ++ [n]).map Name.text).dropLast = names.map Name.text := by simp
  cases rooted with
  | true =>
    simp only [Path.parent?, toPath, text, child, if_true, List.singleton_append, pieces, trimmed,
      before, Name.trimPieces_text]
  | false =>
    have relative := head?_text_ne_slash (names ++ [n])
    simp only [Path.parent?, toPath, text, child, Bool.false_eq_true, if_false, List.nil_append]
    split
    · rename_i written
      rw [written] at relative
      exact absurd rfl relative
    · rw [pieces]
      split
      · rename_i dot
        obtain ⟨m, _, text⟩ := List.mem_map.1 (dot ▸ List.mem_cons_self)
        exact absurd text m.ne_dot
      · rw [trimmed]
        split
        · contradiction
        · rw [before, Name.trimPieces_text]

/-! ### Stems -/

/-- The location of a declaration file without the ending of its name, if what is left is a name. -/
def stem? (l : Location) : Option Location := do
  let n ← l.names.getLast?
  let text ← Text.dropEnd? Path.declarationEnding n.text
  if valid : isName text = true then some ⟨l.rooted, l.names.dropLast ++ [⟨text, valid⟩]⟩ else none

theorem stem?_eq_some :
    l.stem? = some stem ↔
      ∃ (dir : Location) (n : Name), stem = dir.child n ∧ l = dir.child n.addDeclarationEnding := by
  simp only [stem?, Option.bind_eq_bind, Option.bind_eq_some_iff, Text.dropEnd?_eq_some_iff]
  constructor
  · rintro ⟨last, ends, text, written, named⟩
    split at named
    · rename_i valid
      cases named
      refine ⟨⟨l.rooted, l.names.dropLast⟩, ⟨text, valid⟩, rfl, ?_⟩
      have same : last = Name.addDeclarationEnding ⟨text, valid⟩ := by
        cases last
        simpa [Name.addDeclarationEnding] using written
      rw [← same]
      exact eq_child_of_getLast? ends
    · cases named
  · rintro ⟨dir, n, rfl, rfl⟩
    refine ⟨n.addDeclarationEnding, by simp [child], n.text, rfl, ?_⟩
    simp [n.valid, child]

theorem addDeclarationEnding_of_stem? (found : l.stem? = some stem) :
    stem.addDeclarationEnding = l := by
  obtain ⟨dir, n, rfl, rfl⟩ := stem?_eq_some.1 found
  simp [addDeclarationEnding, child]

theorem isDeclarationFile_child (dir : Location) (n : Name) :
    (dir.child n).isDeclarationFile = Text.endsWith Path.declarationEnding n.text := by
  simp [isDeclarationFile, child]

theorem isDeclarationFile_addDeclarationEnding (l : Location) :
    l.addDeclarationEnding.isDeclarationFile = true := by
  have ends : ∀ text, Text.endsWith Path.declarationEnding (text ++ Path.declarationEnding) := by
    intro text
    exact Option.isSome_iff_exists.2 ⟨text, Text.dropEnd?_eq_some_iff.2 rfl⟩
  unfold addDeclarationEnding isDeclarationFile
  cases l.names.getLast? with
  | none => exact ends []
  | some n => simpa [Name.addDeclarationEnding] using ends n.text

/-- The path of a declaration file without its ending is that of its stem. -/
theorem dropDeclarationEnding_of_stem? (found : l.stem? = some stem) :
    l.toPath.dropDeclarationEnding = stem.toPath := by
  obtain ⟨dir, n, rfl, rfl⟩ := stem?_eq_some.1 found
  have dropped : Text.dropEnd? Path.declarationEnding n.addDeclarationEnding.text = some n.text :=
    Text.dropEnd?_eq_some_iff.2 rfl
  rw [Path.dropDeclarationEnding, fileName?_toPath_child, Option.bind_some, dropped]
  simp [Path.withFileName, fileName?_toPath_child, parent?_toPath_child, join_toPath]

theorem foldl_join_names (l : Location) (names : List Name) :
    (names.map Component.name).foldl (fun p step => p.join ⟨step.text⟩) l.toPath =
      (⟨l.rooted, l.names ++ names⟩ : Location).toPath := by
  induction names generalizing l with
  | nil => simp
  | cons n names ih =>
    have step : l.toPath.join ⟨(Component.name n).text⟩ = (l.child n).toPath := join_toPath l n
    rw [List.map_cons, List.foldl_cons, step, ih]
    simp [child]

/-- A relative path of names alone is written as the location with these names. -/
theorem ofComponents_names (names : List Name) :
    Path.ofComponents (names.map .name) = (⟨false, names⟩ : Location).toPath :=
  foldl_join_names empty names

theorem here_notMem_components (l : Location) : Component.here ∉ l.components := by
  obtain ⟨rooted, names⟩ := l
  cases rooted <;> simp [components]

theorem up_notMem_components (l : Location) : Component.up ∉ l.components := by
  obtain ⟨rooted, names⟩ := l
  cases rooted <;> simp [components]

end Location

/-! ### Steps from a directory -/

namespace Path

/-- What two lists come down to is what follows a beginning that they share. -/
theorem dropCommon_spec (a b : List Component) :
    ∃ common, a = common ++ (dropCommon a b).1 ∧ b = common ++ (dropCommon a b).2 := by
  fun_induction dropCommon a b with
  | case1 as shared bs ih =>
    obtain ⟨common, left, right⟩ := ih
    exact ⟨shared :: common, by rw [List.cons_append, ← left], by rw [List.cons_append, ← right]⟩
  | case2 => exact ⟨[], rfl, rfl⟩
  | case3 => exact ⟨[], rfl, rfl⟩

/-- The way of a location is all its steps. -/
theorem way_toPath (l : Location) : l.toPath.way = l.components := by
  rw [way, l.components_toPath, List.filter_eq_self]
  intro step member
  have other : step ≠ .here := by
    rintro rfl
    exact l.here_notMem_components member
  simpa using other

/-- The steps to a location lead up out of all that it does not share with the directory, and then
down what is left of it. -/
theorem relativeSteps_spec (base : Path) (target : Location) :
    ∃ common out down, base.way = common ++ out ∧ target.components = common ++ down ∧
      relativeSteps base target = List.replicate out.length .up ++ down := by
  obtain ⟨common, source, reached⟩ := dropCommon_spec base.way target.components
  refine ⟨common, _, _, source, reached, ?_⟩
  rw [relativeSteps, way_toPath]

/-- Steps that never go up continue the steps of the directory. -/
theorem components_eq_of_relativeSteps {base : Path} {target : Location}
    (downwards : .up ∉ relativeSteps base target) :
    target.components = base.way ++ relativeSteps base target := by
  obtain ⟨common, out, down, source, reached, steps⟩ := relativeSteps_spec base target
  rw [steps] at downwards ⊢
  -- Each step of the directory that is not shared would be left by a step up.
  have shared : out = [] := by
    have none : ¬ out.length ≠ 0 := fun left =>
      downwards (List.mem_append_left _ (List.mem_replicate.2 ⟨left, rfl⟩))
    simpa using none
  rw [source, reached, shared]
  simp

end Path
end TypingBundle
