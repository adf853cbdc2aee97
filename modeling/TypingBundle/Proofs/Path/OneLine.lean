import TypingBundle.Proofs.Path.Position
import TypingBundle.Proofs.Text.Pieces

/-!
Paths on one line. The names in a path are parts of its text, and operations on paths add slashes and
dots to them. So a character other than these, such as the end of a line, is in no path that is made
from paths without it.

Main statements: `notMem_normalize` and `notMem_relative`.
-/

namespace TypingBundle

/-! ### Names and steps -/

namespace Path

variable {p q base : Path} {n : Name} {step : Component} {steps : List Component} {c : Char}

theorem text_of_ofPiece? {piece : Text} (read : Component.ofPiece? piece = some (.name n)) :
    n.text = piece := by
  unfold Component.ofPiece? at read
  split at read
  · cases read
  · split at read
    · cases read
      rfl
    · cases read

theorem infix_of_mem_filterMap {text : Text} {pieces : List Text}
    (inside : ∀ piece ∈ pieces, piece <:+: text)
    (member : .name n ∈ pieces.filterMap Component.ofPiece?) : n.text <:+: text := by
  obtain ⟨piece, listed, read⟩ := List.mem_filterMap.1 member
  rw [text_of_ofPiece? read]
  exact inside piece listed

theorem infix_of_mem_components (member : .name n ∈ p.components) : n.text <:+: p.text := by
  obtain ⟨text⟩ := p
  unfold components at member
  dsimp only at member ⊢
  split at member
  · rename_i rest
    rcases List.mem_cons.1 member with root | later
    · cases root
    · have inside := infix_of_mem_filterMap (fun _ => Text.infix_of_mem_split) later
      exact inside.trans (List.suffix_cons '/' rest).isInfix
  · split at member
    · rename_i rest pieces
      rcases List.mem_cons.1 member with here | later
      · cases here
      · refine infix_of_mem_filterMap (fun piece listed => ?_) later
        exact Text.infix_of_mem_split (pieces ▸ List.mem_cons_of_mem _ listed)
    · exact infix_of_mem_filterMap (fun _ => Text.infix_of_mem_split) member

theorem notMem_of_mem_components (other : c ≠ '/' ∧ c ≠ '.') (plain : c ∉ p.text)
    (member : step ∈ p.components) : c ∉ step.text := by
  cases step with
  | root => simp [Component.text, other]
  | here => simp [Component.text, other]
  | up => simp [Component.text, other]
  | name n => exact fun inside => plain ((infix_of_mem_components member).subset inside)

/-! ### Written paths -/

theorem notMem_join (other : c ≠ '/' ∧ c ≠ '.') (plain : c ∉ p.text) (plain' : c ∉ q.text) :
    c ∉ (p.join q).text := by
  unfold join
  split
  · exact plain'
  · split <;> simp [other, plain, plain']

theorem notMem_ofComponents (other : c ≠ '/' ∧ c ≠ '.') (plain : ∀ step ∈ steps, c ∉ step.text) :
    c ∉ (ofComponents steps).text := by
  have onwards : ∀ p : Path, c ∉ p.text →
      c ∉ (steps.foldl (fun p step => p.join ⟨step.text⟩) p).text := by
    induction steps with
    | nil => exact fun _ start => start
    | cons step steps ih =>
      intro p start
      rw [List.foldl_cons]
      apply ih fun s member => plain s (List.mem_cons_of_mem _ member)
      exact notMem_join other start (plain step List.mem_cons_self)
  exact onwards ⟨[]⟩ (by simp)

/-- Steps from a directory go up, or are steps of the path that they lead to. -/
theorem mem_relativeSteps (member : step ∈ relativeSteps base p) :
    step = .up ∨ step ∈ p.components := by
  obtain ⟨common, _, reached⟩ := dropCommon_spec base.way p.way
  rcases List.mem_append.1 member with up | down
  · exact Or.inl (List.mem_replicate.1 up).2
  · have all := List.mem_append_right common down
    rw [← reached] at all
    exact Or.inr (List.mem_filter.1 all).1

/-- What is not in a path is not in the path as seen from a directory, whatever the directory. -/
theorem notMem_relative (other : c ≠ '/' ∧ c ≠ '.') (base : Path) (plain : c ∉ p.text) :
    c ∉ (base.relative p).text := by
  apply notMem_ofComponents other
  intro step member
  rcases mem_relativeSteps member with rfl | inside
  · simp [Component.text, other]
  · exact notMem_of_mem_components other plain inside

end Path

/-! ### Locations -/

namespace Location

variable {l : Location} {p : Path}

theorem notMem_text_iff {c : Char} (other : c ≠ '/') :
    c ∉ l.text ↔ ∀ n ∈ l.names, c ∉ n.text := by
  obtain ⟨rooted, names⟩ := l
  have root : c ∉ (if rooted then ['/'] else []) := by cases rooted <;> simp [other]
  rw [text, List.mem_append, not_or, and_iff_right root]
  constructor
  · intro plain n member inside
    exact plain ((Text.infix_join (List.mem_map_of_mem member)).subset inside)
  · intro plain
    apply Text.notMem_join (by simpa using other)
    intro piece member
    obtain ⟨n, listed, rfl⟩ := List.mem_map.1 member
    exact plain n listed

/-- Names are only found on the way: stepping up forgets them. -/
theorem mem_names_foldl_step {n : Name} (steps : List Component) (l : Location)
    (member : n ∈ (steps.foldl step l).names) : n ∈ l.names ∨ .name n ∈ steps := by
  induction steps generalizing l with
  | nil => exact Or.inl member
  | cons first steps ih =>
    rcases ih (l.step first) member with before | later
    · cases first with
      | root => cases before
      | here => exact Or.inl before
      | up => exact Or.inl (List.dropLast_subset _ before)
      | name m =>
        rcases List.mem_append.1 before with old | new
        · exact Or.inl old
        · rw [List.mem_singleton.1 new]
          exact Or.inr List.mem_cons_self
    · exact Or.inr (List.mem_cons_of_mem _ later)

theorem notMem_addDeclarationEnding (plain : '\n' ∉ l.text) :
    '\n' ∉ l.addDeclarationEnding.text := by
  rw [notMem_text_iff (by decide)] at plain ⊢
  have ending : '\n' ∉ Path.declarationEnding := by decide
  unfold addDeclarationEnding
  split
  · rename_i last ends
    intro n member
    rcases List.mem_append.1 member with before | new
    · exact plain n (List.dropLast_subset _ before)
    · have old := plain last (List.mem_of_getLast? ends)
      rw [List.mem_singleton.1 new]
      simp [Name.addDeclarationEnding, old, ending]
  · intro n member
    rw [List.mem_singleton.1 member]
    exact ending

theorem notMem_child {n : Name} (plain : '\n' ∉ l.text) (named : '\n' ∉ n.text) :
    '\n' ∉ (l.child n).text := by
  rw [notMem_text_iff (by decide)] at plain ⊢
  intro m member
  rcases List.mem_append.1 member with before | new
  · exact plain m before
  · rwa [List.mem_singleton.1 new]

theorem notMem_dropDeclarationEnding (plain : '\n' ∉ l.text) :
    '\n' ∉ l.toPath.dropDeclarationEnding.text := by
  cases last : l.names.getLast? with
  | none =>
    have unnamed : l.toPath.fileName? = none := by
      rw [Path.fileName?, components_toPath, components, List.getLast?_eq_none_iff.1 last]
      cases l.rooted <;> rfl
    rw [Path.dropDeclarationEnding, unnamed]
    exact plain
  | some n =>
    have child := eq_child_of_getLast? last
    generalize (⟨l.rooted, l.names.dropLast⟩ : Location) = dir at child
    subst child
    rw [Path.dropDeclarationEnding, fileName?_toPath_child, Option.bind_some]
    split
    · rename_i stem cut
      have named : n.text = stem ++ Path.declarationEnding := Text.dropEnd?_eq_some_iff.1 cut
      rw [notMem_text_iff (by decide)] at plain
      have directory : '\n' ∉ dir.text :=
        (notMem_text_iff (by decide)).2 fun m member => plain m (List.mem_append_left _ member)
      have begins : '\n' ∉ stem := by
        intro feed
        apply plain n (List.mem_append_right _ List.mem_cons_self)
        rw [named]
        exact List.mem_append_left _ feed
      simp only [Path.withFileName, fileName?_toPath_child, Option.isSome_some, if_true,
        parent?_toPath_child, Option.getD_some]
      exact Path.notMem_join (by decide) directory begins
    · exact plain

end Location

namespace Path

variable {p q : Path}

/-- A path on one line denotes a location on one line. -/
theorem notMem_normalize (plain : '\n' ∉ p.text) : '\n' ∉ p.normalize.text := by
  rw [Location.notMem_text_iff (by decide)]
  intro n member feed
  rcases Location.mem_names_foldl_step _ _ member with none | inside
  · cases none
  · exact plain ((infix_of_mem_components inside).subset feed)

theorem notMem_locate (plain : '\n' ∉ p.text) (plain' : '\n' ∉ q.text) :
    '\n' ∉ (p.locate q).text := by
  unfold locate
  split
  · exact notMem_normalize plain'
  · exact notMem_normalize (notMem_join (by decide) plain plain')

end Path
end TypingBundle
