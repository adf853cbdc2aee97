import TypingBundle.Proofs.Path.Way

/-!
Laws of paths that are followed without looking at any file. A location is found by writing steps
behind each other and taking the last one off again for each step up. What is found for a directory
does not change where a path leads from it, and the path of a file as it is seen from a directory
leads from the directory to the file.

Main statements: `toPath_normalize` says how a location is written step by step, and `lexical_laws`
puts the laws of `normalize`, `join`, `locate` and `relative` together.
-/

namespace TypingBundle

/-! ### Locations written step by step -/

/-- A path after one more step: a step up takes the last step off, where there is one. -/
def Path.onward (p : Path) : Component → Path
  | .here => p
  | .up => p.parent?.getD p
  | step => p.join ⟨step.text⟩

namespace Location

/-- One step from a location is one step of its written form. -/
theorem toPath_step (l : Location) (step : Component) :
    (l.step step).toPath = l.toPath.onward step := by
  cases step with
  | root => rfl
  | here => rfl
  | up =>
    obtain ⟨rooted, names⟩ := l
    rcases List.eq_nil_or_concat names with rfl | ⟨before, n, rfl⟩
    · -- Neither the root nor the empty path has a parent.
      cases rooted <;> rfl
    · have dir := parent?_toPath_child ⟨rooted, before⟩ n
      simp only [child] at dir
      simp [step, Path.onward, dir]
  | name n => exact (join_toPath l n).symm

theorem toPath_foldl_step (steps : List Component) (l : Location) :
    (steps.foldl step l).toPath = steps.foldl Path.onward l.toPath := by
  induction steps generalizing l with
  | nil => rfl
  | cons step steps ih => rw [List.foldl_cons, List.foldl_cons, ih, toPath_step]

end Location

namespace Path

/-- The location of a path is written by writing the steps of the path one after another. -/
theorem toPath_normalize (p : Path) :
    p.normalize.toPath = p.components.foldl onward ⟨[]⟩ :=
  Location.toPath_foldl_step p.components .empty

/-! ### Continued paths -/

/-- A continued path leads where its second part leads from the first. -/
theorem normalize_join (a r : Path) : (a.join r).normalize = a.locate r := by
  unfold locate join
  split <;> rfl

/-- From where a path leads to, other paths lead to the same places as from the path itself. -/
theorem locate_normalize (a r : Path) : a.normalize.toPath.locate r = a.locate r := by
  by_cases absolute : r.isAbsolute = true
  · simp only [locate, if_pos absolute]
  · have relative : r.isAbsolute = false := by simpa using absolute
    rw [locate_of_relative _ relative, locate_of_relative _ relative, Location.normalize_toPath]

/-! ### The laws -/

/-- A location is found by writing the steps of a path behind each other, and taking the last one
off for each step up. A path may be put in its normal form before it is continued and changes no
more once it has it; the normal form has no `.` and no `..`, and begins at the root if the path does.
Between canonical paths, the path of one as it is seen from the other leads back to it. -/
theorem lexical_laws :
    (∀ a r : Path, (a.join r).normalize = (a.normalize.toPath.join r).normalize) ∧
      (∀ p : Path, p.normalize.toPath = p.components.foldl onward ⟨[]⟩ ∧
        p.normalize.toPath.normalize = p.normalize ∧
        .here ∉ p.normalize.toPath.components ∧ .up ∉ p.normalize.toPath.components ∧
        p.normalize.toPath.isAbsolute = p.isAbsolute) ∧
      (∀ base p : Path, base.IsCanonical → p.IsCanonical →
        (base.locate (base.relative p)).toPath.same p = true) := by
  refine ⟨?_, ?_, ?_⟩
  · intro a r
    rw [normalize_join, normalize_join, locate_normalize]
  · intro p
    have steps := Location.components_toPath p.normalize
    refine ⟨toPath_normalize p, Location.normalize_toPath _, ?_, ?_, ?_⟩
    · rw [steps]
      exact Location.here_notMem_components _
    · rw [steps]
      exact Location.up_notMem_components _
    · rw [Location.isAbsolute_toPath, rooted_normalize]
  · intro base p directory file
    have leads : base.locate (base.relative p) = p.normalize := by
      rw [relative_of_isCanonical base file]
      exact locate_relative directory file.rooted
    rw [leads, same, Location.components_toPath, file.components_eq]
    simp

/-- A directory, spelled with more slashes than it needs. -/
def spelledDirectory : Path := ofString "/a//b/"

/-- A file beside the directory, spelled with a `.` that leads nowhere. -/
def spelledFile : Path := ofString "/a/./c/d.d.ts"

theorem lexical_laws_spellings :
    spelledDirectory.IsCanonical ∧ spelledFile.IsCanonical ∧
      spelledDirectory.relative spelledFile = ofString "../c/d.d.ts" ∧
      (spelledDirectory.locate (ofString "../c/d.d.ts")).toPath.same spelledFile = true := by
  have directory : spelledDirectory.IsCanonical := ⟨by decide, by decide⟩
  have file : spelledFile.IsCanonical := ⟨by decide, by decide⟩
  have seen : spelledDirectory.relative spelledFile = ofString "../c/d.d.ts" := by decide
  have back := lexical_laws.2.2 spelledDirectory spelledFile directory file
  rw [seen] at back
  exact ⟨directory, file, seen, back⟩

end Path
end TypingBundle
