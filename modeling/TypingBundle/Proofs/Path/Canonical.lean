import TypingBundle.Proofs.Path.Position

/-!
Canonical paths: those from the root that are read as they are written. A location that begins at
the root is written as one, and where an operation on paths begins at the root is told from what it
is given.

Main statement: `isCanonical_iff` says which steps a canonical path has.
-/

namespace TypingBundle

/-! ### Paths from the root -/

namespace Path

theorem ofPiece?_ne_root (piece : Text) : Component.ofPiece? piece ≠ some .root := by
  unfold Component.ofPiece?
  split
  · simp
  · split <;> simp

/-- Only a path that begins with a slash has the root among its steps. -/
theorem root_mem_components {p : Path} : .root ∈ p.components ↔ p.isAbsolute = true := by
  obtain ⟨text⟩ := p
  unfold components isAbsolute
  dsimp only
  split
  · simp
  · rename_i relative
    have other : text.head? ≠ some '/' := by
      intro slash
      obtain ⟨rest, written⟩ := List.head?_eq_some_iff.1 slash
      exact relative rest written
    split <;> simp [other, ofPiece?_ne_root]

theorem rooted_foldl_step (steps : List Component) (l : Location) :
    (steps.foldl Location.step l).rooted = true ↔ l.rooted = true ∨ .root ∈ steps := by
  induction steps generalizing l with
  | nil => simp
  | cons step steps ih =>
    rw [List.foldl_cons, ih]
    cases step <;> simp [Location.step]

/-- A path denotes a location from the root if it begins there. -/
@[simp]
theorem rooted_normalize (p : Path) : p.normalize.rooted = p.isAbsolute := by
  rw [Bool.eq_iff_iff, normalize, rooted_foldl_step, root_mem_components]
  simp [Location.empty]

theorem isAbsolute_join (p q : Path) : (p.join q).isAbsolute = (p.isAbsolute || q.isAbsolute) := by
  unfold join
  split
  · rename_i absolute
    simp [absolute]
  · rename_i relative
    obtain ⟨text⟩ := p
    cases text with
    | nil => simp [isAbsolute]
    | cons c text => split <;> simp_all [isAbsolute]

theorem rooted_locate (base p : Path) :
    (base.locate p).rooted = (base.isAbsolute || p.isAbsolute) := by
  unfold locate
  split
  · rename_i absolute
    simp [absolute]
  · rw [rooted_normalize, isAbsolute_join]

end Path

namespace Location

variable {l : Location}

@[simp]
theorem isAbsolute_toPath (l : Location) : l.toPath.isAbsolute = l.rooted := by
  rw [← Path.rooted_normalize, normalize_toPath]

theorem rooted_addDeclarationEnding (l : Location) : l.addDeclarationEnding.rooted = l.rooted := by
  unfold addDeclarationEnding
  split <;> rfl

theorem rooted_of_parent? {dir : Location} (inside : l.parent? = some dir) :
    dir.rooted = l.rooted := by
  unfold parent? at inside
  split at inside
  · cases inside
  · cases inside
    rfl

end Location

/-! ### Canonical paths -/

/-- A path from the root that denotes itself. -/
structure Path.IsCanonical (p : Path) : Prop where
  isAbsolute : p.isAbsolute = true
  normalized : p.same p.normalize = true

/-- A canonical path denotes a location from the root. -/
theorem Path.IsCanonical.rooted {p : Path} (canonical : p.IsCanonical) :
    p.normalize.rooted = true := by
  rw [rooted_normalize, canonical.isAbsolute]

/-- A canonical path has the steps of the location that it denotes. -/
theorem Path.IsCanonical.components_eq {p : Path} (canonical : p.IsCanonical) :
    p.components = p.normalize.components := by
  simpa [Path.same] using canonical.normalized

/-- A canonical path goes from the root down names, and never up. -/
theorem Path.isCanonical_iff {p : Path} :
    p.IsCanonical ↔ ∃ names : List Name, p.components = .root :: names.map .name := by
  constructor
  · intro canonical
    refine ⟨p.normalize.names, ?_⟩
    rw [canonical.components_eq, Location.components, canonical.rooted]
    rfl
  · rintro ⟨names, steps⟩
    have absolute : p.isAbsolute = true := root_mem_components.1 (by simp [steps])
    refine ⟨absolute, ?_⟩
    have denotes : p.normalize = ⟨true, names⟩ := by
      rw [normalize, steps, List.foldl_cons, Location.foldl_step_names]
      rfl
    simp [same, denotes, steps, Location.components]

theorem Location.isCanonical_toPath {l : Location} (rooted : l.rooted = true) :
    l.toPath.IsCanonical :=
  Path.isCanonical_iff.2 ⟨l.names, by simp [components, rooted]⟩

end TypingBundle
