import TypingBundle.Proofs.Record.Parse

/-!
The lines of a file with their classes. A class depends on the lines before only through the class
of the last of them: behind lines of some classes a block comment is open, behind all others none.

Main statement: `Classified.map_scan`.
-/

namespace TypingBundle

namespace Line.Class

/-- Whether a block comment is open behind a line of the class. -/
def isOpen : Class → Bool
  | .blockStart closes => !closes
  | .blockBody => true
  | _ => false

/-- Whether a line of the class is the last one of a block comment. -/
def endsBlock : Class → Bool
  | .blockEnd => true
  | .blockStart closes => closes
  | _ => false

/-- Whether a line of the class belongs to a block comment. -/
def inComment : Class → Bool
  | .blockEnd => true
  | .blockStart _ => true
  | .blockBody => true
  | _ => false

theorem isOpen_of_inComment_eq_false {found : Class} (outside : found.inComment = false) :
    found.isOpen = false := by
  cases found with
  | blockStart closes => cases outside
  | blockBody => cases outside
  | _ => rfl

theorem endsBlock_of_inComment_eq_false {found : Class} (outside : found.inComment = false) :
    found.endsBlock = false := by
  cases found with
  | blockEnd => cases outside
  | blockStart closes => cases outside
  | _ => rfl

end Line.Class

namespace Line

variable {line : Text}

theorem inComment_classifyCode (line : Text) : (classifyCode line).inComment = false := by
  unfold classifyCode
  repeat' split
  all_goals rfl

/-- A line is inside a comment, ends or opens one, or is read for itself. -/
theorem classify_cases (line : Text) (inBlock : Bool) :
    classify line inBlock = .blockEnd ∨ (∃ closes, classify line inBlock = .blockStart closes) ∨
      (inBlock = true ∧ classify line inBlock = .blockBody) ∨
      (inBlock = false ∧ classify line inBlock = classifyCode line) := by
  unfold classify
  split
  · exact Or.inl rfl
  · cases blockStart? line with
    | some closes => exact Or.inr (Or.inl ⟨closes, rfl⟩)
    | none =>
      cases inBlock with
      | true => exact Or.inr (Or.inr (Or.inl ⟨rfl, rfl⟩))
      | false => exact Or.inr (Or.inr (Or.inr ⟨rfl, rfl⟩))

theorem inBlock_of_classify_eq_blockBody {inBlock : Bool}
    (body : classify line inBlock = .blockBody) : inBlock = true := by
  rcases classify_cases line inBlock with found | ⟨closes, found⟩ | ⟨inside, _⟩ | ⟨_, found⟩
  · rw [body] at found
    cases found
  · rw [body] at found
    cases found
  · exact inside
  · have outside := inComment_classifyCode line
    rw [← found, body] at outside
    cases outside

end Line

namespace CommentState

/-- A line that does not belong to a comment leaves the comments alone, but for the one that
waits. -/
theorem after_of_inComment_eq_false {found : Line.Class} (outside : found.inComment = false)
    (s : CommentState) (line : Text) :
    (s.after line found).inBlock = s.inBlock ∧ (s.after line found).block = s.block := by
  cases found with
  | blockEnd => cases outside
  | blockStart closes => cases outside
  | blockBody => cases outside
  | _ => exact ⟨rfl, rfl⟩

/-- Whether a comment is open behind a line is seen from its class alone. -/
theorem inBlock_after (s : CommentState) (line : Text) :
    (s.after line (Line.classify line s.inBlock)).inBlock =
      (Line.classify line s.inBlock).isOpen := by
  rcases Line.classify_cases line s.inBlock with found | ⟨closes, found⟩ | ⟨inside, found⟩ |
    ⟨off, found⟩
  · rw [found]
    rfl
  · rw [found]
    cases closes <;> rfl
  · rw [found]
    exact inside
  · have outside := Line.inComment_classifyCode line
    rw [found, (after_of_inComment_eq_false outside s line).1, off,
      Line.Class.isOpen_of_inComment_eq_false outside]

end CommentState

/-- Lines with their classes. -/
abbrev Classified := List (Text × Line.Class)

namespace Classified

/-- Lines, each with its class by the comment that is open before it. -/
def ofLines (inBlock : Bool) : List Text → Classified
  | [] => []
  | line :: rest =>
    (line, Line.classify line inBlock) :: ofLines (Line.classify line inBlock).isOpen rest

/-- The lines of a text with their classes. -/
def ofText (text : Text) : Classified := ofLines false (sourceLines text)

theorem map_scanLines (s : CommentState) (lines : List Text) :
    (scanLines s lines).map (fun scanned => (scanned.line, scanned.found)) =
      ofLines s.inBlock lines := by
  induction lines generalizing s with
  | nil => rfl
  | cons line lines ih =>
    rw [scanLines, ofLines, List.map_cons, ih, CommentState.inBlock_after]

/-- A file is scanned under these classes. -/
theorem map_scan (text : Text) :
    (scan text).map (fun scanned => (scanned.line, scanned.found)) = ofText text :=
  map_scanLines {} (sourceLines text)

theorem map_fst_ofLines (inBlock : Bool) (lines : List Text) :
    (ofLines inBlock lines).map Prod.fst = lines := by
  induction lines generalizing inBlock with
  | nil => rfl
  | cons line lines ih => rw [ofLines, List.map_cons, ih]

end Classified
end TypingBundle
