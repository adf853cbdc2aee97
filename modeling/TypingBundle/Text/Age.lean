import TypingBundle.Text.CharSet
import TypingBundle.Text.AgeRuns

/-!
The age of characters: the edition of the standard that assigned them.
-/

namespace TypingBundle.Text

/-- The place of an edition in the list of editions that a letter of the run table stands for; the
letter of unassigned code points stands for a place beyond the list. -/
def ageOfLetter (c : Char) : Nat := if c.isUpper then c.toNat - 65 else c.toNat - 97 + 26

/-- The places where being assigned by an edition up to `last` changes: `length` is the number read
so far, `first` where its run begins, and `inside` tells whether the run before was assigned. -/
def agePlaces (last : Nat) (inside : Bool) : (length first : Nat) → Text → List Nat
  | _, _, [] => []
  | length, first, c :: text =>
    if c.isDigit then agePlaces last inside (length * 10 + (c.toNat - 48)) first text
    else
      let found := decide (ageOfLetter c ≤ last)
      let rest := agePlaces last found 0 (first + max length 1) text
      if found = inside then rest else first :: rest

/-- The code points that editions up to one had assigned. An edition goes by its number, as in
`6.1`, or by `v` and its digits, as in `v61`. -/
def CharSet.assignedBy? (key : String) : Option CharSet :=
  let index := editions.findIdx? fun edition =>
    edition = key || 'v' :: edition.toList.filter (· ≠ '.') = key.toList
  index.map fun last => ⟨agePlaces last false 0 0 (ageRuns.flatMap String.toList)⟩

end TypingBundle.Text
