import TypingBundle.Text.Basic

/-!
Sets of code points. A set is kept as the places where membership changes, in increasing order:
from the first place on code points belong to it, from the second on they do not, and so on. Every
set has one such list, so equal sets are equal values, and the complement only touches the head.

Main statement: a code point belongs to the complement if and only if it does not belong to the set.
-/

namespace TypingBundle.Text

/-- A set of code points, by the places where membership changes, in increasing order. -/
structure CharSet where
  switches : List Nat
deriving DecidableEq

namespace CharSet

/-- Code points are below this bound. -/
def codePointBound : Nat := 0x110000

/-- Whether `n` is inside, given whether one is inside before the first of the places. -/
def insideAt (inside : Bool) (n : Nat) : List Nat → Bool
  | [] => inside
  | place :: places => if n < place then inside else insideAt (!inside) n places

/-- Whether a code point belongs to the set. -/
def contains (s : CharSet) (n : Nat) : Bool := insideAt false n s.switches

/-- Whether a character belongs to the set. -/
def has (s : CharSet) (c : Char) : Bool := s.contains c.toNat

/-- No code point. -/
def empty : CharSet := ⟨[]⟩

/-- Every code point. -/
def full : CharSet := ⟨[0]⟩

/-- The code points between two, both included. -/
def range (low high : Nat) : CharSet :=
  if high < low then empty
  else if high + 1 < codePointBound then ⟨[low, high + 1]⟩
  else ⟨[low]⟩

/-- One character. -/
def single (c : Char) : CharSet := range c.toNat c.toNat

/-- The places where an operation on two memberships changes its value; `a` and `b` are the
memberships before the first places. -/
def combinePlaces (op : Bool → Bool → Bool) (a b : Bool) : List Nat → List Nat → List Nat
  | [], [] => []
  | x :: xs, [] =>
    let rest := combinePlaces op (!a) b xs []
    if op (!a) b = op a b then rest else x :: rest
  | [], y :: ys =>
    let rest := combinePlaces op a (!b) [] ys
    if op a (!b) = op a b then rest else y :: rest
  | x :: xs, y :: ys =>
    if x < y then
      let rest := combinePlaces op (!a) b xs (y :: ys)
      if op (!a) b = op a b then rest else x :: rest
    else if y < x then
      let rest := combinePlaces op a (!b) (x :: xs) ys
      if op a (!b) = op a b then rest else y :: rest
    else
      let rest := combinePlaces op (!a) (!b) xs ys
      if op (!a) (!b) = op a b then rest else x :: rest
termination_by xs ys => xs.length + ys.length

/-- The code points that belong to either set. -/
def union (s t : CharSet) : CharSet := ⟨combinePlaces (· || ·) false false s.switches t.switches⟩

/-- The code points that belong to both sets. -/
def intersection (s t : CharSet) : CharSet :=
  ⟨combinePlaces (· && ·) false false s.switches t.switches⟩

/-- The code points that belong to the first set only. -/
def difference (s t : CharSet) : CharSet :=
  ⟨combinePlaces (fun a b => a && !b) false false s.switches t.switches⟩

/-- The code points that belong to exactly one of the sets. -/
def symmetricDifference (s t : CharSet) : CharSet :=
  ⟨combinePlaces (· != ·) false false s.switches t.switches⟩

/-- The code points that do not belong to the set. -/
def complement (s : CharSet) : CharSet :=
  match s.switches with
  | 0 :: places => ⟨places⟩
  | places => ⟨0 :: places⟩

/-- The complement, if asked for. -/
def negatedIf (negated : Bool) (s : CharSet) : CharSet := if negated then s.complement else s

/-- The union of some sets. -/
def unions (sets : List CharSet) : CharSet := sets.foldl union empty

/-- The union of some ranges, each with its ends. -/
def ofRanges (ranges : List (Nat × Nat)) : CharSet :=
  unions (ranges.map fun (low, high) => range low high)

/-- Some code points. -/
def ofPoints (points : List Nat) : CharSet := ofRanges (points.map fun n => (n, n))

/-- The places of code points in increasing order. -/
def placesOf : List Nat → List Nat
  | [] => []
  | n :: points =>
    match placesOf points with
    | place :: places => if place = n + 1 then n :: places else n :: (n + 1) :: place :: places
    | [] => [n, n + 1]

/-- The places of a table that tells by turns how many code points do not and do belong to a set,
each number followed by a space; `length` is the number read so far and `place` where its run
begins. -/
def placesOfRuns : (length place : Nat) → Text → List Nat
  | _, _, [] => []
  | length, place, c :: text =>
    if c.isDigit then placesOfRuns (length * 10 + (c.toNat - 48)) place text
    else (place + length) :: placesOfRuns 0 (place + length) text

/-- The set of a table of runs. -/
def ofRuns (runs : List String) : CharSet := ⟨placesOfRuns 0 0 (runs.flatMap String.toList)⟩

/-- The ranges between switches, with both ends. -/
def rangesBetween : List Nat → List (Nat × Nat)
  | [] => []
  | [low] => [(low, codePointBound - 1)]
  | low :: next :: places => (low, next - 1) :: rangesBetween places

/-- The ranges that the set consists of, in increasing order, with both ends. -/
def ranges (s : CharSet) : List (Nat × Nat) := rangesBetween s.switches

/-- Whether no code point belongs to the set. -/
def isEmpty (s : CharSet) : Bool := s.switches.isEmpty

/-- The 128 characters of ASCII. -/
def ascii : CharSet := range 0 127

/-- Whether the set holds ASCII only. -/
def isAscii (s : CharSet) : Bool := (s.difference ascii).isEmpty

/-- Starting from the opposite side, one ends on the opposite side. -/
theorem insideAt_not (inside : Bool) (n : Nat) (places : List Nat) :
    insideAt (!inside) n places = !insideAt inside n places := by
  induction places generalizing inside with
  | nil => rfl
  | cons place places ih =>
    simp only [insideAt]
    split
    · rfl
    · exact ih (!inside)

/-- A code point belongs to the complement if and only if it does not belong to the set. -/
theorem contains_complement (s : CharSet) (n : Nat) : s.complement.contains n = !s.contains n := by
  obtain ⟨places⟩ := s
  have start : ∀ rest, insideAt false n (0 :: rest) = insideAt true n rest := by
    intro rest
    simp [insideAt]
  simp only [complement, contains]
  split
  · next rest => rw [start, ← insideAt_not]; rfl
  · rw [start, ← insideAt_not]; rfl

end CharSet
end TypingBundle.Text
