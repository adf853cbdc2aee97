import TypingBundle.Line.Class

/-!
Indentation units: finding the unit a text is indented with, and exchanging it for another.
-/

namespace TypingBundle.Indent

/-- The lines of a text that are not blank. -/
def shownLines (text : Text) : List Text :=
  (Text.lines text).filter fun line => !Line.isBlankLine line

/-- The number of spaces a line begins with. -/
def width (line : Text) : Nat := (line.takeWhile (· = ' ')).length

/-- Whether a line begins with a tab. -/
def isTabbed (line : Text) : Bool := line.head? = some '\t'

/-- The increases along a list of widths, the first width being compared with `previous`. -/
def increases (previous : Nat) : List Nat → List Nat
  | [] => []
  | w :: widths =>
    if previous < w then (w - previous) :: increases w widths else increases w widths

/-- The steps by which a text is indented further from one line to the next; tabbed lines are left
out. -/
def steps (text : Text) : List Nat :=
  increases 0 (((shownLines text).filter fun line => !isTabbed line).map width)

/-- How often each step occurs. -/
def tally (steps : List Nat) : List (Nat × Nat) := steps.eraseDups.map fun w => (w, steps.count w)

/-- Whether an entry of a tally is a better choice than another: it occurs more often, or as often
and is the smaller step. -/
def isBetter (a b : Nat × Nat) : Bool := b.2 < a.2 || (a.2 == b.2 && a.1 < b.1)

/-- The better one of two entries. -/
def better (a b : Nat × Nat) : Nat × Nat := if isBetter a b then a else b

/-- The best entry of a tally. -/
def best? : List (Nat × Nat) → Option (Nat × Nat)
  | [] => none
  | entry :: rest => some (rest.foldl better entry)

/-- The most frequent step of at least `least` spaces, the smallest one of several. -/
def frequent? (least : Nat) (tally : List (Nat × Nat)) : Option Nat :=
  (best? (tally.filter (least ≤ ·.1))).map Prod.fst

/-- The most frequent step. Steps of one space count only where there is no wider one, because they
are those of documentation comments. -/
def step? (tally : List (Nat × Nat)) : Option Nat := (frequent? 2 tally).or (frequent? 1 tally)

/-- The unit a text is indented with, its steps being counted: a tab if most indented lines begin
with one, else as many spaces as the most frequent step. -/
def detectFrom? (tally : List (Nat × Nat)) (text : Text) : Option Text :=
  let tabbed := (shownLines text).countP isTabbed
  let spaced := (shownLines text).countP fun line => line.head? = some ' '
  if tabbed = 0 ∧ spaced = 0 then none
  else if spaced < tabbed then some ['\t']
  else (step? tally).map (List.replicate · ' ')

/-- The unit a text is indented with. -/
def detect? (text : Text) : Option Text := detectFrom? (tally (steps text)) text

/-- How often a line begins with a unit, and what follows. An empty unit occurs never. -/
def leadingUnits (unit line : Text) : Nat × Text :=
  match unit, line with
  | [], line => (0, line)
  | u :: unit, line =>
    match found : Text.dropStart? (u :: unit) line with
    | some rest =>
      have shorter : rest.length < line.length := by
        rw [Text.dropStart?_eq_some_iff.1 found, List.length_append, List.length_cons]
        omega
      let (count, rest) := leadingUnits (u :: unit) rest
      (count + 1, rest)
    | none => (0, line)
termination_by line.length

/-- The line with each unit of indentation at its beginning exchanged for another. -/
def exchange (unit replacement line : Text) : Text :=
  let (count, rest) := leadingUnits unit line
  Text.times replacement count ++ rest

end TypingBundle.Indent
