import TypingBundle.Text.CategoryRuns
import TypingBundle.Text.CharSet

/-!
The general category of characters, and the characters of words.
-/

namespace TypingBundle.Text

/-- The Unicode general categories, by their two-letter names. -/
inductive Category where
  | lu | ll | lt | lm | lo | mn | mc | me | nd | nl | no | pc | pd | ps | pe | pi | pf | po
  | sm | sc | sk | so | zs | zl | zp | cc | cf | cs | co | cn
deriving DecidableEq, Inhabited

namespace Category

/-- The categories in the order of the letters of the run table. -/
def all : List Category :=
  [lu, ll, lt, lm, lo, mn, mc, me, nd, nl, no, pc, pd, ps, pe, pi, pf, po,
   sm, sc, sk, so, zs, zl, zp, cc, cf, cs, co, cn]

/-- The category that a letter of the run table stands for. -/
def ofLetter (c : Char) : Category :=
  let place := if c.isUpper then c.toNat - 65 else c.toNat - 97 + 26
  all.getD place cn

def isLetter (k : Category) : Bool := k ∈ [lu, ll, lt, lm, lo]
def isMark (k : Category) : Bool := k ∈ [mn, mc, me]

end Category

/-- Reads runs: `length` is the number read so far, and `first` where the next run begins. -/
def readRuns : (length first : Nat) → Text → List (Nat × Category)
  | _, _, [] => []
  | length, first, c :: text =>
    if c.isDigit then readRuns (length * 10 + (c.toNat - 48)) first text
    else (first, Category.ofLetter c) :: readRuns 0 (first + max length 1) text

/-- The first code point and the category of each run. -/
def categoryStarts : Array (Nat × Category) :=
  (readRuns 0 0 (categoryRuns.flatMap String.toList)).toArray

/-- The entry of a sorted table with the greatest start up to `n`, between two places. -/
def findRun {α : Type} (other : α) (table : Array (Nat × α)) (n low high : Nat) : α :=
  if low + 1 < high then
    let middle := (low + high) / 2
    if (table.getD middle (0, other)).1 ≤ n then findRun other table n middle high
    else findRun other table n low middle
  else (table.getD low (0, other)).2
termination_by high - low

/-- The general category of a character. -/
def category (c : Char) : Category :=
  findRun .cn categoryStarts c.toNat 0 categoryStarts.size

/-- Characters of words: letters, marks, decimal digits, letter-like numbers and symbols, connecting
punctuation and the two joining controls. -/
def isWord (c : Char) : Bool :=
  let n := c.toNat
  if n < 128 then c.isAlphanum || c = '_'
  else
    let k := category c
    k.isLetter || k.isMark || k = .nd || k = .nl || k = .pc || n == 0x200C || n == 0x200D ||
      (0x24B6 ≤ n && n ≤ 0x24E9) || (0x1F130 ≤ n && n ≤ 0x1F149) ||
      (0x1F150 ≤ n && n ≤ 0x1F169) || (0x1F170 ≤ n && n ≤ 0x1F189)

/-- The places of a table of runs where membership in some categories changes; `inside` tells
whether the run before belongs to them. -/
def categoryPlaces (categories : List Category) (inside : Bool) : List (Nat × Category) → List Nat
  | [] => []
  | (start, k) :: runs =>
    let found := decide (k ∈ categories)
    if found = inside then categoryPlaces categories inside runs
    else start :: categoryPlaces categories found runs

/-- The code points of some general categories. -/
def CharSet.ofCategories (categories : List Category) : CharSet :=
  ⟨categoryPlaces categories false categoryStarts.toList⟩

end TypingBundle.Text
