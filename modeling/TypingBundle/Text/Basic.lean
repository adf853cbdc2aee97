/-!
Text is a list of characters. This module holds the operations on it that every other part of the
library uses: taking a known beginning or end off, splitting into lines, replacing, trimming blank
space, and the order of texts.

Main statements: `dropStart?` takes off exactly the given beginning, `split` is undone by `join`,
and `before` is a strict total order.
-/

namespace TypingBundle

/-- Text, one character at a time. -/
abbrev Text := List Char

namespace Text

/-- Blank space: the 25 characters with the Unicode property `White_Space`. -/
def isBlank (c : Char) : Bool :=
  let n := c.toNat
  (9 ≤ n && n ≤ 13) || n == 32 || n == 0x85 || n == 0xA0 || n == 0x1680 ||
    (0x2000 ≤ n && n ≤ 0x200A) || n == 0x2028 || n == 0x2029 || n == 0x202F || n == 0x205F ||
    n == 0x3000

/-- The text after a given beginning, if it begins so. -/
def dropStart? : (start text : Text) → Option Text
  | [], text => some text
  | _ :: _, [] => none
  | s :: start, c :: text => if s = c then dropStart? start text else none

/-- The text before a given end, if it ends so. -/
def dropEnd? (ending text : Text) : Option Text :=
  (dropStart? ending.reverse text.reverse).map List.reverse

/-- Whether the text begins so. -/
def startsWith (start text : Text) : Bool := (dropStart? start text).isSome

/-- Whether the text ends so. -/
def endsWith (ending text : Text) : Bool := (dropEnd? ending text).isSome

/-- Whether the part occurs anywhere in the text. -/
def contains (part : Text) : Text → Bool
  | [] => startsWith part []
  | c :: text => startsWith part (c :: text) || contains part text

/-- The text without the blank space at its end. -/
def trimEnd (text : Text) : Text := (text.reverse.dropWhile isBlank).reverse

/-- The text without the blank space at its beginning and its end. -/
def trim (text : Text) : Text := trimEnd (text.dropWhile isBlank)

/-- The pieces between the occurrences of a character; a text without one is a single piece. -/
def split (mark : Char) : Text → List Text
  | [] => [[]]
  | c :: text =>
    if c = mark then [] :: split mark text
    else match split mark text with
      | [] => [[c]]
      | piece :: rest => (c :: piece) :: rest

/-- The pieces between line feeds. -/
def lines (text : Text) : List Text := split '\n' text

/-- Pieces put together with a separator between each two. -/
def join (separator : Text) : List Text → Text
  | [] => []
  | [piece] => piece
  | piece :: next :: rest => piece ++ separator ++ join separator (next :: rest)

/-- Every occurrence of one character replaced by a text. -/
def replaceChar (c : Char) (replacement text : Text) : Text :=
  text.flatMap fun d => if d = c then replacement else [d]

/-- Every pair of equal characters `c`, found from left to right and not overlapping, replaced. -/
def replacePair (c : Char) (replacement : Text) : Text → Text
  | [] => []
  | [d] => [d]
  | d :: e :: text =>
    if d = c ∧ e = c then replacement ++ replacePair c replacement text
    else d :: replacePair c replacement (e :: text)

/-- A text repeated. -/
def times (unit : Text) : Nat → Text
  | 0 => []
  | n + 1 => unit ++ times unit n

/-- The text without one leading byte-order mark. -/
def dropByteOrderMark : Text → Text
  | [] => []
  | c :: text => if c.toNat = 0xFEFF then text else c :: text

/-- The line without one carriage return at its end. -/
def dropReturn (line : Text) : Text := (dropEnd? ['\r'] line).getD line

/-- ASCII capitals made small; every other character stays. -/
def lowerAscii (text : Text) : Text := text.map Char.toLower

/-- The decimal digits of a number. -/
def ofNat (n : Nat) : Text := Nat.toDigits 10 n

/-- Strict order of texts by code point, a proper beginning coming first. It is also the order of
their UTF-8 bytes. -/
def before : Text → Text → Bool
  | _, [] => false
  | [], _ :: _ => true
  | c :: text, d :: other => c.toNat < d.toNat || (c = d && before text other)

@[simp]
theorem dropStart?_append (start rest : Text) : dropStart? start (start ++ rest) = some rest := by
  induction start with
  | nil => rfl
  | cons c start ih => simp [dropStart?, ih]

theorem dropStart?_eq_some_iff {start text rest : Text} :
    dropStart? start text = some rest ↔ text = start ++ rest := by
  constructor
  · intro found
    fun_induction dropStart? start text with
    | case1 text => simpa using found
    | case2 => simp at found
    | case3 start c text ih => simp [ih found]
    | case4 => simp at found
  · rintro rfl
    exact dropStart?_append start rest

theorem split_ne_nil (mark : Char) (text : Text) : split mark text ≠ [] := by
  fun_induction split mark text <;> simp

theorem join_cons (separator piece : Text) {pieces : List Text} (nonempty : pieces ≠ []) :
    join separator (piece :: pieces) = piece ++ separator ++ join separator pieces := by
  cases pieces with
  | nil => contradiction
  | cons next rest => rfl

/-- Joining the pieces of a text with the mark gives the text back. -/
theorem join_split (mark : Char) (text : Text) : join [mark] (split mark text) = text := by
  fun_induction split mark text with
  | case1 => rfl
  | case2 text ih => simp [join_cons _ _ (split_ne_nil mark text), ih]
  | case3 c text _ none _ => exact absurd none (split_ne_nil mark text)
  | case4 c text _ piece rest found ih =>
    rw [found] at ih
    cases rest with
    | nil => simpa [join] using ih
    | cons next rest => simpa [join] using ih

/-- No piece contains the mark. -/
theorem mark_notMem_split (mark : Char) (text : Text) : ∀ piece ∈ split mark text, mark ∉ piece := by
  fun_induction split mark text with
  | case1 => simp
  | case2 text ih => simpa using ih
  | case3 c text _ none _ => exact absurd none (split_ne_nil mark text)
  | case4 c text other piece rest found ih =>
    rw [found] at ih
    intro p member
    rcases List.mem_cons.1 member with rfl | member
    · have := ih piece (by simp)
      simp [this, Ne.symm other]
    · exact ih p (by simp [member])

/-- A text without the mark in front of a mark is the first piece. -/
theorem split_append_mark {mark : Char} {piece : Text} (free : mark ∉ piece) (rest : Text) :
    split mark (piece ++ mark :: rest) = piece :: split mark rest := by
  induction piece with
  | nil => simp [split]
  | cons c piece ih =>
    simp only [List.mem_cons, not_or] at free
    have split := ih free.2
    simp only [List.cons_append, Text.split, split, if_neg (Ne.symm free.1)]

theorem split_of_notMem {mark : Char} {text : Text} (free : mark ∉ text) :
    split mark text = [text] := by
  induction text with
  | nil => rfl
  | cons c text ih =>
    simp only [List.mem_cons, not_or] at free
    simp only [split, ih free.2, if_neg (Ne.symm free.1)]

/-- Pieces without the mark are found again in their join. -/
theorem split_join {mark : Char} {pieces : List Text} (nonempty : pieces ≠ [])
    (free : ∀ piece ∈ pieces, mark ∉ piece) : split mark (join [mark] pieces) = pieces := by
  induction pieces with
  | nil => contradiction
  | cons piece pieces ih =>
    cases pieces with
    | nil => exact split_of_notMem (free piece (by simp))
    | cons next rest =>
      have later := ih (by simp) (fun p member => free p (List.mem_cons_of_mem _ member))
      rw [join_cons _ _ (by simp), List.append_assoc, List.singleton_append,
        split_append_mark (free piece (by simp)), later]

@[simp]
theorem before_irrefl (text : Text) : before text text = false := by
  induction text with
  | nil => rfl
  | cons c text ih => simp [before, ih]

theorem before_trans {a b c : Text} (left : before a b = true) (right : before b c = true) :
    before a c = true := by
  induction a generalizing b c with
  | nil => cases b <;> cases c <;> simp_all [before]
  | cons x a ih =>
    cases b with
    | nil => simp [before] at left
    | cons y b =>
      cases c with
      | nil => simp [before] at right
      | cons z c =>
        simp only [before, Bool.or_eq_true, Bool.and_eq_true, decide_eq_true_eq] at left right ⊢
        rcases left with left | ⟨rfl, left⟩
        · rcases right with right | ⟨rfl, _⟩
          · exact Or.inl (Nat.lt_trans left right)
          · exact Or.inl left
        · rcases right with right | ⟨rfl, right⟩
          · exact Or.inl right
          · exact Or.inr ⟨rfl, ih left right⟩

/-- Of two different texts one is before the other. -/
theorem eq_of_not_before {a b : Text} (left : before a b = false) (right : before b a = false) :
    a = b := by
  induction a generalizing b with
  | nil => cases b <;> simp_all [before]
  | cons x a ih =>
    cases b with
    | nil => simp [before] at right
    | cons y b =>
      simp only [before, Bool.or_eq_false_iff, Bool.and_eq_false_iff, decide_eq_false_iff_not,
        Nat.not_lt] at left right
      have same : x = y := by
        have : x.toNat = y.toNat := Nat.le_antisymm right.1 left.1
        exact Char.toNat_inj.1 this
      subst same
      simp only [not_true_eq_false, false_or] at left right
      rw [ih left.2 right.2]

end Text
end TypingBundle
