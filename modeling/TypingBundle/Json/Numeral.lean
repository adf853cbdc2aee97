import TypingBundle.Text.Basic

/-!
Numbers as JSON writes them. A number is kept as it is written; what is decided about its size is
only whether it can be held at double precision.

Main statement: reading a number takes at least one character off.
-/

namespace TypingBundle.Json

/-- A number as it is written. -/
structure Numeral where
  negative : Bool
  /-- The digits before the point. -/
  whole : Text
  /-- The digits after the point. -/
  fraction : Text
  /-- The power of ten that follows. -/
  exponent : Int
deriving DecidableEq

namespace Numeral

/-- The value of a digit. -/
def digitValue (c : Char) : Nat := c.toNat - 48

/-- The number that digits stand for. -/
def natOf (digits : Text) : Nat := digits.foldl (fun n c => 10 * n + digitValue c) 0

/-! ### Reading -/

/-- The digits at the beginning, of which there must be one, and what follows. -/
def digits? (text : Text) : Option (Text × Text) :=
  match text.takeWhile Char.isDigit with
  | [] => none
  | digits => some (digits, text.dropWhile Char.isDigit)

/-- The digits before the point. A zero is not followed by further digits. -/
def whole? (text : Text) : Option (Text × Text) :=
  match digits? text with
  | some ('0' :: _ :: _, _) => none
  | found => found

/-- The digits after a point, if there is one. -/
def fraction? : Text → Option (Text × Text)
  | '.' :: text => digits? text
  | text => some ([], text)

/-- The sign of a power of ten: whether it is negative, and what follows. -/
def exponentSign : Text → Bool × Text
  | '-' :: text => (true, text)
  | '+' :: text => (false, text)
  | text => (false, text)

/-- The power of ten after `e` or `E`, if there is one. -/
def exponent? : Text → Option (Int × Text)
  | [] => some (0, [])
  | c :: text =>
    if c = 'e' ∨ c = 'E' then
      (digits? (exponentSign text).2).map fun (digits, rest) =>
        (if (exponentSign text).1 then -(natOf digits : Int) else natOf digits, rest)
    else some (0, c :: text)

/-- The number without its sign. -/
def unsigned? (negative : Bool) (text : Text) : Option (Numeral × Text) := do
  let (whole, text) ← whole? text
  let (fraction, text) ← fraction? text
  let (exponent, text) ← exponent? text
  return (⟨negative, whole, fraction, exponent⟩, text)

/-- The number at the beginning of a text, and what follows. -/
def read? : Text → Option (Numeral × Text)
  | '-' :: text => unsigned? true text
  | text => unsigned? false text

/-! ### Size -/

/-- A number to 53 binary digits; a tie goes to the even neighbour. -/
def rounded (n : Nat) : Nat :=
  if n < Nat.pow 2 53 then n
  else
    let unit := Nat.pow 2 (Nat.log2 n - 52)
    let low := n / unit
    let twice := 2 * (n % unit)
    if twice < unit ∨ (twice = unit ∧ low % 2 = 0) then low * unit else (low + 1) * unit

/-- The leading digits of a whole number, as far as 64 binary digits hold them, and how many digits
are left out. -/
def leading (digits : Text) : Nat × Nat :=
  digits.foldl (fun (n, dropped) c =>
    if dropped = 0 ∧ 10 * n + digitValue c < Nat.pow 2 64 then (10 * n + digitValue c, 0)
    else (n, dropped + 1)) (0, 0)

/-- The leading digits continued with those after the point, and how many of these are taken. -/
def continued (n : Nat) : Text → Nat × Nat
  | [] => (n, 0)
  | c :: digits =>
    if 10 * n + digitValue c < Nat.pow 2 64 then
      let (m, taken) := continued (10 * n + digitValue c) digits
      (m, taken + 1)
    else (n, 0)

/-- The smallest number that does not round to a finite double. -/
def limit : Nat := Nat.pow 2 1024 - Nat.pow 2 970

/-- Whether a number is small enough for double precision: the product of its leading digits and a
power of ten, both rounded first, stays below the limit. -/
def isFinite (n : Numeral) : Bool :=
  let (leadingDigits, dropped) := leading n.whole
  let (significand, taken) := continued leadingDigits n.fraction
  let exponent := (dropped : Int) - taken + n.exponent
  significand = 0 || exponent < 0 ||
    (exponent ≤ 308 && rounded significand * rounded (Nat.pow 10 exponent.toNat) < limit)

/-! ### Lengths -/

theorem digits?_length {text digits rest : Text} (found : digits? text = some (digits, rest)) :
    rest.length < text.length := by
  have total : (text.takeWhile Char.isDigit).length + (text.dropWhile Char.isDigit).length =
      text.length := by
    rw [← List.length_append, List.takeWhile_append_dropWhile]
  unfold digits? at found
  split at found
  · simp at found
  · rename_i nonempty
    simp only [Option.some.injEq, Prod.mk.injEq] at found
    rw [← found.2]
    have : 0 < (text.takeWhile Char.isDigit).length :=
      List.length_pos_iff.2 fun none => nonempty none
    omega

theorem whole?_length {text digits rest : Text} (found : whole? text = some (digits, rest)) :
    rest.length < text.length := by
  unfold whole? at found
  split at found
  · simp at found
  · exact digits?_length found

theorem fraction?_length {text digits rest : Text} (found : fraction? text = some (digits, rest)) :
    rest.length ≤ text.length := by
  unfold fraction? at found
  split at found
  · have := digits?_length found
    simp only [List.length_cons]
    omega
  · simp_all

theorem exponentSign_length (text : Text) : (exponentSign text).2.length ≤ text.length := by
  unfold exponentSign
  split <;> simp

theorem exponent?_length {text rest : Text} {n : Int} (found : exponent? text = some (n, rest)) :
    rest.length ≤ text.length := by
  unfold exponent? at found
  split at found
  · simp_all
  · rename_i c text
    split at found
    · obtain ⟨⟨digits, after⟩, read, result⟩ := Option.map_eq_some_iff.1 found
      have shorter := digits?_length read
      have sign := exponentSign_length text
      simp only [Prod.mk.injEq] at result
      rw [← result.2]
      simp only [List.length_cons]
      omega
    · simp_all

theorem unsigned?_length {negative : Bool} {text rest : Text} {n : Numeral}
    (found : unsigned? negative text = some (n, rest)) : rest.length < text.length := by
  simp only [unsigned?, bind, Option.bind_eq_some_iff, pure, Option.some.injEq, Prod.mk.injEq,
    Prod.exists] at found
  obtain ⟨_, _, whole, _, _, fraction, _, _, exponent, _, rfl⟩ := found
  have := whole?_length whole
  have := fraction?_length fraction
  have := exponent?_length exponent
  omega

theorem read?_length {text rest : Text} {n : Numeral} (found : read? text = some (n, rest)) :
    rest.length < text.length := by
  unfold read? at found
  split at found
  · have := unsigned?_length found
    simp only [List.length_cons]
    omega
  · exact unsigned?_length found

end Numeral
end TypingBundle.Json
