import Mathlib.Data.List.Chain
import TypingBundle.Json.Token

/-!
JSON texts as they are written. A word is a mark, a name, a number or a string with the characters
that it is written with, and a text is laid out from words with gaps between them.

Main statement: a text that is laid out with blank gaps reads as the tokens of its words, if every
two names, numbers or strings have a mark between them.
-/

namespace TypingBundle.Json

variable {c : Char} {text rest body : Text}

/-! ### Numbers -/

/-- Digits, at least one. -/
def IsDigits (text : Text) : Prop := text ≠ [] ∧ ∀ c ∈ text, c.isDigit

/-- The digits before a point. A zero at their beginning stands alone. -/
def IsWhole (text : Text) : Prop := IsDigits text ∧ (text.head? = some '0' → text = ['0'])

/-- A point and digits, or nothing. -/
inductive IsFraction : Text → Prop where
  | absent : IsFraction []
  | digits {text : Text} : IsDigits text → IsFraction ('.' :: text)

/-- A power of ten, or nothing. -/
inductive IsPower : Text → Prop where
  | absent : IsPower []
  | digits {e : Char} {sign text : Text} : e = 'e' ∨ e = 'E' →
    sign = [] ∨ sign = ['+'] ∨ sign = ['-'] → IsDigits text → IsPower (e :: (sign ++ text))

/-- A number. -/
inductive IsNumber : Text → Prop where
  | parts {sign whole fraction power : Text} : sign = [] ∨ sign = ['-'] → IsWhole whole →
    IsFraction fraction → IsPower power → IsNumber (sign ++ (whole ++ (fraction ++ power)))

/-- Whether a text cannot continue a number. -/
def EndsNumber (rest : Text) : Prop :=
  ∀ c ∈ rest.head?, c.isDigit = false ∧ c ≠ '.' ∧ c ≠ 'e' ∧ c ≠ 'E'

namespace Numeral

theorem digits?_append (valid : IsDigits text) (ends : ∀ c ∈ rest.head?, c.isDigit = false) :
    digits? (text ++ rest) = some (text, rest) := by
  have stops : rest.takeWhile Char.isDigit = [] ∧ rest.dropWhile Char.isDigit = rest := by
    cases rest with
    | nil => simp
    | cons c rest => simp [ends c rfl]
  have taken : (text ++ rest).takeWhile Char.isDigit = text := by
    rw [List.takeWhile_append_of_pos valid.2, stops.1, List.append_nil]
  have left : (text ++ rest).dropWhile Char.isDigit = rest := by
    rw [List.dropWhile_append_of_pos valid.2, stops.2]
  unfold digits?
  rw [taken, left]
  split
  · exact absurd rfl valid.1
  · rfl

theorem whole?_append (valid : IsWhole text) (ends : ∀ c ∈ rest.head?, c.isDigit = false) :
    whole? (text ++ rest) = some (text, rest) := by
  unfold whole?
  rw [digits?_append valid.1 ends]
  split
  · rename_i more _ same
    simp only [Option.some.injEq, Prod.mk.injEq] at same
    have alone := valid.2 (by simp [same.1])
    simp [same.1] at alone
  · rfl

theorem fraction?_append (valid : IsFraction text)
    (ends : ∀ c ∈ rest.head?, c.isDigit = false ∧ c ≠ '.') :
    fraction? (text ++ rest) = some (text.drop 1, rest) := by
  cases valid with
  | absent =>
    unfold fraction?
    split
    · rename_i same
      exact absurd rfl (ends '.' (by simp_all)).2
    · rfl
  | digits valid => exact digits?_append valid fun c first => (ends c first).1

theorem exponentSign_append {sign : Text} (valid : sign = [] ∨ sign = ['+'] ∨ sign = ['-'])
    (digits : IsDigits text) :
    exponentSign (sign ++ (text ++ rest)) = (decide (sign = ['-']), text ++ rest) := by
  rcases valid with rfl | rfl | rfl
  · obtain ⟨nonempty, digits⟩ := digits
    cases text with
    | nil => contradiction
    | cons c text =>
      have first : c.isDigit := digits c (by simp)
      unfold exponentSign
      split <;> simp_all
  · rfl
  · rfl

theorem exponent?_append (valid : IsPower text) :
    ∃ n, ∀ rest, EndsNumber rest → exponent? (text ++ rest) = some (n, rest) := by
  cases valid with
  | absent =>
    refine ⟨0, fun rest ends => ?_⟩
    cases rest with
    | nil => rfl
    | cons c rest =>
      have other := (ends c rfl).2.2
      simp [exponent?, other]
  | @digits e sign digits mark signed valid =>
    refine ⟨if sign = ['-'] then -(natOf digits : Int) else natOf digits, fun rest ends => ?_⟩
    have read : digits? (digits ++ rest) = some (digits, rest) :=
      digits?_append valid fun c first => (ends c first).1
    simp only [List.cons_append, List.append_assoc, exponent?, if_pos mark,
      exponentSign_append signed valid, read, Option.map_some, decide_eq_true_eq]

/-- A number is read as a whole, and nothing more. -/
theorem read?_append (valid : IsNumber text) :
    ∃ n, ∀ rest, EndsNumber rest → read? (text ++ rest) = some (n, rest) := by
  obtain @⟨sign, whole, fraction, power, signed, digits, point, powered⟩ := valid
  obtain ⟨n, exponent⟩ := exponent?_append powered
  have unsigned : ∀ negative rest, EndsNumber rest →
      unsigned? negative (whole ++ (fraction ++ (power ++ rest))) =
        some (⟨negative, whole, fraction.drop 1, n⟩, rest) := by
    intro negative rest ends
    have afterFraction : ∀ c ∈ (power ++ rest).head?, c.isDigit = false ∧ c ≠ '.' := by
      cases powered with
      | absent => exact fun c first => ⟨(ends c first).1, (ends c first).2.1⟩
      | digits mark => rcases mark with rfl | rfl <;> simp
    have afterWhole : ∀ c ∈ (fraction ++ (power ++ rest)).head?, c.isDigit = false := by
      cases point with
      | absent => exact fun c first => (afterFraction c first).1
      | digits => simp
    simp [unsigned?, whole?_append digits afterWhole, fraction?_append point afterFraction,
      exponent rest ends]
  rcases signed with rfl | rfl
  · obtain ⟨⟨nonempty, digits⟩, -⟩ := digits
    obtain ⟨c, more, rfl⟩ := List.exists_cons_of_ne_nil nonempty
    have first : c.isDigit := digits c (by simp)
    refine ⟨⟨false, c :: more, fraction.drop 1, n⟩, fun rest ends => ?_⟩
    rw [List.nil_append, List.append_assoc, List.append_assoc, ← unsigned false rest ends]
    unfold read?
    split
    · simp_all
    · rfl
  · refine ⟨⟨true, whole, fraction.drop 1, n⟩, fun rest ends => ?_⟩
    rw [← unsigned true rest ends]
    simp [read?]

end Numeral

/-- The characters of a number. -/
theorem IsNumber.mem (valid : IsNumber text) (member : c ∈ text) :
    c.isDigit ∨ c ∈ ['-', '+', '.', 'e', 'E'] := by
  obtain ⟨signed, digits, point, powered⟩ := valid
  simp only [List.mem_append] at member
  rcases member with member | member | member | member
  · rcases signed with rfl | rfl
    · simp at member
    · simp_all
  · exact .inl (digits.1.2 c member)
  · cases point with
    | absent => simp at member
    | digits digits =>
      rcases List.mem_cons.1 member with rfl | member
      · simp
      · exact .inl (digits.2 c member)
  · cases powered with
    | absent => simp at member
    | digits mark signed digits =>
      simp only [List.mem_cons, List.mem_append] at member
      rcases member with rfl | member | member
      · rcases mark with rfl | rfl <;> simp
      · rcases signed with rfl | rfl | rfl
        · simp at member
        · simp_all
        · simp_all
      · exact .inl (digits.2 c member)

/-- A number begins with a sign or a digit. -/
theorem IsNumber.cons (valid : IsNumber text) :
    ∃ c rest, text = c :: rest ∧ (c = '-' ∨ c.isDigit) := by
  obtain ⟨signed, ⟨⟨nonempty, digits⟩, -⟩, -, -⟩ := valid
  rcases signed with rfl | rfl
  · obtain ⟨c, rest, rfl⟩ := List.exists_cons_of_ne_nil nonempty
    exact ⟨c, _, rfl, .inr (digits c (by simp))⟩
  · exact ⟨'-', _, rfl, .inl rfl⟩

/-- Reading a number does not depend on what follows it. -/
theorem Token.number?_append (valid : IsNumber text) (ends : EndsNumber rest) :
    number? (text ++ rest) = (number? text).map fun found => (found.1, rest) := by
  obtain ⟨n, read⟩ := Numeral.read?_append valid
  have alone : Numeral.read? text = some (n, []) := by simpa using read [] (by simp [EndsNumber])
  simp only [number?, read rest ends, alone]
  split <;> rfl

/-! ### Strings -/

/-- A hexadecimal digit. -/
def IsHex (c : Char) : Prop := c.isDigit ∨ ('a' ≤ c ∧ c ≤ 'f') ∨ ('A' ≤ c ∧ c ≤ 'F')

theorem IsHex.ne (hex : IsHex c) : c ≠ '"' ∧ c ≠ '\\' := by
  constructor
  all_goals
    rintro rfl
    revert hex
    unfold IsHex
    decide

/-- What stands between the quotes of a string: characters other than quotes, backslashes and
control characters, and escapes. -/
inductive IsStringBody : Text → Prop where
  | empty : IsStringBody []
  | plain {c : Char} {rest : Text} : c ≠ '"' → c ≠ '\\' → 0x20 ≤ c.toNat → IsStringBody rest →
    IsStringBody (c :: rest)
  | escape {c : Char} {rest : Text} : c ∈ ['"', '\\', '/', 'b', 'f', 'n', 'r', 't'] →
    IsStringBody rest → IsStringBody ('\\' :: c :: rest)
  | unit {a b c d : Char} {rest : Text} : (∀ digit ∈ [a, b, c, d], IsHex digit) →
    IsStringBody rest → IsStringBody ('\\' :: 'u' :: a :: b :: c :: d :: rest)

namespace Token

theorem put_map (c : Char) (value : Option Text) (rest : Text) :
    put c (value.map (·, rest)) = (value.map (c :: ·)).map (·, rest) := by
  cases value <;> rfl

theorem string?_plain (quote : c ≠ '"') (backslash : c ≠ '\\') (visible : 0x20 ≤ c.toNat)
    (rest : Text) : string? (c :: rest) = put c (string? rest) := by
  have visible : ¬ c.toNat < 0x20 := by omega
  rw [string?.eq_def]
  split <;> simp_all

theorem string?_escape (letter : c ∈ ['"', '\\', '/', 'b', 'f', 'n', 'r', 't']) :
    ∃ e, ∀ rest, string? ('\\' :: c :: rest) = put e (string? rest) := by
  simp only [List.mem_cons, List.not_mem_nil, or_false] at letter
  rcases letter with rfl | rfl | rfl | rfl | rfl | rfl | rfl | rfl
  all_goals exact ⟨_, fun rest => by rw [string?.eq_def]; rfl⟩

/-- Reading a string does not depend on what follows its closing quote. -/
theorem exists_string?_append {body : Text} (valid : IsStringBody body) :
    ∃ value : Option Text, ∀ rest, string? (body ++ '"' :: rest) = value.map (·, rest) := by
  cases valid with
  | empty => exact ⟨some [], fun rest => rfl⟩
  | @plain c body quote backslash visible valid =>
    obtain ⟨value, read⟩ := exists_string?_append valid
    refine ⟨value.map (c :: ·), fun rest => ?_⟩
    rw [← put_map, ← read rest, List.cons_append, string?_plain quote backslash visible]
  | @escape c body letter valid =>
    obtain ⟨value, read⟩ := exists_string?_append valid
    obtain ⟨e, escape⟩ := string?_escape letter
    refine ⟨value.map (e :: ·), fun rest => ?_⟩
    rw [← put_map, ← read rest, List.cons_append, List.cons_append, escape]
  | @unit a b c d body digits valid =>
    simp only [List.cons_append, string?]
    cases unit? a b c d with
    | none => exact ⟨none, fun rest => rfl⟩
    | some n =>
      by_cases low : isLowSurrogate n
      · exact ⟨none, fun rest => by simp [low]⟩
      by_cases high : isHighSurrogate n
      · -- The first half of a pair looks at the six characters that follow it.
        simp only [low, high, if_true, Bool.false_eq_true, if_false]
        cases valid with
        | empty => exact ⟨none, fun rest => rfl⟩
        | plain _ backslash => exact ⟨none, fun rest => by split <;> simp_all⟩
        | escape letter => exact ⟨none, fun rest => by split <;> simp_all⟩
        | @unit e f g h body digits valid =>
          obtain ⟨value, read⟩ := exists_string?_append valid
          simp only [List.cons_append, read, put_map]
          cases unit? e f g h with
          | none => exact ⟨none, fun rest => rfl⟩
          | some m =>
            by_cases low : isLowSurrogate m
            · exact ⟨value.map (pairChar n m :: ·), fun rest => by simp [low]⟩
            · exact ⟨none, fun rest => by simp [low]⟩
      · obtain ⟨value, read⟩ := exists_string?_append valid
        exact ⟨value.map (Char.ofNat n :: ·), fun rest => by simp [low, high, read, put_map]⟩
termination_by body.length

theorem string?_append (valid : IsStringBody body) (rest : Text) :
    string? (body ++ '"' :: rest) = (string? (body ++ ['"'])).map fun found => (found.1, rest) := by
  obtain ⟨value, read⟩ := exists_string?_append valid
  rw [read, read]
  cases value <;> rfl

end Token

/-! ### Words -/

/-- A character that is a word by itself. -/
inductive Mark where
  | openBrace
  | closeBrace
  | openBracket
  | closeBracket
  | colon
  | comma
deriving DecidableEq

namespace Mark

def char : Mark → Char
  | openBrace => '\x7b'
  | closeBrace => '\x7d'
  | openBracket => '['
  | closeBracket => ']'
  | colon => ':'
  | comma => ','

def token : Mark → Token
  | openBrace => .openBrace
  | closeBrace => .closeBrace
  | openBracket => .openBracket
  | closeBracket => .closeBracket
  | colon => .colon
  | comma => .comma

/-- Whether an array or an object ends here. -/
def closes (m : Mark) : Bool := m = closeBrace || m = closeBracket

end Mark

/-- One word, as it is written. -/
inductive Word where
  | mark (m : Mark)
  | null
  | bool (value : Bool)
  | number (text : Text) (valid : IsNumber text)
  | string (body : Text) (valid : IsStringBody body)

namespace Word

/-- The characters of a word. -/
def chars : Word → Text
  | mark m => [m.char]
  | null => "null".toList
  | bool true => "true".toList
  | bool false => "false".toList
  | number text _ => text
  | string body _ => '"' :: (body ++ ['"'])

/-- What a word stands for. There may be no such thing: a number can be too large, and half a
surrogate pair is no character. -/
def token? : Word → Option Token
  | mark m => some m.token
  | null => some .null
  | bool value => some (.bool value)
  | number text _ => (Token.number? text).map Prod.fst
  | string body _ => (Token.string? (body ++ ['"'])).map fun found => .string found.1

def isMark : Word → Bool
  | mark _ => true
  | _ => false

def isComma : Word → Bool
  | mark m => m = .comma
  | _ => false

def closes : Word → Bool
  | mark m => m.closes
  | _ => false

end Word

theorem eq_of_isSpace (space : Token.isSpace c) : c = ' ' ∨ c = '\t' ∨ c = '\n' ∨ c = '\r' := by
  simpa [Token.isSpace, or_assoc] using space

theorem isBlank_of_isSpace (space : Token.isSpace c) : Text.isBlank c := by
  rcases eq_of_isSpace space with rfl | rfl | rfl | rfl <;> rfl

/-- A digit is neither blank nor a bracket. -/
theorem isDigit_plain (digit : c.isDigit) : Text.isBlank c = false ∧ c ≠ '\x7d' ∧ c ≠ ']' := by
  have bounds : 48 ≤ c.toNat ∧ c.toNat ≤ 57 := by
    simpa [Char.isDigit, UInt32.le_iff_toNat_le] using digit
  refine ⟨?_, ?_, ?_⟩
  · simp only [Text.isBlank]
    grind
  · rintro rfl
    simp at digit
  · rintro rfl
    simp at digit

/-- The first character of a word is not blank, and it tells whether the word closes anything. -/
theorem Word.chars_eq_cons (w : Word) :
    ∃ c rest, w.chars = c :: rest ∧ Text.isBlank c = false ∧
      w.closes = (c = '\x7d' || c = ']') := by
  cases w with
  | mark m => cases m <;> exact ⟨_, _, rfl, rfl, rfl⟩
  | null => exact ⟨'n', "ull".toList, rfl, rfl, rfl⟩
  | bool value =>
    cases value with
    | true => exact ⟨'t', "rue".toList, rfl, rfl, rfl⟩
    | false => exact ⟨'f', "alse".toList, rfl, rfl, rfl⟩
  | number text valid =>
    obtain ⟨c, rest, rfl, first⟩ := valid.cons
    refine ⟨c, rest, rfl, ?_⟩
    rcases first with rfl | digit
    · exact ⟨rfl, rfl⟩
    · obtain ⟨blank, brace, bracket⟩ := isDigit_plain digit
      simp [blank, brace, bracket, closes]
  | string body valid => exact ⟨'"', body ++ ['"'], rfl, rfl, rfl⟩

theorem Token.next?_of_digit (first : c = '-' ∨ c.isDigit) (rest : Text) :
    next? c rest = number? (c :: rest) := by
  unfold next?
  split <;> simp_all

/-- A word is read as a whole, and nothing more. -/
theorem Token.next?_chars (w : Word) (ends : w.isMark ∨ EndsNumber rest) :
    ∃ c tail, w.chars = c :: tail ∧ next? c (tail ++ rest) = w.token?.map (·, rest) := by
  cases w with
  | mark m => cases m <;> exact ⟨_, _, rfl, rfl⟩
  | null =>
    refine ⟨'n', "ull".toList, rfl, ?_⟩
    simp only [next?, name?, Text.dropStart?_append]
    rfl
  | bool value =>
    cases value with
    | true =>
      refine ⟨'t', "rue".toList, rfl, ?_⟩
      simp only [next?, name?, Text.dropStart?_append]
      rfl
    | false =>
      refine ⟨'f', "alse".toList, rfl, ?_⟩
      simp only [next?, name?, Text.dropStart?_append]
      rfl
  | number text valid =>
    obtain ⟨c, tail, rfl, first⟩ := valid.cons
    refine ⟨c, tail, rfl, ?_⟩
    have read := number?_append valid (ends.resolve_left (by simp [Word.isMark]))
    rw [next?_of_digit first, ← List.cons_append, read]
    simp only [Word.token?, Option.map_map]
    rfl
  | string body valid =>
    refine ⟨'"', body ++ ['"'], rfl, ?_⟩
    simp only [next?, Word.token?, List.append_assoc, List.singleton_append,
      string?_append valid rest, Option.map_map]
    rfl

/-! ### Layout -/

/-- Blank space, or nothing. -/
def IsBlank (gap : Text) : Prop := ∀ c ∈ gap, Token.isSpace c

theorem IsBlank.append {left right : Text} (isBlank : IsBlank left) (isBlank' : IsBlank right) :
    IsBlank (left ++ right) :=
  fun c member => (List.mem_append.1 member).elim (isBlank c) (isBlank' c)

/-- Words written one after another, each behind a gap, and one more gap at the end. -/
inductive Laid (Gap Last : Text → Prop) : List Word → Text → Prop where
  | last {gap : Text} : Last gap → Laid Gap Last [] gap
  | word {gap text : Text} {w : Word} {words : List Word} : Gap gap → Laid Gap Last words text →
    Laid Gap Last (w :: words) (gap ++ (w.chars ++ text))

variable {words : List Word}

theorem Token.all?_blank (blank : IsBlank text) (rest : Text) : all? (text ++ rest) = all? rest := by
  induction text with
  | nil => rfl
  | cons c text ih =>
    have space : isSpace c := blank c (by simp)
    rw [List.cons_append, all?, if_pos space]
    exact ih fun d member => blank d (by simp [member])

theorem Token.all?_chars (w : Word) (ends : w.isMark ∨ EndsNumber rest) :
    all? (w.chars ++ rest) = w.token?.bind fun token => (all? rest).map (token :: ·) := by
  obtain ⟨c, tail, same, read⟩ := next?_chars w ends
  obtain ⟨d, others, same', blank, -⟩ := w.chars_eq_cons
  obtain ⟨rfl, rfl⟩ : c = d ∧ tail = others := by simpa [same] using same'
  have word : ¬ isSpace c := fun space => by simp [isBlank_of_isSpace space] at blank
  rw [same, List.cons_append, all?, if_neg word]
  split
  · rename_i failed
    have absent : w.token? = none := by simpa using read.symm.trans failed
    rw [absent, Option.bind_none]
  · rename_i token after found
    obtain ⟨_, present, same⟩ := Option.map_eq_some_iff.1 (read.symm.trans found)
    obtain ⟨rfl, rfl⟩ : _ = token ∧ rest = after := by simpa using same
    rw [present, Option.bind_some]

theorem endsNumber_cons {c : Char} {rest : Text} :
    EndsNumber (c :: rest) ↔ c.isDigit = false ∧ c ≠ '.' ∧ c ≠ 'e' ∧ c ≠ 'E' := by
  simp only [EndsNumber, List.head?_cons, Option.mem_def, Option.some.injEq, forall_eq']

theorem endsNumber_of_isSpace (space : Token.isSpace c) : EndsNumber (c :: rest) := by
  rw [endsNumber_cons]
  rcases eq_of_isSpace space with rfl | rfl | rfl | rfl <;> decide

theorem endsNumber_mark (m : Mark) : EndsNumber (m.char :: rest) := by
  rw [endsNumber_cons]
  cases m <;> decide

/-- A number ends where blank space or a mark follows. -/
theorem endsNumber_laid (laid : Laid IsBlank IsBlank words text)
    (next : ∀ w ∈ words.head?, w.isMark) : EndsNumber text := by
  cases laid with
  | last blank =>
    cases text with
    | nil => simp [EndsNumber]
    | cons c text => exact endsNumber_of_isSpace (blank c (by simp))
  | @word gap text w words blank =>
    cases gap with
    | cons c gap => exact endsNumber_of_isSpace (blank c (by simp))
    | nil =>
      cases w with
      | mark m => exact endsNumber_mark m
      | _ => simp [Word.isMark] at next

/-- A text reads as the tokens of its words. -/
theorem Token.all?_laid (laid : Laid IsBlank IsBlank words text)
    (apart : words.IsChain fun w v => w.isMark ∨ v.isMark) :
    all? text = words.mapM Word.token? := by
  induction laid with
  | last blank => simpa [all?] using all?_blank blank []
  | @word gap text w words blank laid ih =>
    have ends : w.isMark ∨ EndsNumber text := by
      by_cases mark : w.isMark
      · exact .inl mark
      · refine .inr (endsNumber_laid laid fun v first => ?_)
        exact (apart.rel_head? first).resolve_left mark
    rw [all?_blank blank, all?_chars w ends, ih apart.tail, List.mapM_cons]
    cases w.token? <;> cases words.mapM Word.token? <;> rfl

end TypingBundle.Json
