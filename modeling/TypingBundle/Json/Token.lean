import TypingBundle.Json.Numeral

/-!
The words of a JSON text: brackets, marks, names, numbers and strings, with blank space between
them.

Main statement: a word takes at least one character off, so every text is read to its end.
-/

namespace TypingBundle.Json

/-- One word of a JSON text. -/
inductive Token where
  | openBrace
  | closeBrace
  | openBracket
  | closeBracket
  | colon
  | comma
  | null
  | bool (value : Bool)
  | number (value : Numeral)
  /-- A string, with its escapes read. -/
  | string (value : Text)
deriving DecidableEq

namespace Token

/-- Blank space between words. -/
def isSpace (c : Char) : Bool := c = ' ' || c = '\t' || c = '\n' || c = '\r'

/-- The value of a hexadecimal digit. -/
def hexValue? (c : Char) : Option Nat :=
  if '0' ≤ c ∧ c ≤ '9' then some (c.toNat - 48)
  else if 'a' ≤ c ∧ c ≤ 'f' then some (c.toNat - 87)
  else if 'A' ≤ c ∧ c ≤ 'F' then some (c.toNat - 55)
  else none

/-- The number that four hexadecimal digits stand for. -/
def unit? (a b c d : Char) : Option Nat := do
  return 4096 * (← hexValue? a) + 256 * (← hexValue? b) + 16 * (← hexValue? c) + (← hexValue? d)

/-- Whether a number is the first half of a surrogate pair. -/
def isHighSurrogate (n : Nat) : Bool := 0xD800 ≤ n && n ≤ 0xDBFF

/-- Whether a number is the second half of a surrogate pair. -/
def isLowSurrogate (n : Nat) : Bool := 0xDC00 ≤ n && n ≤ 0xDFFF

/-- The character of a surrogate pair. -/
def pairChar (high low : Nat) : Char :=
  Char.ofNat (0x10000 + 1024 * (high - 0xD800) + (low - 0xDC00))

/-- The character that a letter after a backslash stands for. -/
def escaped? (c : Char) : Option Char :=
  match c with
  | '"' => some '"'
  | '\\' => some '\\'
  | '/' => some '/'
  | 'b' => some '\x08'
  | 'f' => some '\x0c'
  | 'n' => some '\n'
  | 'r' => some '\r'
  | 't' => some '\t'
  | _ => none

/-- A character put before the string that follows it. -/
def put (c : Char) (following : Option (Text × Text)) : Option (Text × Text) :=
  following.map fun (text, rest) => (c :: text, rest)

/-- A string after its opening quote, and what follows the closing one. A string holds no control
character, and half a surrogate pair does not stand alone. -/
def string? : Text → Option (Text × Text)
  | [] => none
  | '"' :: rest => some ([], rest)
  | '\\' :: 'u' :: a :: b :: c :: d :: rest =>
    match unit? a b c d with
    | none => none
    | some n =>
      if isLowSurrogate n then none
      else if isHighSurrogate n then
        match rest with
        | '\\' :: 'u' :: e :: f :: g :: h :: rest =>
          match unit? e f g h with
          | none => none
          | some m => if isLowSurrogate m then put (pairChar n m) (string? rest) else none
        | _ => none
      else put (Char.ofNat n) (string? rest)
  | '\\' :: c :: rest =>
    match escaped? c with
    | none => none
    | some e => put e (string? rest)
  | c :: rest => if c = '\\' ∨ c.toNat < 0x20 then none else put c (string? rest)

/-- A name of which the first letter is read already. -/
def name? (remainder : String) (token : Token) (rest : Text) : Option (Token × Text) :=
  (Text.dropStart? remainder.toList rest).map (token, ·)

/-- The number at the beginning, if it is not too large. -/
def number? (text : Text) : Option (Token × Text) :=
  match Numeral.read? text with
  | some (n, rest) => if n.isFinite then some (.number n, rest) else none
  | none => none

/-- The word that begins with a character, and what follows it. -/
def next? (c : Char) (rest : Text) : Option (Token × Text) :=
  match c with
  | '\x7b' => some (openBrace, rest)
  | '\x7d' => some (closeBrace, rest)
  | '[' => some (openBracket, rest)
  | ']' => some (closeBracket, rest)
  | ':' => some (colon, rest)
  | ',' => some (comma, rest)
  | 'n' => name? "ull" null rest
  | 't' => name? "rue" (bool true) rest
  | 'f' => name? "alse" (bool false) rest
  | '"' => (string? rest).map fun (text, rest) => (string text, rest)
  | c => number? (c :: rest)

/-! ### Lengths -/

theorem put_length {c : Char} {bound : Nat} {following : Option (Text × Text)} {text rest : Text}
    (shorter : ∀ text rest, following = some (text, rest) → rest.length ≤ bound)
    (found : put c following = some (text, rest)) : rest.length ≤ bound := by
  obtain ⟨⟨inner, after⟩, read, result⟩ := Option.map_eq_some_iff.1 found
  simp only [Prod.mk.injEq] at result
  exact result.2 ▸ shorter inner after read

theorem string?_length {source text rest : Text} (found : string? source = some (text, rest)) :
    rest.length ≤ source.length := by
  fun_induction string? source generalizing text rest with
  | case1 => simp at found
  | case2 => simp_all
  | case3 => simp at found
  | case4 => simp at found
  | case5 => simp at found
  | case6 a b c d n _ _ _ e f g h rest m _ _ ih =>
    have := put_length (fun _ _ => ih) found
    simp only [List.length_cons]
    omega
  | case7 => simp at found
  | case8 => simp at found
  | case9 a b c d rest n _ _ _ ih =>
    have := put_length (fun _ _ => ih) found
    simp only [List.length_cons]
    omega
  | case10 => simp at found
  | case11 c rest _ e _ ih =>
    have := put_length (fun _ _ => ih) found
    simp only [List.length_cons]
    omega
  | case12 => simp at found
  | case13 c rest _ _ _ _ ih =>
    have := put_length (fun _ _ => ih) found
    simp only [List.length_cons]
    omega

theorem dropStart?_length {start text rest : Text} (found : Text.dropStart? start text = some rest) :
    rest.length ≤ text.length := by
  rw [Text.dropStart?_eq_some_iff.1 found]
  simp

theorem name?_length {remainder : String} {token found : Token} {text rest : Text}
    (read : name? remainder token text = some (found, rest)) : rest.length ≤ text.length := by
  obtain ⟨after, dropped, result⟩ := Option.map_eq_some_iff.1 read
  simp only [Prod.mk.injEq] at result
  exact result.2 ▸ dropStart?_length dropped

theorem number?_length {token : Token} {text rest : Text}
    (found : number? text = some (token, rest)) : rest.length < text.length := by
  unfold number? at found
  split at found
  · rename_i read
    split at found
    · simp only [Option.some.injEq, Prod.mk.injEq] at found
      exact found.2 ▸ Numeral.read?_length read
    · simp at found
  · simp at found

theorem next?_length {c : Char} {rest after : Text} {token : Token}
    (found : next? c rest = some (token, after)) : after.length ≤ rest.length := by
  unfold next? at found
  split at found
  all_goals first
    | exact name?_length found
    | simp_all; done
    | skip
  · obtain ⟨⟨text, tail⟩, read, result⟩ := Option.map_eq_some_iff.1 found
    simp only [Prod.mk.injEq] at result
    exact result.2 ▸ string?_length read
  · have := number?_length found
    simp only [List.length_cons] at this
    omega

/-- All words of a text, if it consists of words. -/
def all? : Text → Option (List Token)
  | [] => some []
  | c :: rest =>
    if isSpace c then all? rest
    else
      match _ : next? c rest with
      | none => none
      | some (token, after) => (all? after).map (token :: ·)
termination_by text => text.length
decreasing_by
  · simp
  · have := next?_length ‹_›
    simp only [List.length_cons]
    omega

end Token
end TypingBundle.Json
