import TypingBundle.Pattern.Regex.Flags

/-!
What stands after a backslash in a regular expression: characters by their code, classes by letter
or property, and assertions.
-/

namespace TypingBundle.Pattern.Regex

open TypingBundle.Text (CharSet)

/-- What one letter or escape of an expression stands for. -/
inductive Atom where
  | char (c : Char)
  /-- A class, whose case and negation are settled. -/
  | set (members : CharSet)
  | look (assertion : Assertion)

/-- The value of a hexadecimal digit. -/
def hexDigit? (c : Char) : Option Nat :=
  if c.isDigit then some (c.toNat - 48)
  else if 'a' ≤ c && c ≤ 'f' then some (c.toNat - 87)
  else if 'A' ≤ c && c ≤ 'F' then some (c.toNat - 55)
  else none

/-- The character with a code point in hexadecimal digits. -/
def charOfHex? (digits : Text) : Option Char := do
  let values ← digits.mapM hexDigit?
  let n := values.foldl (fun n v => n * 16 + v) 0
  if !digits.isEmpty && n.isValidChar then some (Char.ofNat n) else none

/-- A fixed number of characters, and the rest. -/
def fixedLength? (flags : Flags) : Nat → Text → Option (Text × Text)
  | 0, text => some ([], text)
  | count + 1, text =>
    match skipBlank flags text with
    | [] => none
    | c :: text => (fixedLength? flags count text).map fun (digits, rest) => (c :: digits, rest)

/-- A character by its code point, after the letter that announces how many digits follow. Without
Unicode, two digits stand for a byte, and only ASCII bytes are text. -/
def hexEscape? (flags : Flags) (digits : Nat) (text : Text) : Option (Atom × Text) := do
  match skipBlank flags text with
  | '\x7b' :: text =>
    let (body, rest) ← braced? flags text
    let c ← charOfHex? body
    some (.char c, rest)
  | text =>
    let (body, rest) ← fixedLength? flags digits text
    let c ← charOfHex? body
    if digits = 2 && !flags.unicode && 128 ≤ c.toNat then none else some (.char c, rest)

/-- A class by Unicode property. -/
def propertyEscape? (flags : Flags) (negated : Bool) (text : Text) : Option (Atom × Text) := do
  let (query, rest) ← match skipBlank flags text with
    | [] => none
    | '\x7b' :: text => braced? flags text
    | c :: text => if c = '\\' then none else some ([c], text)
  let (others, set) ← ClassName.query? query
  let members ← flags.class? (negated != others) set
  if flags.unicode then some (.set members, rest) else none

/-- An edge of a word. -/
def wordEdge (flags : Flags) (edge : WordEdge) : Atom := .look (.word flags.unicode edge)

/-- The assertion after `\b`: the one that a name in braces stands for, or a plain edge if the
braces hold no name, since they are a repetition then. -/
def wordBoundary? (flags : Flags) (text : Text) : Option (Atom × Text) :=
  let plain := some (wordEdge flags .border, text)
  match text with
  | '\x7b' :: inside =>
    match skipBlank flags inside with
    | [] => none
    | c :: inside =>
      if !(c.isAlpha || c = '-') then plain
      else match braced? flags (c :: inside) with
        | none => none
        | some (name, rest) =>
          match String.ofList name with
          | "start" => some (wordEdge flags .start, rest)
          | "end" => some (wordEdge flags .finish, rest)
          | "start-half" => some (wordEdge flags .startHalf, rest)
          | "end-half" => some (wordEdge flags .endHalf, rest)
          | _ => none
  | _ => plain

/-- Whether a backslash before a character makes it stand for itself: ASCII other than letters,
digits and the two angle brackets. -/
def isEscapable (c : Char) : Bool := c.toNat < 128 && !c.isAlphanum && c ≠ '<' && c ≠ '>'

/-- A set for one of the class letters `d`, `s` and `w`. Case makes no difference to it. -/
def letterClass (flags : Flags) (letter : Char) : CharSet :=
  match letter, flags.unicode with
  | 'd', true => Text.Property.decimalDigit
  | 'd', false => ClassName.asciiDigits
  | 's', true => Text.Property.whiteSpace
  | 's', false => ClassName.asciiSpace
  | _, true => Text.Property.word
  | _, false => ClassName.asciiWord

/-- What stands after a backslash. -/
def escape? (flags : Flags) : Text → Option (Atom × Text)
  | [] => none
  | c :: rest =>
    if c = 'x' then hexEscape? flags 2 rest
    else if c = 'u' then hexEscape? flags 4 rest
    else if c = 'U' then hexEscape? flags 8 rest
    else if c = 'p' || c = 'P' then propertyEscape? flags (c = 'P') rest
    else if c ∈ ['d', 's', 'w'] then some (.set (letterClass flags c), rest)
    else if c ∈ ['D', 'S', 'W'] then
      if flags.unicode then some (.set (letterClass flags c.toLower).complement, rest) else none
    else if isEscapable c then some (.char c, rest)
    else match c with
      | 'a' => some (.char '\x07', rest)
      | 'f' => some (.char '\x0c', rest)
      | 't' => some (.char '\t', rest)
      | 'n' => some (.char '\n', rest)
      | 'r' => some (.char '\r', rest)
      | 'v' => some (.char '\x0b', rest)
      | 'A' => some (.look .textStart, rest)
      | 'z' => some (.look .textEnd, rest)
      | 'b' => wordBoundary? flags rest
      | 'B' => some (wordEdge flags .noBorder, rest)
      | '<' => some (wordEdge flags .start, rest)
      | '>' => some (wordEdge flags .finish, rest)
      | _ => none

end TypingBundle.Pattern.Regex
