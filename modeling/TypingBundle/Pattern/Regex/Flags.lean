import TypingBundle.Pattern.Regex.Tree
import TypingBundle.Text.Case

/-!
The flags of a regular expression and what depends on them while it is read: blank space and
comments that stand for nothing, and the case of letters.
-/

namespace TypingBundle.Pattern.Regex

open TypingBundle.Text (CharSet)

/-- What the letters of a flag group switch on or off. -/
structure Flags where
  /-- `i`: letters match without regard to case. -/
  anyCase : Bool
  /-- `m`: `^` and `$` match at every line. -/
  multiLine : Bool
  /-- `s`: the dot matches line feeds. -/
  dotAll : Bool
  /-- `u`: classes know all of Unicode and not only ASCII. -/
  unicode : Bool
  /-- `x`: blank space and comments in the expression stand for nothing. -/
  verbose : Bool
  /-- `R`: a carriage return ends a line, too. -/
  returns : Bool

namespace Flags

/-- The flags that an expression begins with. -/
def initial : Flags := ⟨false, false, false, true, false, false⟩

/-- The flags with one of them switched by its letter; greediness, `U`, decides nothing here. -/
def switch? (flags : Flags) (letter : Char) (on : Bool) : Option Flags :=
  match letter with
  | 'i' => some { flags with anyCase := on }
  | 'm' => some { flags with multiLine := on }
  | 's' => some { flags with dotAll := on }
  | 'u' => some { flags with unicode := on }
  | 'x' => some { flags with verbose := on }
  | 'R' => some { flags with returns := on }
  | 'U' => some flags
  | _ => none

/-- A set under the flags: with the other cases of its letters, if case does not matter. -/
def folded (flags : Flags) (set : CharSet) : CharSet :=
  if !flags.anyCase then set
  else if flags.unicode then set.anyCase
  else set.anyAsciiCase

/-- A set, or its complement. Case comes first, so that a negated class leaves out both cases.
Without Unicode only ASCII is text, which no complement is. -/
def class? (flags : Flags) (negated : Bool) (set : CharSet) : Option CharSet :=
  if negated && !flags.unicode then none else some ((flags.folded set).negatedIf negated)

/-- A character that stands for itself. -/
def char (flags : Flags) (c : Char) : Tree := .ofSet (flags.folded (.single c))

/-- The dot, which is no text without Unicode. -/
def dot? (flags : Flags) : Option Tree :=
  let ends : CharSet :=
    if flags.dotAll then .empty
    else if flags.returns then .ofPoints [10, 13]
    else .ofPoints [10]
  if flags.unicode then some (.set ends.complement) else none

/-- The assertion `^`. -/
def lineStart (flags : Flags) : Assertion :=
  if flags.multiLine then .lineStart flags.returns else .textStart

/-- The assertion `$`. -/
def lineEnd (flags : Flags) : Assertion :=
  if flags.multiLine then .lineEnd flags.returns else .textEnd

end Flags

/-- Takes off blank space and comments, which begin with `#` and end with their line. -/
def skipBlankFrom (inComment : Bool) : Text → Text
  | [] => []
  | c :: text =>
    if inComment then skipBlankFrom (c ≠ '\n') text
    else if Text.isBlank c then skipBlankFrom false text
    else if c = '#' then skipBlankFrom true text
    else c :: text

/-- Takes off what stands for nothing under the flags. -/
def skipBlank (flags : Flags) (text : Text) : Text :=
  if flags.verbose then skipBlankFrom false text else text

/-- The longest beginning of characters that agree with a condition, and the rest. If `verbose`,
blank space and comments among them and after them are passed over. -/
def spanFrom (verbose : Bool) (condition : Char → Bool) (inComment : Bool) : Text → Text × Text
  | [] => ([], [])
  | c :: text =>
    if inComment then spanFrom verbose condition (c ≠ '\n') text
    else if verbose && Text.isBlank c then spanFrom verbose condition false text
    else if verbose && c = '#' then spanFrom verbose condition true text
    else if condition c then
      let (found, rest) := spanFrom verbose condition false text
      (c :: found, rest)
    else ([], c :: text)

/-- The longest beginning of characters that agree with a condition under the flags, and the
rest. -/
def span (flags : Flags) (condition : Char → Bool) (text : Text) : Text × Text :=
  spanFrom flags.verbose condition false text

/-- What stands before a closing brace, and the rest after it. -/
def braced? (flags : Flags) (text : Text) : Option (Text × Text) :=
  match span flags (· ≠ '\x7d') text with
  | (body, _ :: rest) => some (body, rest)
  | (_, []) => none

end TypingBundle.Pattern.Regex
