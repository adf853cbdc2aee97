import TypingBundle.Text.Category

/-!
Reading a line from its beginning: indentation, quoted specifiers, and the search for the first
place where the rest of a line has a given form.
-/

namespace TypingBundle.Line

/-- The characters of indentation. -/
def isIndent (c : Char) : Bool := c = ' ' || c = '\t'

/-- The indentation a text begins with. -/
def indentation (text : Text) : Text := text.takeWhile isIndent

/-- The text after its indentation. -/
def unindented (text : Text) : Text := text.dropWhile isIndent

/-- Whether a text stays on one line. -/
def onOneLine (text : Text) : Bool := '\n' ∉ text

/-- Whether a character is one of the two quote marks. -/
def isQuote (c : Char) : Bool := c = '\x27' || c = '"'

/-- A line around a quoted module specifier. -/
structure QuotedSpecifier where
  lead : Text
  quote : Char
  specifier : Text
  trail : Text
deriving DecidableEq

namespace QuotedSpecifier

/-- The line with another specifier between the same quotes. -/
def withSpecifier (q : QuotedSpecifier) (specifier : Text) : Text :=
  q.lead ++ q.quote :: specifier ++ q.quote :: q.trail

/-- The specifier in a line that begins with more text. -/
def after (q : QuotedSpecifier) (text : Text) : QuotedSpecifier := { q with lead := text ++ q.lead }

end QuotedSpecifier

/-- Reads a quoted specifier that is not empty. `allowed` says which characters it may hold beside
its own quote mark, which ends it. -/
def quotedSpecifier? (allowed : Char → Bool) (lead : Text) : Text → Option QuotedSpecifier
  | [] => none
  | quote :: text =>
    let inside := fun c => c ≠ quote && allowed c
    match text.dropWhile inside with
    | [] => none
    | c :: trail =>
      if isQuote quote && c = quote && text.takeWhile inside ≠ [] then
        some ⟨lead, quote, text.takeWhile inside, trail⟩
      else none

/-- The first result of `attempt` over the ways to cut a text in two, the shorter first part first,
together with that part. It follows `passed`, which is given in reverse, and stays on one line.
`attempt` is given the character before the cut and the text after it. -/
def firstCut? {α : Type} (attempt : (before : Option Char) → Text → Option α) (passed : Text) :
    Text → Option (Text × α)
  | [] => (attempt passed.head? []).map fun found => (passed.reverse, found)
  | c :: rest =>
    match attempt passed.head? (c :: rest) with
    | some found => some (passed.reverse, found)
    | none => if c = '\n' then none else firstCut? attempt (c :: passed) rest

/-- The optional word at the beginning of a text, and the rest. -/
def optionalStart (word text : Text) : Text × Text :=
  match Text.dropStart? word text with
  | some rest => (word, rest)
  | none => ([], text)

end TypingBundle.Line
