import TypingBundle.Text.Basic

/-!
JSON with comments. Before such a text is read, comments are taken out of it, and then every comma
that stands right before a closing bracket. Strings are left alone by both, and both keep every
line feed, so that all that is left stays on its line.
-/

namespace TypingBundle.Json

/-- Where a position of a commented text stands. -/
inductive Place where
  | code
  | string
  /-- In a string, after a backslash. -/
  | escape
  | lineComment
  | blockComment
deriving DecidableEq

/-- The place after a character of a string. -/
def Place.inString (c : Char) : Place :=
  if c = '\\' then .escape else if c = '"' then .code else .string

/-- The text without its comments. -/
def dropComments : Place → Text → Text
  | _, [] => []
  | .lineComment, c :: rest =>
    if c = '\n' then c :: dropComments .code rest else dropComments .lineComment rest
  | .blockComment, '*' :: '/' :: rest => dropComments .code rest
  | .blockComment, c :: rest =>
    if c = '\n' then c :: dropComments .blockComment rest else dropComments .blockComment rest
  | .escape, c :: rest => c :: dropComments .string rest
  | .string, c :: rest => c :: dropComments (Place.inString c) rest
  | .code, '/' :: '/' :: rest => dropComments .lineComment rest
  | .code, '/' :: '*' :: rest => dropComments .blockComment rest
  | .code, c :: rest => c :: dropComments (if c = '"' then .string else .code) rest

/-- Only a slash can begin a comment. -/
theorem dropComments_code_cons {c : Char} (other : c ≠ '/') (rest : Text) :
    dropComments .code (c :: rest) = c :: dropComments (if c = '"' then .string else .code) rest := by
  rw [dropComments.eq_def]
  split <;> simp_all

/-- Whether the next character that is not blank closes an array or an object. -/
def closesNext (text : Text) : Bool :=
  match text.dropWhile Text.isBlank with
  | c :: _ => c = '\x7d' || c = ']'
  | [] => false

/-- The text without the commas that stand before a closing bracket. It holds no comments. -/
def dropTrailingCommas : Place → Text → Text
  | _, [] => []
  | .escape, c :: rest => c :: dropTrailingCommas .string rest
  | .string, c :: rest => c :: dropTrailingCommas (Place.inString c) rest
  | _, c :: rest =>
    if c = ',' ∧ closesNext rest then dropTrailingCommas .code rest
    else c :: dropTrailingCommas (if c = '"' then .string else .code) rest

/-- A commented text as plain JSON. -/
def plain (text : Text) : Text := dropTrailingCommas .code (dropComments .code text)

end TypingBundle.Json
