import TypingBundle.Line.Comment
import TypingBundle.Line.Import
import TypingBundle.Line.Modifier

/-!
What a line of a declaration file is. The answer depends on the line and on whether it stands
inside a block comment, and on nothing else.
-/

namespace TypingBundle.Line

/-- The classes of lines, in the order in which they are looked for. -/
inductive Class where
  /-- Ends a block comment. -/
  | blockEnd
  /-- Opens a block comment, which may end on the same line. -/
  | blockStart (closes : Bool)
  /-- Stands inside a block comment. -/
  | blockBody
  | blank
  /-- Refers to another declaration file. -/
  | reference (path : Text)
  | lineComment
  | privateMember
  | importing (found : Import)
  /-- Declares an ambient module. -/
  | moduleDeclaration (found : QuotedSpecifier)
  | code
deriving DecidableEq

/-- A line of blank space only. -/
def isBlankLine (line : Text) : Bool := line.all Text.isBlank

/-- The class of a line outside comments. -/
def classifyCode (line : Text) : Class :=
  if isBlankLine line then .blank
  else match reference? line with
    | some path => .reference path
    | none =>
      if isLineComment line then .lineComment
      else if isPrivate line then .privateMember
      else match import? line with
        | some found => .importing found
        | none =>
          match moduleDeclaration? line with
          | some found => .moduleDeclaration found
          | none => .code

/-- The class of a line. -/
def classify (line : Text) (inBlock : Bool) : Class :=
  if isBlockEnd line || (inBlock && closesBlock line) then .blockEnd
  else match blockStart? line with
    | some closes => .blockStart closes
    | none => if inBlock then .blockBody else classifyCode line

end TypingBundle.Line
