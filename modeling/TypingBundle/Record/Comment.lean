import TypingBundle.Line.Class

/-!
Block comments across lines. A documentation comment waits for the next line of code and is put
before it; before a private member it is dropped.
-/

namespace TypingBundle

/-- The comments that are open or waiting between two lines. -/
structure CommentState where
  inBlock : Bool := false
  /-- The lines of the open block comment. -/
  block : List Text := []
  /-- The documentation comment that waits for a line of code. -/
  waiting : List Text := []

namespace CommentState

/-- The block comment is closed, and waits if it is a documentation comment. -/
def close (s : CommentState) : CommentState where
  inBlock := false
  block := []
  waiting := if (s.block.head?.map Line.isDocStart).getD false then s.block else s.waiting

/-- The block comment with another line. -/
def add (s : CommentState) (line : Text) : CommentState := { s with block := s.block ++ [line] }

/-- Whether documentation is put before a line of a class. -/
def takesDoc : Line.Class → Bool
  | .importing _ => true
  | .moduleDeclaration _ => true
  | .code => true
  | _ => false

/-- The state after a line. -/
def after (s : CommentState) (line : Text) (found : Line.Class) : CommentState :=
  match found with
  | .blockEnd => (s.add line).close
  | .blockStart closes =>
    let opened := { s.add line with inBlock := true }
    if closes then opened.close else opened
  | .blockBody => s.add line
  | .privateMember => { s with waiting := [] }
  | found => if takesDoc found then { s with waiting := [] } else s

end CommentState

/-- A line of a file with its class and the documentation that is put before it. -/
structure ScannedLine where
  line : Text
  found : Line.Class
  doc : List Text

/-- The lines of a file, each classified by the comments before it. -/
def scanLines (s : CommentState) : List Text → List ScannedLine
  | [] => []
  | line :: rest =>
    let found := Line.classify line s.inBlock
    ⟨line, found, if CommentState.takesDoc found then s.waiting else []⟩ ::
      scanLines (s.after line found) rest

/-- The lines of a text without their carriage returns. -/
def sourceLines (text : Text) : List Text := (Text.lines text).map Text.dropReturn

/-- All lines of a text, classified from its beginning. -/
def scan (text : Text) : List ScannedLine := scanLines {} (sourceLines text)

end TypingBundle
