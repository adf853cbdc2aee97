import TypingBundle.Line.Scan

/-!
Modifiers of declarations: private members, and the words `public` and `declare` that a bundled
declaration does without.
-/

namespace TypingBundle.Line

/-- A line that declares a private member. -/
def isPrivate (line : Text) : Bool :=
  Text.startsWith "private ".toList (optionalStart "static ".toList (unindented line)).2

/-- The line without a leading `public`; indentation and `static` stay. -/
def dropPublic (line : Text) : Text :=
  let (static, text) := optionalStart "static ".toList (unindented line)
  match Text.dropStart? "public ".toList text with
  | some rest => if onOneLine rest then indentation line ++ static ++ rest else line
  | none => line

/-- The line without a `declare` at its very beginning; an `export` before it stays. -/
def dropDeclare (line : Text) : Text :=
  let (exported, text) := optionalStart "export ".toList line
  match Text.dropStart? "declare ".toList text with
  | some rest => exported ++ rest
  | none => line

end TypingBundle.Line
