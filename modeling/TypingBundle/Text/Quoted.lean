import TypingBundle.Text.Shown

/-!
Values written for a reader to check: quoted text with escapes, optional values, and records of
named fields.
-/

namespace TypingBundle.Text

/-- A character as its code point in hexadecimal, for one that cannot be shown. -/
def codeEscape (c : Char) : Text :=
  "\\u\x7b".toList ++ Nat.toDigits 16 c.toNat ++ ['\x7d']

/-- A character inside double quotes. -/
def escapeChar (c : Char) : Text :=
  if c.toNat = 0 then "\\0".toList
  else if c = '\t' then "\\t".toList
  else if c = '\r' then "\\r".toList
  else if c = '\n' then "\\n".toList
  else if c = '\\' ∨ c = '"' then ['\\', c]
  else if isExtender c then codeEscape c
  else if isPrintable c then [c]
  else codeEscape c

/-- Text in double quotes. -/
def quoted (text : Text) : Text :=
  '"' :: text.flatMap escapeChar ++ ['"']

/-- An optional value. -/
def optional {α : Type} (describe : α → Text) : Option α → Text
  | some value => "Some(".toList ++ describe value ++ [')']
  | none => "None".toList

/-- A truth value. -/
def ofBool (value : Bool) : Text := if value then "true".toList else "false".toList

/-- A record of named fields; `closing` stands after the last one. -/
def fieldsShown (name : String) (fields : List (String × Text)) (closing : String) : Text :=
  name.toList ++ " \x7b ".toList ++
    join ", ".toList (fields.map fun (field, value) => field.toList ++ ": ".toList ++ value) ++
    closing.toList

end TypingBundle.Text
