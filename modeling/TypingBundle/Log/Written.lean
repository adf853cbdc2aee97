import TypingBundle.Log.Filter

/-!
Events as lines: one JSON object each, or plain words.
-/

namespace TypingBundle.Log

/-- A character in a JSON string. -/
def jsonChar (c : Char) : Text :=
  match c with
  | '"' => ['\\', '"']
  | '\\' => ['\\', '\\']
  | '\n' => ['\\', 'n']
  | '\r' => ['\\', 'r']
  | '\t' => ['\\', 't']
  | c =>
    if c.toNat < 0x20 then
      ['\\', 'u', '0', '0', Nat.digitChar (c.toNat / 16), Nat.digitChar (c.toNat % 16)]
    else [c]

/-- A text as a JSON string. -/
def jsonString (text : Text) : Text := ['"'] ++ text.flatMap jsonChar ++ ['"']

/-- A value in JSON. -/
def Value.json : Value → Text
  | text t => jsonString t
  | number n => Text.ofNat n

/-- Named values as a JSON object. -/
def jsonObject (fields : List (String × Text)) : Text :=
  ['\x7b'] ++ Text.join [','] (fields.map fun (name, value) =>
    jsonString name.toList ++ [':'] ++ value) ++ ['\x7d']

/-- An event as one line. -/
def Event.line (format : Format) (e : Event) : Text :=
  match format with
  | .json =>
    jsonObject [("level", jsonString e.level.name.toList),
      ("fields", jsonObject (("message", jsonString e.message.toList) ::
        e.fields.map fun (name, value) => (name, value.json))),
      ("target", jsonString e.target.toList)]
  | _ =>
    Text.join [' '] (e.level.name.toList :: e.message.toList ::
      e.fields.map fun (name, value) => name.toList ++ ['='] ++ value.shown)

end TypingBundle.Log
