import TypingBundle.Json.Token

/-!
JSON values and how they are put together from words. Words are taken one after another: what is
open so far is a stack of unfinished arrays and objects, and each word either opens one, closes one
or completes a value in the innermost.

Main statement: an object has each key once.
-/

namespace TypingBundle.Json

/-- A JSON value. The members of an object keep their order. -/
inductive Value where
  | null
  | bool (value : Bool)
  | number (value : Numeral)
  | string (value : Text)
  | array (items : List Value)
  | object (members : List (Text × Value))

/-- Members with one set: a known key keeps its place and gets the new value. -/
def setMember (key : Text) (value : Value) : List (Text × Value) → List (Text × Value)
  | [] => [(key, value)]
  | (k, v) :: rest => if k = key then (key, value) :: rest else (k, v) :: setMember key value rest

/-- The value of a key. -/
def member? (key : Text) (members : List (Text × Value)) : Option Value :=
  (members.find? fun m => m.1 = key).map Prod.snd

/-- An array or an object that is not closed yet. -/
inductive Frame where
  | array (items : List Value)
  | object (members : List (Text × Value))
  /-- An object with a key whose value is still to come. -/
  | pending (members : List (Text × Value)) (key : Text)

/-- What can come next. -/
inductive Awaited where
  | value
  /-- After an opening bracket. -/
  | itemOrEnd
  /-- After an opening brace. -/
  | keyOrEnd
  | key
  | colon
  /-- After a value in an array or an object. -/
  | commaOrEnd

/-- How far a text is read. -/
inductive Progress where
  | done (value : Value)
  | awaiting (awaited : Awaited) (frames : List Frame)

namespace Progress

/-- How deep arrays and objects may stand in each other. -/
def maxDepth : Nat := 127

/-- A value that is complete goes to the innermost frame. -/
def deliver (value : Value) : List Frame → Option Progress
  | [] => some (.done value)
  | .array items :: frames => some (.awaiting .commaOrEnd (.array (items ++ [value]) :: frames))
  | .pending members key :: frames =>
    some (.awaiting .commaOrEnd (.object (setMember key value members) :: frames))
  | .object _ :: _ => none

/-- Opens an array or an object, unless too many are open. -/
def enter (awaited : Awaited) (frame : Frame) (frames : List Frame) : Option Progress :=
  if frames.length < maxDepth then some (.awaiting awaited (frame :: frames)) else none

/-- Takes the first word of a value. -/
def beginValue (frames : List Frame) : Token → Option Progress
  | .null => deliver .null frames
  | .bool b => deliver (.bool b) frames
  | .number n => deliver (.number n) frames
  | .string s => deliver (.string s) frames
  | .openBracket => enter .itemOrEnd (.array []) frames
  | .openBrace => enter .keyOrEnd (.object []) frames
  | _ => none

/-- Takes a key. -/
def beginMember : List Frame → Token → Option Progress
  | .object members :: frames, .string key =>
    some (.awaiting .colon (.pending members key :: frames))
  | _, _ => none

/-- Closes the innermost frame. -/
def close : List Frame → Token → Option Progress
  | .array items :: frames, .closeBracket => deliver (.array items) frames
  | .object members :: frames, .closeBrace => deliver (.object members) frames
  | _, _ => none

/-- Takes a comma or the end of the innermost frame. -/
def afterValue : List Frame → Token → Option Progress
  | .array items :: frames, .comma => some (.awaiting .value (.array items :: frames))
  | .object members :: frames, .comma => some (.awaiting .key (.object members :: frames))
  | frames, token => close frames token

/-- Takes one word. -/
def step : Progress → Token → Option Progress
  | .done _, _ => none
  | .awaiting .value frames, token => beginValue frames token
  | .awaiting .itemOrEnd frames, .closeBracket => close frames .closeBracket
  | .awaiting .itemOrEnd frames, token => beginValue frames token
  | .awaiting .keyOrEnd frames, .closeBrace => close frames .closeBrace
  | .awaiting .keyOrEnd frames, token => beginMember frames token
  | .awaiting .key frames, token => beginMember frames token
  | .awaiting .colon frames, .colon => some (.awaiting .value frames)
  | .awaiting .colon _, _ => none
  | .awaiting .commaOrEnd frames, token => afterValue frames token

end Progress

namespace Value

/-- The value that words spell. -/
def ofTokens? (tokens : List Token) : Option Value :=
  match tokens.foldlM Progress.step (.awaiting .value []) with
  | some (.done value) => some value
  | _ => none

/-- The value that a text spells. -/
def parse? (text : Text) : Option Value := (Token.all? text).bind ofTokens?

end Value

/-- Setting a member adds a key at most once, at the end. -/
theorem keys_setMember (key : Text) (value : Value) (members : List (Text × Value)) :
    (setMember key value members).map Prod.fst =
      if key ∈ members.map Prod.fst then members.map Prod.fst
      else members.map Prod.fst ++ [key] := by
  induction members with
  | nil => rfl
  | cons head rest ih =>
    obtain ⟨k, v⟩ := head
    by_cases same : k = key
    · simp [setMember, same]
    · simp only [setMember, if_neg same, List.map_cons, ih, List.mem_cons, Ne.symm same, false_or]
      split <;> simp

/-- A member that was set is found. -/
theorem member?_setMember_self (key : Text) (value : Value) (members : List (Text × Value)) :
    member? key (setMember key value members) = some value := by
  induction members with
  | nil => simp [setMember, member?]
  | cons head rest ih =>
    obtain ⟨k, v⟩ := head
    by_cases same : k = key
    · simp [setMember, member?, same]
    · simpa [setMember, member?, same] using ih

/-- Setting a member leaves all others as they are. -/
theorem member?_setMember_ne {key other : Text} (different : key ≠ other) (value : Value)
    (members : List (Text × Value)) :
    member? other (setMember key value members) = member? other members := by
  induction members with
  | nil => simp [setMember, member?, different]
  | cons head rest ih =>
    obtain ⟨k, v⟩ := head
    by_cases same : k = key
    · simp [setMember, member?, same, different]
    · by_cases found : k = other
      · simp [setMember, member?, found, Ne.symm different]
      · simpa [setMember, member?, same, found] using ih

end TypingBundle.Json
