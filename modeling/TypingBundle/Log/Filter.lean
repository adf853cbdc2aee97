import TypingBundle.Log.Event
import TypingBundle.Text.Recent

/-!
Which events are written. A filter is a list of directives such as `warn,dtsb_core=debug`: a level,
for everything or for the parts of the program whose name begins with a target, and for all events
or for those with a field. Of several directives that concern an event, the most specific one
decides.
-/

namespace TypingBundle.Log

/-- A directive: the events up to a rank, of the parts whose name begins with a target, that have a
field. -/
structure Directive where
  target : Option Text
  field : Option Text
  rank : Nat
deriving DecidableEq

/-- The directives in force. -/
structure Filter where
  directives : List Directive

/-- The rank that a number stands for, which may have a sign and leading zeros. -/
def rankOfNumber? (text : Text) : Option Nat :=
  let digits := (Text.dropStart? ['+'] text).getD text
  let value := digits.foldl (fun n c => n * 10 + (c.toNat - 48)) 0
  if digits ≠ [] && digits.all Char.isDigit && value ≤ 5 then some value else none

/-- The rank that a level stands for, by name or by number; `off` stands for none. -/
def rankOf? (level : Text) : Option Nat :=
  if Text.lowerAscii level = "off".toList then some 0
  else (rankOfNumber? level).or ((Level.ofName? level).map Level.rank)

namespace Directive

/-- What one part of a filter asks for. -/
inductive Parsed where
  | directive (directive : Directive)
  /-- A condition on spans of time or on values, which no event of a run meets. -/
  | span
  | ignored

/-- A part of a filter. Marks are looked for in the part without the blank space around it, but the
part is cut with that space at the places where they were found. -/
structure Part where
  whole : Text
  trimmed : Text

namespace Part

/-- How many characters of the trimmed part from a place on are none of some marks. -/
def lengthUpTo (part : Part) (place : Nat) (marks : List Char) : Nat :=
  ((part.trimmed.drop place).takeWhile (· ∉ marks)).length

/-- The mark at a place. -/
def mark? (part : Part) (place : Nat) : Option Char := part.trimmed[place]?

/-- The text from one place to another. -/
def slice (part : Part) (first last : Nat) : Text := (part.whole.take last).drop first

/-- The rank after the target and the fields, if nothing else stands there. Without a level every
event is asked for. -/
def rankAt? (part : Part) (place : Nat) : Option Nat :=
  match part.mark? place with
  | none => some Level.trace.rank
  | some '=' =>
    match part.whole.drop (place + 1) with
    | [] => some Level.trace.rank
    | level => rankOf? level
  | some _ => none

/-- Reads a condition in square brackets: the name of a span, which may be left out, and a field in
braces, which may be left out and may have a value. -/
def condition (part : Part) (target : Option Text) (place : Nat) : Parsed :=
  let close := place + part.lengthUpTo place [']', '\x7b']
  match part.mark? close with
  | some ']' => if (part.rankAt? (close + 1)).isSome then .span else .ignored
  | some _ =>
    let first := close + 1
    let last := first + part.lengthUpTo first ['\x7d']
    let field := part.slice first last
    if part.mark? (last + 1) ≠ some ']' || field = [] then .ignored
    else match part.rankAt? (last + 2) with
      | none => .ignored
      | some rank =>
        if part.slice place close ≠ [] || '=' ∈ field then .span
        else .directive ⟨target, some field, rank⟩
  | none => .ignored

end Part

/-- Whether a target can begin with a character. -/
def startsTarget (c : Char) : Bool :=
  c ∈ ['-', ':', '_'] || Text.isAlphabetic c || Text.isNumeric c

/-- Reads one part of a filter. What can not be read is ignored. -/
def parse (whole : Text) : Parsed :=
  let part : Part := ⟨whole, Text.trim whole⟩
  match part.trimmed with
  | [] => .ignored
  | '[' :: _ => part.condition none 1
  | c :: _ =>
    let place := part.lengthUpTo 0 ['=', '[']
    if !startsTarget c then .ignored
    else match part.mark? place with
      | none =>
        match rankOf? whole with
        | some rank => .directive ⟨none, none, rank⟩
        | none => .directive ⟨some whole, none, Level.trace.rank⟩
      | some '[' => part.condition (part.slice 0 place) (place + 1)
      | some _ =>
        match part.rankAt? place with
        | some rank => .directive ⟨some (part.slice 0 place), none, rank⟩
        | none => .ignored

/-- Whether a directive concerns an event. Every event has a message. -/
def concerns (d : Directive) (e : Event) : Bool :=
  let has := fun (field : Text) =>
    field = "message".toList || e.fields.any fun (name, _) => name.toList = field
  d.target.all (Text.startsWith · e.target.toList) && d.field.all has

/-- Whether the second directive goes before the first: it has a longer target, or as long a one and
a field more, or else the later name of a field, or it is the same but for its rank. -/
def yields (d other : Directive) : Bool :=
  let length := fun (d : Directive) => (d.target.map fun t => t.length + 1).getD 0
  if length d ≠ length other then length d < length other
  else match d.field, other.field with
    | some _, none => false
    | some a, some b => a = b || Text.before a b
    | none, _ => true

end Directive

namespace Filter

/-- The filter of a list of directives. Where none can be read, only errors are written. -/
def parse (text : Text) : Filter :=
  let parsed := ((Text.split ',' text).filter (· ≠ [])).map Directive.parse
  let directives := parsed.filterMap fun
    | .directive d => some d
    | _ => none
  let spans := parsed.any fun
    | .span => true
    | _ => false
  ⟨if directives.isEmpty && !spans then [⟨none, none, Level.error.rank⟩] else directives⟩

/-- The directive that decides about an event: the most specific one, and of equal ones the last. -/
def decisive? (f : Filter) (e : Event) : Option Directive :=
  (f.directives.filter (·.concerns e)).foldl (fun best d => match best with
    | none => some d
    | some b => if b.yields d then some d else some b) none

/-- Whether an event is written. -/
def admits (f : Filter) (e : Event) : Bool :=
  (f.decisive? e).any fun d => e.level.rank ≤ d.rank

end Filter

/-- What is written without another wish. -/
def defaultDirectives (verbose : Bool) : Text :=
  if verbose then "warn,dtsb_core=debug,dtsb_cli=debug".toList else "warn".toList

/-- How events are written. -/
inductive Format where
  | text
  | tree
  | json
deriving DecidableEq

/-- The format of a name, without regard to case; any other name stands for plain text. -/
def Format.parse (name : Text) : Format :=
  match String.ofList (Text.lowerAscii name) with
  | "tree" => .tree
  | "json" => .json
  | _ => .text

end TypingBundle.Log
