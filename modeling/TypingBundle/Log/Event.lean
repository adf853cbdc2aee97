import TypingBundle.Text.Basic

/-!
Events that a run reports: how important they are, which part of the program they come from, and
what they say.
-/

namespace TypingBundle.Log

/-- How important an event is, the most important first. -/
inductive Level where
  | error
  | warn
  | info
  | debug
  | trace
deriving DecidableEq

namespace Level

/-- The position of a level; a higher one is less important. -/
def rank : Level → Nat
  | error => 1
  | warn => 2
  | info => 3
  | debug => 4
  | trace => 5

/-- The name of a level. -/
def name : Level → String
  | error => "ERROR"
  | warn => "WARN"
  | info => "INFO"
  | debug => "DEBUG"
  | trace => "TRACE"

/-- The level of a name, without regard to case. -/
def ofName? (name : Text) : Option Level :=
  match String.ofList (Text.lowerAscii name) with
  | "error" => some error
  | "warn" => some warn
  | "info" => some info
  | "debug" => some debug
  | "trace" => some trace
  | _ => none

end Level

/-- The value of a field. -/
inductive Value where
  | text (text : Text)
  | number (n : Nat)
deriving DecidableEq

namespace Value

/-- A value as text. -/
def shown : Value → Text
  | text t => t
  | number n => Text.ofNat n

end Value

/-- One report. -/
structure Event where
  level : Level
  /-- The part of the program that reports. -/
  target : String
  message : String
  fields : List (String × Value)
deriving DecidableEq

/-- The events up to a level. -/
def upTo (level : Level) (events : List Event) : List Event :=
  events.filter fun e => e.level.rank ≤ level.rank

end TypingBundle.Log
