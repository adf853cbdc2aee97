import TypingBundle.Pattern.Glob
import TypingBundle.Pattern.Regex

/-!
The filter that keeps dependencies out of a bundle. It sees the path of a dependency as written
from the base directory, and whether it was reached by the name of a module.
-/

namespace TypingBundle

/-- Which dependencies to leave out. -/
inductive Exclude where
  /-- Leaves out none. -/
  | nothing
  /-- Leaves out paths that hold a match of an expression, which is kept as it was written. -/
  | regex (source : Text) (expr : Pattern.Expr Char)
  /-- Leaves out paths that a glob matches as a whole. -/
  | glob (source : Text) (expr : Pattern.Expr Pattern.Glob.Byte)
  /-- Decides by the path and by whether it was reached by the name of a module. -/
  | custom (leavesOut : (path : Text) → (external : Bool) → Bool)

namespace Exclude

/-- The filter of a regular expression, if it is well formed. -/
def ofRegex? (source : Text) : Option Exclude := (Pattern.Regex.parse? source).map (regex source)

/-- The filter of a glob, if it is well formed. -/
def ofGlob? (source : Text) : Option Exclude := (Pattern.Glob.parse? source).map (glob source)

/-- Whether a dependency is left out. -/
def leavesOut (filter : Exclude) (path : Text) (external : Bool) : Bool :=
  match filter with
  | nothing => false
  | regex _ expr => expr.matchesWithin path
  | glob _ expr => expr.matchesWhole (Pattern.Glob.bytes path)
  | custom decide => decide path external

/-- The filter as it is shown. -/
def shown : Exclude → Text
  | nothing => "None".toList
  | regex source _ => "Regex(".toList ++ source ++ [')']
  | glob source _ => "Glob(".toList ++ source ++ [')']
  | custom _ => "Func(..)".toList

end Exclude
end TypingBundle
