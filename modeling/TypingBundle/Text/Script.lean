import TypingBundle.Text.CharSet
import TypingBundle.Text.ScriptRuns

/-!
Scripts: the one that a character belongs to, and all those that use it.
-/

namespace TypingBundle.Text

/-- Reads runs of scripts: `length` is the number read so far, and `first` where the next run
begins. -/
def readScriptRuns : (length first : Nat) → Text → List (Nat × Text)
  | length, first, a :: b :: c :: d :: text =>
    if a.isDigit then readScriptRuns (length * 10 + (a.toNat - 48)) first (b :: c :: d :: text)
    else (first, [a, b, c, d]) :: readScriptRuns 0 (first + max length 1) text
  | _, _, _ => []

/-- The first code point and the script of each run. -/
def scriptStarts : List (Nat × Text) := readScriptRuns 0 0 (scriptRuns.flatMap String.toList)

/-- The places of a table of runs where membership in a script changes; `inside` tells whether the
run before belongs to it. -/
def scriptPlaces (letters : Text) (inside : Bool) : List (Nat × Text) → List Nat
  | [] => []
  | (start, found) :: runs =>
    if (found == letters) = inside then scriptPlaces letters inside runs
    else start :: scriptPlaces letters (!inside) runs

/-- The code points of a script, by its four letters. -/
def CharSet.ofScript (letters : String) : CharSet :=
  ⟨scriptPlaces letters.toList false scriptStarts⟩

/-- Whether four letters are among those of some scripts, which stand without separators. -/
def namesScript (letters : Text) : Text → Bool
  | a :: b :: c :: d :: rest => [a, b, c, d] == letters || namesScript letters rest
  | _ => false

/-- The code points that a script uses, by its four letters: those of the script itself that are
not given to others, and those of other scripts that are given to it. -/
def CharSet.usedByScript (letters : String) : CharSet :=
  let given := scriptExtensions.filter fun (_, _, users) => namesScript letters.toList users.toList
  let set := fun (table : List (Nat × Nat × String)) =>
    CharSet.ofRanges (table.map fun (low, high, _) => (low, high))
  ((CharSet.ofScript letters).difference (set scriptExtensions)).union (set given)

/-- The four letters of the script of a name, which may be those letters themselves. Two scripts
have further letters. -/
def scriptNamed? (key : String) : Option String :=
  let key := if key = "qaai" then "zinh" else if key = "qaac" then "copt" else key
  let found := scriptNames.find? fun (letters, name) =>
    name = key || lowerAscii letters.toList = key.toList
  found.map Prod.fst

end TypingBundle.Text
