import TypingBundle.Pattern.Regex.Bracket
import TypingBundle.Pattern.Regex.Size
import TypingBundle.Text.Recent

/-!
Regular expressions as they are written: literals, classes, groups with flags, alternatives,
repetitions and assertions. There are no back-references and no look-around, so an expression that
is accepted can always be matched in polynomial time.

Main definition: `Regex.parse?`, which gives the expression or refuses the text.
-/

namespace TypingBundle.Pattern.Regex

/-! ### Parts -/

/-- A finished part of an expression, and how deep its parts are nested. -/
structure Part where
  tree : Tree
  depth : Nat

/-- One member of a sequence: a part, or a change of flags that can not be repeated. -/
inductive Item where
  | part (part : Part)
  | flags

/-- The depth of the deepest part. -/
def deepest (parts : List Part) : Nat := (parts.map Part.depth).foldl max 0

/-- The parts of a sequence put together; the members are given in reverse. -/
def joinItems (items : List Item) : Part :=
  let parts := items.reverse.filterMap fun
    | .part p => some p
    | .flags => none
  ⟨Tree.concat (parts.map Part.tree), if items.length < 2 then deepest parts else deepest parts + 1⟩

/-- Alternatives put together; all but the last are given in reverse. -/
def joinBranches (branches : List Part) (last : Part) : Part :=
  if branches.isEmpty then last
  else
    let parts := (last :: branches).reverse
    ⟨Tree.choice (parts.map Part.tree), deepest parts + 1⟩

/-- What surrounds an open group. -/
structure Frame where
  flags : Flags
  /-- Whether the group keeps what it matched. -/
  captures : Bool
  branches : List Part
  items : List Item

/-- What an atom outside brackets turns into. -/
def atomTree (flags : Flags) : Atom → Tree
  | .char c => flags.char c
  | .set members => .ofSet members
  | .look assertion => .look assertion

/-! ### Groups -/

/-- The flags of a group that are read letter by letter up to `:` or `)`; `seen` holds the letters
so far and `on` whether they switch on. -/
def flagLetters? (flags : Flags) (seen : Text) (on : Bool) : Text → Option (Flags × Text × Text)
  | [] => none
  | c :: rest =>
    if c = ':' || c = ')' then
      if seen.head? = some '-' then none else some (flags, seen, c :: rest)
    else if c ∈ seen then none
    else if c = '-' then flagLetters? flags (c :: seen) false rest
    else match flags.switch? c on with
      | some flags => flagLetters? flags (c :: seen) on rest
      | none => none

/-- Whether a group name can begin with a character. -/
def startsGroupName (c : Char) : Bool := c = '_' || Text.isAlphabetic c

/-- Whether a group name can go on with a character. -/
def continuesGroupName (c : Char) : Bool :=
  startsGroupName c || c ∈ ['.', '[', ']'] || Text.isNumeric c

/-- The name of a group, which ends with `>`. -/
def groupName? (text : Text) : Option (Text × Text) :=
  let name := text.takeWhile (· ≠ '>')
  match text.dropWhile (· ≠ '>'), name with
  | _ :: rest, c :: more =>
    if startsGroupName c && more.all continuesGroupName then some (name, rest) else none
  | _, _ => none

/-- What an opening bracket begins. -/
inductive Opening where
  /-- A group that keeps what it matched, with its name if it has one. -/
  | capture (name : Option Text)
  /-- A group with the flags inside. -/
  | group (inside : Flags)
  /-- A change of flags for the rest of the group. -/
  | flags (onwards : Flags)

/-- Reads on after an opening bracket. -/
def opening? (flags : Flags) (text : Text) : Option (Opening × Text) :=
  match skipBlank flags text with
  | '?' :: '=' :: _ => none
  | '?' :: '!' :: _ => none
  | '?' :: '<' :: '=' :: _ => none
  | '?' :: '<' :: '!' :: _ => none
  | '?' :: 'P' :: '<' :: rest => (groupName? rest).map fun (name, rest) => (.capture name, rest)
  | '?' :: '<' :: rest => (groupName? rest).map fun (name, rest) => (.capture name, rest)
  | '?' :: rest =>
    match flagLetters? flags [] true rest with
    | some (_, [], ')' :: _) => none
    | some (flags, _, ')' :: rest) => some (.flags flags, rest)
    | some (flags, _, _ :: rest) => some (.group flags, rest)
    | _ => none
  | rest => some (.capture none, rest)

/-! ### Repetitions -/

/-- A decimal number with blank space around it, if there is one. -/
def decimal (flags : Flags) (text : Text) : Option Nat × Text :=
  let (digits, rest) := span flags Char.isDigit (text.dropWhile Text.isBlank)
  let rest := rest.dropWhile Text.isBlank
  if digits.isEmpty then (none, rest)
  else (some (digits.foldl (fun n c => n * 10 + (c.toNat - 48)) 0), rest)

/-- Counts of repetitions are below this bound. -/
def countBound : Nat := 0x100000000

/-- The bounds of a counted repetition after its opening brace: the least count, and the greatest
if there is one. -/
def counts? (flags : Flags) (text : Text) : Option ((Nat × Option Nat) × Text) := do
  let (low, rest) := decimal flags (skipBlank flags text)
  let low ← low
  let (high, rest) ← match rest with
    | ',' :: rest =>
      match skipBlank flags rest with
      | '\x7d' :: rest => some (none, '\x7d' :: rest)
      | rest =>
        let (high, rest) := decimal flags rest
        high.map fun high => (some high, rest)
    | rest => some (some low, rest)
  let rest ← Text.dropStart? ['\x7d'] rest
  if low < countBound && low ≤ high.getD low && high.getD 0 < countBound then
    some ((low, high), skipBlank flags rest)
  else none

/-- The last member repeated; without a member, or after a change of flags, there is nothing to
repeat. -/
def repeatLast? (low : Nat) (high : Option Nat) : List Item → Option (List Item)
  | .part p :: items => some (.part ⟨p.tree.repeated low high, p.depth + 1⟩ :: items)
  | _ => none

/-- A question mark after a repetition only changes which match is preferred. -/
def skipLazy : Text → Text
  | '?' :: rest => rest
  | rest => rest

/-! ### The whole expression -/

/-- Parts are nested at most this deep. -/
def depthLimit : Nat := 250

/-- Reads the rest of an expression inside the open groups of `frames`. Every round reads at least
one character. -/
def rest? (rounds : Nat) (names : List Text) (flags : Flags) (frames : List Frame)
    (branches : List Part) (items : List Item) (text : Text) : Option Part :=
  match rounds with
  | 0 => none
  | rounds + 1 =>
    let continued := fun (items : Option (List Item)) (text : Text) =>
      items.bind fun items => rest? rounds names flags frames branches items text
    let put := fun (tree : Option Tree) (depth : Nat) (text : Text) =>
      tree.bind fun tree =>
        rest? rounds names flags frames branches (.part ⟨tree, depth⟩ :: items) text
    match skipBlank flags text with
    | [] => if frames.isEmpty then some (joinBranches branches (joinItems items)) else none
    | '(' :: text =>
      match opening? flags text with
      | some (.flags onwards, text) =>
        rest? rounds names onwards frames branches (.flags :: items) text
      | some (.group inside, text) =>
        rest? rounds names inside (⟨flags, false, branches, items⟩ :: frames) [] [] text
      | some (.capture name, text) =>
        if name.any (· ∈ names) then none
        else rest? rounds (name.toList ++ names) flags (⟨flags, true, branches, items⟩ :: frames)
          [] [] text
      | none => none
    | ')' :: text =>
      match frames with
      | [] => none
      | frame :: frames =>
        let inner := joinBranches branches (joinItems items)
        let tree := if frame.captures then .capture inner.tree else inner.tree
        rest? rounds names frame.flags frames frame.branches
          (.part ⟨tree, inner.depth + 1⟩ :: frame.items) text
    | '|' :: text => rest? rounds names flags frames (joinItems items :: branches) [] text
    | '[' :: text =>
      match classBody? flags (2 * text.length + 2) text with
      | some (part, text) => put (some (.ofSet part.set)) part.depth text
      | none => none
    | '?' :: text => continued (repeatLast? 0 (some 1) items) (skipLazy text)
    | '*' :: text => continued (repeatLast? 0 none items) (skipLazy text)
    | '+' :: text => continued (repeatLast? 1 none items) (skipLazy text)
    | '\x7b' :: text =>
      match counts? flags text with
      | some ((low, high), text) => continued (repeatLast? low high items) (skipLazy text)
      | none => none
    | '\\' :: text =>
      match escape? flags text with
      | some (atom, text) => put (some (atomTree flags atom)) 0 text
      | none => none
    | '.' :: text => put flags.dot? 0 text
    | '^' :: text => put (some (.look flags.lineStart)) 0 text
    | '$' :: text => put (some (.look flags.lineEnd)) 0 text
    | c :: text => put (some (flags.char c)) 0 text

/-- The tree of an expression, if it is well formed and keeps to the limits. -/
def tree? (text : Text) : Option Tree :=
  (rest? (text.length + 1) [] Flags.initial [] [] [] text).bind fun part =>
    if part.depth ≤ depthLimit && part.tree.fits then some part.tree else none

/-- The expression that a text stands for, if it is well formed and keeps to the limits. -/
def parse? (text : Text) : Option (Expr Char) := (tree? text).map Tree.expr

end TypingBundle.Pattern.Regex
