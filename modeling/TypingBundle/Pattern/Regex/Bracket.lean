import TypingBundle.Pattern.Regex.Escape

/-!
Classes in brackets: characters, ranges, named and nested classes, and operations between these.
-/

namespace TypingBundle.Pattern.Regex

open TypingBundle.Text (CharSet)

/-- A named ASCII class, which stands in `[:` and `:]`: its set, whether it is negated, and the
rest. -/
def namedClass? (text : Text) : Option ((Bool × CharSet) × Text) := do
  let text ← Text.dropStart? ['[', ':'] text
  let (negated, text) := match text with
    | '^' :: text => (true, text)
    | text => (false, text)
  let rest ← Text.dropStart? [':', ']'] (text.dropWhile (· ≠ ':'))
  let set ← ClassName.asciiClass? (String.ofList (text.takeWhile (· ≠ ':')))
  some ((negated, set), rest)

/-- One character or class inside brackets; without Unicode, characters must be ASCII. -/
def classAtom? (flags : Flags) (text : Text) : Option (Atom × Text) := do
  let (atom, rest) ← match text with
    | [] => none
    | '\\' :: text => escape? flags text
    | c :: text => some (.char c, text)
  match atom with
  | .char c => if flags.unicode || c.toNat < 128 then some (atom, rest) else none
  | _ => some (atom, rest)

/-- The first character after blank space, and after a `#` among it, or else the first character
at all. -/
def peekFrom (first : Option Char) (inComment : Bool) : Text → Option Char
  | [] => first
  | c :: text =>
    if Text.isBlank c then peekFrom first inComment text
    else if !inComment && c = '#' then peekFrom first true text
    else some c

/-- The character that decides whether a hyphen before it makes a range. -/
def peek (flags : Flags) (text : Text) : Option Char :=
  if flags.verbose then peekFrom text.head? false text else text.head?

/-- An item of a class: a range, a character or a class. -/
def classItem? (flags : Flags) (text : Text) : Option (CharSet × Text) := do
  let (atom, rest) ← classAtom? flags text
  let rest := skipBlank flags rest
  let alone := match atom with
    | .char c => some (CharSet.single c, rest)
    | .set set => some (set, rest)
    | .look _ => none
  match rest with
  | [] => none
  | '-' :: after =>
    if peek flags after = some ']' || peek flags after = some '-' then alone
    else match atom, ← classAtom? flags (skipBlank flags after) with
      | .char low, (.char high, rest) =>
        if low.toNat ≤ high.toNat then some (CharSet.range low.toNat high.toNat, rest) else none
      | _, _ => none
  | _ => alone

/-- Operations between the parts of a class. -/
inductive ClassOp where
  | intersection
  | difference
  | symmetricDifference

/-- The set of an operation. -/
def ClassOp.apply : ClassOp → CharSet → CharSet → CharSet
  | intersection => CharSet.intersection
  | difference => CharSet.difference
  | symmetricDifference => CharSet.symmetricDifference

/-- The operation written at the beginning of a text. -/
def classOp? (text : Text) : Option (ClassOp × Text) :=
  match text with
  | '&' :: '&' :: rest => some (.intersection, rest)
  | '-' :: '-' :: rest => some (.difference, rest)
  | '~' :: '~' :: rest => some (.symmetricDifference, rest)
  | _ => none

/-- A class or a part of one, and how deep other classes are nested in it. -/
structure ClassPart where
  set : CharSet
  depth : Nat

/-- Items of a class that stand side by side: their union, how many there are, and the depth of the
deepest. -/
structure ClassItems where
  set : CharSet
  count : Nat
  deepest : Nat

namespace ClassItems

/-- No items. -/
def none : ClassItems := ⟨.empty, 0, 0⟩

/-- The items with one more. -/
def push (items : ClassItems) (part : ClassPart) : ClassItems :=
  ⟨items.set.union part.set, items.count + 1, max items.deepest part.depth⟩

/-- The items as one part; more than one are nested in it. -/
def part (items : ClassItems) : ClassPart :=
  ⟨items.set, if items.count < 2 then items.deepest else items.deepest + 1⟩

end ClassItems

/-- The items after the last operation, joined to what stands before it. -/
def applyOp (flags : Flags) (pending : Option (ClassOp × ClassPart)) (items : ClassItems) :
    ClassPart :=
  match pending with
  | none => items.part
  | some (op, left) =>
    ⟨op.apply (flags.folded left.set) (flags.folded items.set),
      max left.depth items.part.depth + 1⟩

/-- The hyphens at the beginning of a class, or a closing bracket there, stand for themselves. -/
def classStart (flags : Flags) (text : Text) : ClassItems × Text :=
  let (hyphens, rest) := span flags (· = '-') text
  match hyphens, rest with
  | [], ']' :: rest => (ClassItems.none.push ⟨.single ']', 0⟩, skipBlank flags rest)
  | hyphens, rest => (hyphens.foldl (fun items c => items.push ⟨.single c, 0⟩) .none, rest)

mutual

/-- A class after its opening bracket, and the rest after its closing bracket. -/
def classBody? (flags : Flags) : (rounds : Nat) → Text → Option (ClassPart × Text)
  | 0, _ => none
  | rounds + 1, text =>
    let (negated, text) := match skipBlank flags text with
      | '^' :: text => (true, skipBlank flags text)
      | text => (false, text)
    let (items, text) := classStart flags text
    match classRest? flags rounds none items text with
    | some (part, rest) =>
      (flags.class? negated part.set).map fun set => (⟨set, part.depth + 1⟩, rest)
    | none => none

/-- The items of a class up to its closing bracket. Every round reads at least one character. -/
def classRest? (flags : Flags) (rounds : Nat) (pending : Option (ClassOp × ClassPart))
    (items : ClassItems) (text : Text) : Option (ClassPart × Text) :=
  match rounds with
  | 0 => none
  | rounds + 1 =>
    match skipBlank flags text with
    | [] => none
    | ']' :: rest => some (applyOp flags pending items, rest)
    | '[' :: rest =>
      match namedClass? ('[' :: rest) with
      | some ((negated, set), rest) =>
        match flags.class? negated set with
        | some set => classRest? flags rounds pending (items.push ⟨set, 0⟩) rest
        | none => none
      | none =>
        match classBody? flags rounds rest with
        | some (inner, rest) => classRest? flags rounds pending (items.push inner) rest
        | none => none
    | text =>
      match classOp? text with
      | some (op, rest) => classRest? flags rounds (some (op, applyOp flags pending items)) .none rest
      | none =>
        match classItem? flags text with
        | some (item, rest) => classRest? flags rounds pending (items.push ⟨item, 0⟩) rest
        | none => none

end

end TypingBundle.Pattern.Regex
