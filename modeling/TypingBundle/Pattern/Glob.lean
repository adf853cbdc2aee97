import TypingBundle.Pattern.Expr
import TypingBundle.Text.Basic

/-!
Globs: path patterns with `?`, `*`, `**`, classes in brackets and alternatives in braces. They are
matched against the UTF-8 bytes of a whole path, so `?` stands for one byte, and `*` also runs over
slashes.
-/

namespace TypingBundle.Pattern.Glob

/-- A byte of a path. -/
abbrev Byte := UInt8

/-- The parts of a glob, in which `**` between slashes has a meaning of its own. -/
inductive Token where
  | literal (c : Char)
  /-- `?`: one byte. -/
  | any
  /-- `*`: any bytes. -/
  | zeroOrMore
  /-- `**` at the beginning, with the slash after it. -/
  | recursiveStart
  /-- `**` at the end, with the slash before it. -/
  | recursiveEnd
  /-- `**` between two slashes, which belong to it. -/
  | recursiveInside
  | class (negated : Bool) (ranges : List (Char × Char))
  | alternatives (branches : List (List Token))

/-- The UTF-8 bytes of a character. -/
def bytesOf (c : Char) : List Byte := String.utf8EncodeChar c

/-- The slash as a byte. -/
def slash : Byte := 47

def anyByte : Expr Byte := .one fun _ => true
def oneByte (b : Byte) : Expr Byte := .one (· == b)

/-- The byte ranges of a range of characters: its first and last bytes bound one range, and the
other bytes of both ends stand alone. -/
def byteRanges (low high : Char) : List (Byte × Byte) :=
  let lows := bytesOf low
  let highs := bytesOf high
  if low = high then lows.map fun b => (b, b)
  else (lows.dropLast.map fun b => (b, b)) ++ [(lows.getLastD 0, highs.headD 0)] ++
    (highs.drop 1).map fun b => (b, b)

/-- A class of bytes. -/
def classExpr (negated : Bool) (ranges : List (Char × Char)) : Expr Byte :=
  let bytes := ranges.flatMap fun (low, high) => byteRanges low high
  .one fun b => (bytes.any fun (low, high) => low ≤ b && b ≤ high) != negated

mutual

/-- The expression of one token; `none` stands for alternatives that are all empty. -/
def Token.expr? : Token → Option (Expr Byte)
  | .literal c => some (Expr.sequence ((bytesOf c).map oneByte))
  | .any => some anyByte
  | .zeroOrMore => some (.star anyByte)
  | .recursiveStart =>
    some (.alt (.upTo (oneByte slash) 1) (.seq (.star anyByte) (oneByte slash)))
  | .recursiveEnd => some (.seq (oneByte slash) (.star anyByte))
  | .recursiveInside =>
    some (.alt (oneByte slash) (.seq (oneByte slash) (.seq (.star anyByte) (oneByte slash))))
  | .class negated ranges => some (classExpr negated ranges)
  | .alternatives branches =>
    match branchExprs branches with
    | [] => none
    | exprs => some (Expr.choice exprs)

/-- The expressions of the tokens of a branch. -/
def tokenExprs : List Token → List (Expr Byte)
  | [] => []
  | token :: tokens => token.expr?.toList ++ tokenExprs tokens

/-- The expressions of the branches that are not empty. -/
def branchExprs : List (List Token) → List (Expr Byte)
  | [] => []
  | branch :: branches =>
    match tokenExprs branch with
    | [] => branchExprs branches
    | exprs => Expr.sequence exprs :: branchExprs branches

end

/-- The ranges of a class after its opening bracket, and the rest. `ranges` holds what was read, in
reverse; `waiting` says whether a hyphen waits for the end of a range. -/
def classRanges? (first waiting : Bool) (ranges : List (Char × Char)) :
    Text → Option (List (Char × Char) × Text)
  | [] => none
  | c :: rest =>
    if c = ']' && !first then
      some ((if waiting then ('-', '-') :: ranges else ranges).reverse, rest)
    else if c = '-' && !first && !waiting then classRanges? false true ranges rest
    else match waiting, ranges with
      | true, (low, _) :: ranges =>
        if c.toNat < low.toNat then none else classRanges? false false ((low, c) :: ranges) rest
      | _, _ => classRanges? false false ((c, c) :: ranges) rest

/-- A class after its opening bracket. -/
def class? (text : Text) : Option (Token × Text) :=
  let (negated, text) := match text with
    | '!' :: rest => (true, rest)
    | '^' :: rest => (true, rest)
    | rest => (false, rest)
  (classRanges? true false [] text).map fun (ranges, rest) => (.class negated ranges, rest)

/-- The state of reading: the branches of each open brace, the innermost first and the current
branch of each at its head, with tokens in reverse; and the character read last. -/
structure State where
  outer : List (List (List Token))
  branches : List (List Token)
  previous : Option Char

namespace State

/-- The tokens of the current branch, in reverse. -/
def current (s : State) : List Token := s.branches.headD []

/-- The state with other tokens in the current branch. -/
def withCurrent (s : State) (tokens : List Token) : State :=
  { s with branches := tokens :: s.branches.drop 1 }

/-- The state with a token put to the current branch. -/
def push (s : State) (token : Token) : State := s.withCurrent (token :: s.current)

/-- Whether a brace is open. -/
def nested (s : State) : Bool := !s.outer.isEmpty

end State

/-- Reads on after two stars, which take a slash after them along where they have a meaning of
their own. -/
def doubleStar (s : State) (text : Text) : State × Text :=
  let plain := ((s.push .zeroOrMore).push .zeroOrMore, text)
  if s.current.isEmpty then
    match text with
    | [] => (s.push .recursiveStart, [])
    | '/' :: rest => (s.push .recursiveStart, rest)
    | _ => plain
  else if s.previous ≠ some '/' &&
      !(s.nested && (s.previous = some ',' || s.previous = some '\x7b')) then plain
  else
    let closed := fun (token : Token) =>
      match s.current with
      | .recursiveStart :: _ => s
      | .recursiveEnd :: _ => s
      | _ :: tokens => s.withCurrent (token :: tokens)
      | [] => s
    match text with
    | [] => (closed .recursiveEnd, [])
    | '/' :: rest => (closed .recursiveInside, rest)
    | c :: _ =>
      if s.nested && (c = ',' || c = '\x7d') then (closed .recursiveEnd, text) else plain

/-- Reads tokens to the end. Every round reads at least one character. -/
def tokens? (rounds : Nat) (s : State) (text : Text) : Option (List Token) :=
  match rounds with
  | 0 => none
  | rounds + 1 =>
    match text with
    | [] => if s.nested then none else some s.current.reverse
    | c :: text =>
      let read := fun (s : State) (last : Char) (text : Text) =>
        tokens? rounds { s with previous := some last } text
      match c with
      | '?' => read (s.push .any) c text
      | '*' =>
        match text with
        | '*' :: text =>
          let (next, rest) := doubleStar s text
          read next (if rest.length < text.length then '/' else '*') rest
        | _ => read (s.push .zeroOrMore) c text
      | '[' =>
        match class? text with
        | some (token, rest) => read (s.push token) ']' rest
        | none => none
      | '\x7b' => read { s with outer := s.branches :: s.outer, branches := [[]] } c text
      | '\x7d' =>
        match s.outer with
        | [] => none
        | branches :: outer =>
          let token := Token.alternatives (s.branches.reverse.map List.reverse)
          read ({ s with outer := outer, branches := branches }.push token) c text
      | ',' =>
        if s.nested then read { s with branches := [] :: s.branches } c text
        else read (s.push (.literal ',')) c text
      | '\\' =>
        match text with
        | [] => none
        | c :: text => read (s.push (.literal c)) c text
      | c => read (s.push (.literal c)) c text

/-- The expression that a glob stands for, if it is well formed. A lone `**` matches every path. -/
def parse? (text : Text) : Option (Expr Byte) :=
  (tokens? (text.length + 1) ⟨[], [[]], none⟩ text).map fun
    | [.recursiveStart] => .star anyByte
    | tokens => Expr.sequence (tokenExprs tokens)

/-- The UTF-8 bytes of a text. -/
def bytes (text : Text) : List Byte := text.flatMap bytesOf

end TypingBundle.Pattern.Glob
