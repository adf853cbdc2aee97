import TypingBundle.Pattern.ClassName
import TypingBundle.Pattern.Expr

/-!
Regular expressions as trees, in the form in which they are kept: neighbouring literals stand
together, choices between single characters are sets, and what all choices begin with stands before
them.

Main definition: `Tree.expr`, the expression that a tree stands for.
-/

namespace TypingBundle.Pattern.Regex

open TypingBundle.Text (CharSet)

/-- Where a place stands to words. -/
inductive WordEdge where
  /-- Between a character of a word and another one. -/
  | border
  /-- Anywhere else. -/
  | noBorder
  | start
  | finish
  /-- Not after a character of a word. -/
  | startHalf
  /-- Not before a character of a word. -/
  | endHalf
deriving DecidableEq

/-- Whether the place has that edge, by whether characters of words stand before and after it. -/
def WordEdge.holds : WordEdge → (before after : Bool) → Bool
  | border, before, after => before != after
  | noBorder, before, after => before == after
  | start, before, after => !before && after
  | finish, before, after => before && !after
  | startHalf, before, _ => !before
  | endHalf, _, after => !after

/-- What is asserted of a place in the text. -/
inductive Assertion where
  | textStart
  | textEnd
  /-- The beginning of a line; with `returns`, a carriage return ends lines, too. -/
  | lineStart (returns : Bool)
  | lineEnd (returns : Bool)
  /-- An edge of a word, of ASCII words only without `unicode`. -/
  | word (unicode : Bool) (edge : WordEdge)
deriving DecidableEq

/-- Whether a character belongs to words. -/
def isWordChar (unicode : Bool) (c : Char) : Bool :=
  if unicode then Text.isWord c else ClassName.asciiWord.has c

/-- Whether the assertion holds between two characters; at the ends of the text there is none. -/
def Assertion.holds : Assertion → (before after : Option Char) → Bool
  | textStart, before, _ => before.isNone
  | textEnd, _, after => after.isNone
  | lineStart returns, before, after =>
    before.isNone || before = some '\n' ||
      (returns && before = some '\r' && after ≠ some '\n')
  | lineEnd returns, before, after =>
    after.isNone ||
      (if returns then after = some '\r' || (after = some '\n' && before ≠ some '\r')
       else after = some '\n')
  | word unicode edge, before, after =>
    edge.holds (before.any (isWordChar unicode)) (after.any (isWordChar unicode))

/-- A regular expression. -/
inductive Tree where
  | empty
  /-- Some characters, at least one. -/
  | literal (text : Text)
  /-- One character of a set. -/
  | set (members : CharSet)
  | look (assertion : Assertion)
  /-- A group that keeps what it matched. -/
  | capture (body : Tree)
  /-- Repeated between two counts, or without an upper one. -/
  | rep (low : Nat) (high : Option Nat) (body : Tree)
  /-- At least two parts, one after the other. -/
  | seq (parts : List Tree)
  /-- At least two choices. -/
  | alt (branches : List Tree)
deriving BEq

namespace Tree

/-- One character of a set; a set of one member is a literal. -/
def ofSet (members : CharSet) : Tree :=
  match members.ranges with
  | [(low, high)] => if low = high then literal [Char.ofNat low] else set members
  | _ => set members

mutual

/-- Whether nothing but the empty text can match. -/
def onlyEmpty : Tree → Bool
  | empty => true
  | look _ => true
  | capture body => body.onlyEmpty
  | rep _ _ body => body.onlyEmpty
  | seq parts => allOnlyEmpty parts
  | alt branches => allOnlyEmpty branches
  | _ => false

/-- Whether nothing but the empty text can match any of the trees. -/
def allOnlyEmpty : List Tree → Bool
  | [] => true
  | t :: rest => t.onlyEmpty && allOnlyEmpty rest

end

/-- The parts of a sequence. -/
def parts : Tree → List Tree
  | empty => []
  | seq parts => parts
  | t => [t]

/-- Parts with neighbouring literals put together. -/
def joinLiterals : List Tree → List Tree
  | [] => []
  | t :: rest =>
    match t, joinLiterals rest with
    | literal a, literal b :: rest => literal (a ++ b) :: rest
    | t, rest => t :: rest

/-- Trees one after the other. -/
def concat (trees : List Tree) : Tree :=
  match joinLiterals (trees.flatMap parts) with
  | [] => empty
  | [t] => t
  | parts => seq parts

/-- The choices of a choice. -/
def branches : Tree → List Tree
  | alt branches => branches
  | t => [t]

/-- The set of a literal of one character. -/
def single? : Tree → Option CharSet
  | literal [c] => some (.single c)
  | _ => none

/-- The set of a tree that is one. -/
def set? : Tree → Option CharSet
  | set members => some members
  | _ => none

/-- A choice between trees, without a look at what they begin with. Single characters become a set,
and so do sets. -/
def plainChoice (trees : List Tree) : Tree :=
  match trees.flatMap branches with
  | [t] => t
  | all =>
    match all.mapM single? <|> all.mapM set? with
    | some sets => ofSet (.unions sets)
    | none => alt all

mutual

/-- Whether the tree has a group that keeps what it matched. -/
def captures : Tree → Bool
  | capture _ => true
  | rep _ _ body => body.captures
  | seq parts => anyCaptures parts
  | alt branches => anyCaptures branches
  | _ => false

/-- Whether one of the trees has a group that keeps what it matched. -/
def anyCaptures : List Tree → Bool
  | [] => false
  | t :: rest => t.captures || anyCaptures rest

end

/-- What two lists of parts begin with in common. Two groups that keep what they matched are never
the same. -/
def commonParts : List Tree → List Tree → List Tree
  | x :: xs, y :: ys => if x == y && !x.captures then x :: commonParts xs ys else []
  | _, _ => []

/-- The parts of a tree that is a sequence of at least two. -/
def seqParts? : Tree → Option (List Tree)
  | seq parts => some parts
  | _ => none

/-- What all choices of a choice begin with, if all are sequences. -/
def commonStart (trees : List Tree) : List Tree :=
  match trees.mapM seqParts? with
  | some (first :: rest) => rest.foldl commonParts first
  | _ => []

/-- A choice between trees. What all begin with is put before the choice. -/
def choice (trees : List Tree) : Tree :=
  match plainChoice trees with
  | alt all =>
    match commonStart all with
    | [] => alt all
    | start => concat (start ++ [plainChoice (all.map fun t => concat (t.parts.drop start.length))])
  | t => t

/-- A tree repeated between two counts. What can only match the empty text is not repeated more
than once. -/
def repeated (low : Nat) (high : Option Nat) (body : Tree) : Tree :=
  let (low, high) := if body.onlyEmpty then (min low 1, some (min (high.getD 1) 1)) else (low, high)
  if high = some 0 then empty
  else if low = 1 && high = some 1 then body
  else rep low high body

mutual

/-- The expression that a tree stands for. -/
def expr : Tree → Expr Char
  | empty => .empty
  | literal text => Expr.sequence (text.map fun c => .one (· = c))
  | set members => .one members.has
  | look assertion => .look assertion.holds
  | capture body => body.expr
  | rep low high body =>
    match high with
    | none => .seq (.times body.expr low) (.star body.expr)
    | some high => .seq (.times body.expr low) (.upTo body.expr (high - low))
  | seq parts => Expr.sequence (exprs parts)
  | alt branches => Expr.choice (exprs branches)

/-- The expressions of some trees. -/
def exprs : List Tree → List (Expr Char)
  | [] => []
  | t :: rest => t.expr :: exprs rest

end

end Tree
end TypingBundle.Pattern.Regex
