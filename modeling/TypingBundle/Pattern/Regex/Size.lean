import TypingBundle.Pattern.Regex.Tree
import TypingBundle.Pattern.Utf8

/-!
How much the automaton of a regular expression takes, once every repetition is written out. An
expression is matched by two automata, of which one reads forward and the other backward, and both
must keep to the limit.
-/

namespace TypingBundle.Pattern.Regex

/-- The directions in which an automaton reads. -/
inductive Direction where
  | forward
  | backward
deriving DecidableEq

/-- The room after the automaton of a set has been added. A set of ASCII characters is one state
before its last one. -/
def addSet (direction : Direction) (members : Text.CharSet) (room : Room) : Room :=
  if members.isAscii then room.add ⟨2, transitionBytes * members.ranges.length⟩
  else match direction with
    | .forward => Utf8.addForward members room
    | .backward => Utf8.addBackward members room

/-- The UTF-8 bytes of a text in the order in which they are read. -/
def bytesRead (direction : Direction) (text : Text) : List UInt8 :=
  let bytes := text.flatMap String.utf8EncodeChar
  match direction with
  | .forward => bytes
  | .backward => bytes.reverse

/-- Words cut where one ends: the lists of words between the empty words. -/
def cutAtEnds : List (List UInt8) → List (List (List UInt8))
  | [] => [[]]
  | [] :: words => [] :: cutAtEnds words
  | word :: words =>
    match cutAtEnds words with
    | [] => [[word]]
    | part :: parts => (word :: part) :: parts

/-- The different first bytes of some words, in the order in which they are met. -/
def firstBytes (words : List (List UInt8)) : List UInt8 := (words.filterMap List.head?).eraseDups

/-- The rests of the words with a first byte. -/
def afterByte (b : UInt8) (words : List (List UInt8)) : List (List UInt8) :=
  words.filterMap fun
    | c :: rest => if c = b then some rest else none
    | [] => none

/-- The words that make a difference to a tree of words: of those that end at once before any other
word, one is enough. -/
def withoutRepeatedEnds (words : List (List UInt8)) : List (List UInt8) :=
  match words with
  | [] :: rest => [] :: rest.dropWhile List.isEmpty
  | words => words

/-- What a tree of words takes that share their beginnings, for words of up to `length` bytes. A
word that ends inside the tree cuts the ways on in two. -/
def wordTreeRoom : (length : Nat) → List (List UInt8) → Room
  | 0, _ => .zero
  | length + 1, words =>
    if words.all List.isEmpty then .zero
    else
      let parts := cutAtEnds (withoutRepeatedEnds words)
      parts.foldl (fun room part =>
        let heads := firstBytes part
        let below := heads.foldl (fun room b => room.add (wordTreeRoom length (afterByte b part)))
          room
        match heads with
        | [] => below
        | [_] => below.add ⟨1, choiceBytes⟩
        | _ => below.add ⟨1, transitionBytes * heads.length + choiceBytes⟩)
        ⟨1, choiceBytes * (parts.length - 1)⟩

namespace Tree

/-- The text of a literal. -/
def literal? : Tree → Option Text
  | literal text => some text
  | _ => none

mutual

/-- The least number of characters that a match reads. There is none when a set in the tree has no
members. -/
def leastRead? : Tree → Option Nat
  | empty => some 0
  | literal text => some text.length
  | set members => if members.isEmpty then none else some 1
  | look _ => some 0
  | capture body => body.leastRead?
  | rep low _ body => body.leastRead?.map (low * ·)
  | seq parts => leastOfAll? parts
  | alt branches => leastOfOne? branches

/-- The least number of characters that trees read one after the other. -/
def leastOfAll? : List Tree → Option Nat
  | [] => some 0
  | t :: rest => do return (← t.leastRead?) + (← leastOfAll? rest)

/-- The least number of characters that one of the trees reads, at least one of them given. -/
def leastOfOne? : List Tree → Option Nat
  | [] => none
  | [t] => t.leastRead?
  | t :: rest => do return min (← t.leastRead?) (← leastOfOne? rest)

end

/-- Whether every match reads at least one character. -/
def alwaysReads (t : Tree) : Bool := t.leastRead?.any (0 < ·)

mutual

/-- Whether every match begins, or read backward ends, with an assertion. -/
def anchoredBy (direction : Direction) (anchor : Assertion) : Tree → Bool
  | look assertion => assertion = anchor
  | capture body => body.anchoredBy direction anchor
  | rep low _ body => 0 < low && body.anchoredBy direction anchor
  | seq parts =>
    match direction with
    | .forward => firstAnchored direction anchor parts
    | .backward => lastAnchored direction anchor parts
  | alt branches => allAnchored direction anchor branches
  | _ => false

/-- Whether the first of the trees that can read something, or one before it, is anchored. -/
def firstAnchored (direction : Direction) (anchor : Assertion) : List Tree → Bool
  | [] => false
  | t :: rest =>
    t.anchoredBy direction anchor || (t.onlyEmpty && firstAnchored direction anchor rest)

/-- Whether the last of the trees that can read something, or one after it, is anchored. -/
def lastAnchored (direction : Direction) (anchor : Assertion) : List Tree → Bool
  | [] => false
  | t :: rest =>
    lastAnchored direction anchor rest || (allOnlyEmpty rest && t.anchoredBy direction anchor)

/-- Whether all of the trees are anchored. -/
def allAnchored (direction : Direction) (anchor : Assertion) : List Tree → Bool
  | [] => true
  | t :: rest => t.anchoredBy direction anchor && allAnchored direction anchor rest

end

/-- A number of copies one after the other. -/
def copies (copy : Room → Option Room) : (count : Nat) → Room → Option Room
  | 0, room => some room
  | count + 1, room =>
    match copy room with
    | some room => copies copy count room
    | none => none

/-- The room after a choice with two ways on has been added. -/
def fork? (room : Room) : Option Room := room.more? 1 (2 * choiceBytes)

/-- The room after a repetition has been added, given how one copy is added. A copy that may match
the empty text needs one choice more when it can be left out. -/
def addRepeated? (low : Nat) (high : Option Nat) (bodyReads : Bool) (copy : Room → Option Room)
    (room : Room) : Option Room :=
  match low, high with
  | 0, some 1 => do (← copy (← fork? room)).more? 1 0
  | 0, none =>
    if bodyReads then do copy (← fork? room)
    else do (← fork? (← fork? (← copy room))).more? 1 0
  | low, none => do fork? (← copies copy low room)
  | low, some high => do
    let room ← if low = 0 then room.more? 1 0 else copies copy low room
    if low = high then some room
    else copies (fun room => do copy (← fork? room)) (high - low) (← room.more? 1 0)

mutual

/-- The room after the automaton of a tree has been added, if it keeps to the limit. -/
def addTo? (direction : Direction) : Tree → Room → Option Room
  | empty, room => room.more? 1 0
  | literal text, room => room.more? (bytesRead direction text).length 0
  | set members, room => (addSet direction members room).within?
  | look _, room => room.more? 1 0
  | capture body, room =>
    match direction with
    | .forward => do (← body.addTo? .forward (← room.more? 1 0)).more? 1 0
    | .backward => body.addTo? .backward room
  | rep low high body, room =>
    addRepeated? low high body.alwaysReads (body.addTo? direction) room
  | seq parts, room => addSeq? direction parts room
  | alt branches, room =>
    match branches.mapM literal? with
    | some texts =>
      let words := texts.map (bytesRead direction)
      let tree := wordTreeRoom ((words.map List.length).foldl max 0) words
      room.more? (tree.states + 1) tree.listed
    | none => addChoice? direction branches room

/-- The room after trees have been added one after the other, in the order in which they are
read. -/
def addSeq? (direction : Direction) : List Tree → Room → Option Room
  | [], room => some room
  | t :: rest, room =>
    match direction with
    | .forward => do addSeq? .forward rest (← t.addTo? .forward room)
    | .backward => do t.addTo? .backward (← addSeq? .backward rest room)

/-- The room after a choice between trees has been added. The choice itself and the state where all
meet come after the second tree. -/
def addChoice? (direction : Direction) : List Tree → Room → Option Room
  | first :: second :: rest, room => do
    let room ← second.addTo? direction (← first.addTo? direction room)
    addWays? direction rest (← room.more? 2 (2 * choiceBytes))
  | [t], room => t.addTo? direction room
  | [], room => room.more? 2 0

/-- The room after further ways on from a choice have been added. -/
def addWays? (direction : Direction) : List Tree → Room → Option Room
  | [], room => some room
  | t :: rest, room => do
    addWays? direction rest (← (← t.addTo? direction room).more? 0 choiceBytes)

end

/-- The room of the whole automaton, if it keeps to the limit: before the tree it may skip any bytes,
unless every match is anchored, and after it comes the state of success. Read forward, the match
itself is kept. -/
def room? (direction : Direction) (t : Tree) : Option Room := do
  let anchor := match direction with
    | .forward => Assertion.textStart
    | .backward => Assertion.textEnd
  let start : Room :=
    if t.anchoredBy direction anchor then ⟨1, 0⟩ else ⟨3, 2 * choiceBytes + transitionBytes⟩
  (← (capture t).addTo? direction start).more? 1 0

/-- Whether both automata keep to the limit. -/
def fits (t : Tree) : Bool := (t.room? .forward).isSome && (t.room? .backward).isSome

end Tree
end TypingBundle.Pattern.Regex
