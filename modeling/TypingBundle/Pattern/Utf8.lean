import Std.Data.HashMap
import TypingBundle.Pattern.Room
import TypingBundle.Text.CharSet

/-!
Sets of characters as automata over UTF-8 bytes, and how much room these take. A range of
characters is cut into sequences of byte ranges, one range for each byte of an encoding. Read
forward, sequences share beginnings and ends; read backward, they share beginnings only. What is
shared is looked up in a memory of limited size, so a state may also be built more than once.
-/

namespace TypingBundle.Pattern.Utf8

open TypingBundle.Text (CharSet)

/-- A range of bytes with both ends. -/
abbrev ByteRange := Nat × Nat

/-- The byte ranges of the numbers between two that are written with `digits` further bytes of six
bits after the first byte, in increasing order; `base` is the first byte of the number zero. -/
def sequencesFrom : (digits base low high : Nat) → List (List ByteRange)
  | 0, base, low, high => [[(base + low, base + high)]]
  | digits + 1, base, low, high =>
    let block := Nat.pow 64 (digits + 1)
    let a := low / block
    let b := high / block
    let within := fun (first low high : Nat) =>
      (sequencesFrom digits 0x80 low high).map ((base + first, base + first) :: ·)
    if a = b then within a (low % block) (high % block)
    else
      let startsBlock := decide (low % block = 0)
      let endsBlock := decide (high % block = block - 1)
      let first := if startsBlock then a else a + 1
      let last := if endsBlock then b + 1 else b
      (if startsBlock then [] else within a (low % block) (block - 1)) ++
        (if first < last then
          [(base + first, base + last - 1) :: List.replicate (digits + 1) (0x80, 0xBF)]
         else []) ++
        (if endsBlock then [] else within b 0 (high % block))

/-- The characters whose encodings have the same length: the number of bytes after the first, the
first byte of the number zero, and the first and last character. Surrogates have no encoding. -/
def lengthClasses : List (Nat × Nat × Nat × Nat) :=
  [(0, 0, 0, 0x7F), (1, 0xC0, 0x80, 0x7FF), (2, 0xE0, 0x800, 0xD7FF), (2, 0xE0, 0xE000, 0xFFFF),
   (3, 0xF0, 0x10000, 0x10FFFF)]

/-- The sequences of byte ranges that encode the members of a set, in increasing order. -/
def sequences (s : CharSet) : List (List ByteRange) :=
  s.ranges.flatMap fun (low, high) =>
    lengthClasses.flatMap fun (digits, base, first, last) =>
      if max low first ≤ min high last then
        sequencesFrom digits base (max low first) (min high last)
      else []

/-- States remembered by what they read. Every key has one of a fixed number of slots, and a slot
holds the latest state put there: what it held before is forgotten. -/
abbrev Memory (κ : Type) := Std.HashMap UInt64 (κ × Nat)

/-- What the mixture of no numbers is. -/
def unmixed : UInt64 := 14695981039346656037

/-- A number mixed into a mixture. -/
@[inline] def mix (mixture : UInt64) (n : Nat) : UInt64 := (mixture ^^^ n.toUInt64) * 1099511628211

/-- An automaton to which states are added, with the memory of those of one set. -/
structure Building (κ : Type) where
  room : Room
  memory : Memory κ

/-- A new state, which lists so many bytes and is remembered in the slot. -/
def Building.fresh {κ : Type} (b : Building κ) (slot : UInt64) (key : κ) (listed : Nat) :
    Nat × Building κ :=
  let number := b.room.states
  (number, ⟨b.room.add ⟨1, listed⟩, b.memory.insert slot (key, number)⟩)

/-- The number of the state with a key: the one that is remembered in the slot, or else a new
one. -/
def Building.state {κ : Type} [BEq κ] (b : Building κ) (slot : UInt64) (key : κ) (listed : Nat) :
    Nat × Building κ :=
  match b.memory[slot]? with
  | some (kept, number) => if kept == key then (number, b) else b.fresh slot key listed
  | none => b.fresh slot key listed

/-- A state that reads forward, by its transitions: each has a byte range and the number of the next
state. -/
abbrev Transitions := List (ByteRange × Nat)

/-- The slot for some transitions. -/
def Transitions.slot (transitions : Transitions) : UInt64 :=
  transitions.foldl (fun mixture ((low, high), next) => mix (mix (mix mixture low) high) next)
    unmixed % 10000

/-- Sequences that begin with the same byte range, put together. -/
def groupByHead : List (List ByteRange) → List (ByteRange × List (List ByteRange))
  | [] => []
  | [] :: rest => groupByHead rest
  | (head :: tail) :: rest =>
    match groupByHead rest with
    | (next, tails) :: groups =>
      if next = head then (head, tail :: tails) :: groups
      else (head, [tail]) :: (next, tails) :: groups
    | [] => [(head, [tail])]

/-- The number of the state that reads some sequences of up to `length` byte ranges and then goes to
the state `last`. -/
def addTree (last : Nat) :
    (length : Nat) → List (List ByteRange) → Building Transitions → Nat × Building Transitions
  | 0, _, b => (last, b)
  | length + 1, sequences, b =>
    match groupByHead sequences with
    | [] => (last, b)
    | groups =>
      let (backward, b) := groups.foldl (fun (backward, b) (head, tails) =>
        let (next, b) := addTree last length tails b
        ((head, next) :: backward, b)) (([] : Transitions), b)
      let transitions : Transitions := backward.reverse
      b.state transitions.slot transitions (transitionBytes * transitions.length)

/-- The room after an automaton has been added that reads a set forward: its last state comes
first. -/
def addForward (s : CharSet) (room : Room) : Room :=
  (addTree room.states 4 (sequences s) ⟨room.add ⟨1, 0⟩, ∅⟩).2.room

/-- A state that reads backward: the state after it and its byte range. -/
abbrev Link := Nat × ByteRange

/-- The slot for a link. -/
def Link.slot : Link → UInt64
  | (next, low, high) => mix (mix (mix unmixed next) low) high % 1000

/-- The automaton with a chain of links that reads a sequence backward and then goes to a state. -/
def addChain : List ByteRange → (next : Nat) → Building Link → Building Link
  | [], _, b => b
  | range :: rest, next, b =>
    let link : Link := (next, range)
    let (number, b) := b.state link.slot link 0
    addChain rest number b

/-- The room after an automaton has been added that reads a set backward: a choice, the last state,
and a chain for each sequence. -/
def addBackward (s : CharSet) (room : Room) : Room :=
  let all := sequences s
  let last := room.states + 1
  (all.foldl (fun b sequence => addChain sequence last b)
    ⟨room.add ⟨2, choiceBytes * all.length⟩, ∅⟩).room

end TypingBundle.Pattern.Utf8
