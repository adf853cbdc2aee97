/-!
How much room an automaton takes. A state has a fixed size; the transitions of a state that reads
one of several byte ranges and the ways on from a choice are listed beside it.
-/

namespace TypingBundle.Pattern

/-- What one state takes, in bytes. -/
def stateBytes : Nat := 32

/-- What one listed transition takes. -/
def transitionBytes : Nat := 8

/-- What one way on from a choice takes. -/
def choiceBytes : Nat := 4

/-- An automaton takes at most this much. -/
def roomLimit : Nat := 10485760

/-- The room of an automaton, or of a part of one. States are numbered as they come, so `states` is
also the number of the next state. -/
structure Room where
  states : Nat
  /-- The bytes of listed transitions and choices. -/
  listed : Nat

namespace Room

/-- No room at all. -/
def zero : Room := ⟨0, 0⟩

/-- The room of two parts together. -/
def add (a b : Room) : Room := ⟨a.states + b.states, a.listed + b.listed⟩

/-- What it takes in bytes. -/
def bytes (room : Room) : Nat := stateBytes * room.states + room.listed

/-- The room within the limit. -/
def within? (room : Room) : Option Room := if room.bytes ≤ roomLimit then some room else none

/-- The room with some states more, and with what these list, if it keeps to the limit. -/
def more? (room : Room) (states listed : Nat) : Option Room := (room.add ⟨states, listed⟩).within?

theorem bytes_add (a b : Room) : (a.add b).bytes = a.bytes + b.bytes := by
  simp only [bytes, add, Nat.mul_add]
  omega

theorem within?_eq_some_iff {room kept : Room} :
    room.within? = some kept ↔ room.bytes ≤ roomLimit ∧ room = kept := by
  unfold within?
  split
  case isTrue fitting => simp [fitting]
  case isFalse larger => simp [larger]

end Room
end TypingBundle.Pattern
