/-!
Expressions over sequences of symbols and the places where their matches end. A set of places is
kept as a decreasing list: matches go on to greater places, which are then found at the head, and
matching takes time polynomial in expression and text.
-/

namespace TypingBundle.Pattern

/-- An expression over symbols of type `σ`. -/
inductive Expr (σ : Type) where
  /-- Matches the empty sequence. -/
  | empty
  /-- Matches one symbol of a set. -/
  | one (set : σ → Bool)
  /-- Matches the empty sequence between a symbol before and a symbol after that agree with a
  condition; at either end of the text there is none. -/
  | look (holds : Option σ → Option σ → Bool)
  | seq (first second : Expr σ)
  | alt (left right : Expr σ)
  /-- Any number of times. -/
  | star (body : Expr σ)
  /-- An exact number of times. -/
  | times (body : Expr σ) (count : Nat)
  /-- Up to a number of times. -/
  | upTo (body : Expr σ) (count : Nat)

/-- All places of two decreasing lists, in decreasing order. -/
def merge : List Nat → List Nat → List Nat
  | [], b => b
  | a, [] => a
  | x :: a, y :: b =>
    if y < x then x :: merge a (y :: b)
    else if x < y then y :: merge (x :: a) b
    else x :: merge a b
termination_by a b => a.length + b.length

/-- The places of the first decreasing list that are not in the second. -/
def without : List Nat → List Nat → List Nat
  | [], _ => []
  | a, [] => a
  | x :: a, y :: b =>
    if y < x then x :: without a (y :: b)
    else if x < y then without (x :: a) b
    else without a b
termination_by a b => a.length + b.length

/-- The places reached from `latest` by up to `rounds` steps, put to those reached before. Only
places that are new take part in the next step, so the walk ends when there are none. -/
def closure (step : List Nat → List Nat) : (rounds : Nat) → (reached latest : List Nat) → List Nat
  | 0, reached, _ => reached
  | rounds + 1, reached, latest =>
    match without (step latest) reached with
    | [] => reached
    | more => closure step rounds (merge reached more) more

/-- The places reached by exactly `count` steps. -/
def iterate (step : List Nat → List Nat) : (count : Nat) → List Nat → List Nat
  | 0, places => places
  | count + 1, places =>
    let next := step places
    if next.isEmpty || next = places then next else iterate step count next

namespace Expr

variable {σ : Type}

/-- The places where a match can end that begins at one of the given places. -/
def ends (text : Array σ) : Expr σ → List Nat → List Nat
  | empty, places => places
  | one set, places =>
    places.filterMap fun i => (text[i]?).bind fun c => if set c then some (i + 1) else none
  | look holds, places =>
    places.filter fun i => holds (if i = 0 then none else text[i - 1]?) text[i]?
  | seq first second, places => ends text second (ends text first places)
  | alt left right, places => merge (ends text left places) (ends text right places)
  | star body, places => closure (ends text body) (text.size + 1) places places
  | times body count, places => iterate (ends text body) count places
  | upTo body count, places => closure (ends text body) count places places

/-- Whether the expression matches somewhere in the text. -/
def matchesWithin (e : Expr σ) (text : List σ) : Bool :=
  !(e.ends text.toArray (List.range (text.length + 1)).reverse).isEmpty

/-- Whether the expression matches the whole text. -/
def matchesWhole (e : Expr σ) (text : List σ) : Bool :=
  text.length ∈ e.ends text.toArray [0]

/-- A sequence of expressions. -/
def sequence : List (Expr σ) → Expr σ
  | [] => empty
  | [e] => e
  | e :: es => seq e (sequence es)

/-- A choice between expressions; no alternative at all matches the empty sequence. -/
def choice : List (Expr σ) → Expr σ
  | [] => empty
  | [e] => e
  | e :: es => alt e (choice es)

end Expr
end TypingBundle.Pattern
