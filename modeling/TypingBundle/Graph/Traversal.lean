/-!
Breadth-first traversal of a graph that is given by the successors of each node. Only the nodes of
a finite list have successors, so the traversal ends although nodes may be of any type.
-/

namespace TypingBundle.Graph

variable {α : Type} [DecidableEq α]

/-- The nodes of a list that were not visited. -/
def unvisited (inner seen : List α) : List α := inner.filter (· ∉ seen)

omit [DecidableEq α] in
theorem length_filter_le_of_imp (p q : α → Bool) (l : List α) (implies : ∀ a, p a → q a) :
    (l.filter p).length ≤ (l.filter q).length := by
  induction l with
  | nil => simp
  | cons a l ih =>
    simp only [List.filter_cons]
    by_cases hp : p a
    · simp [hp, implies a hp, ih]
    · by_cases hq : q a
      · simp only [hp, hq, Bool.false_eq_true, if_false, if_true, List.length_cons]
        omega
      · simp [hp, hq, ih]

theorem unvisited_length_le (inner seen : List α) (a : α) :
    (unvisited inner (seen ++ [a])).length ≤ (unvisited inner seen).length :=
  length_filter_le_of_imp _ _ inner (by simp; grind)

theorem unvisited_length_lt {inner seen : List α} {a : α} (member : a ∈ inner) (new : a ∉ seen) :
    (unvisited inner (seen ++ [a])).length < (unvisited inner seen).length := by
  induction inner with
  | nil => simp at member
  | cons b inner ih =>
    have le := unvisited_length_le inner seen a
    simp only [unvisited, List.filter_cons] at ih le ⊢
    by_cases same : b = a
    · subst same
      simp only [List.mem_append, List.mem_singleton, or_true, not_true_eq_false, decide_false,
        Bool.false_eq_true, if_false, new, not_false_eq_true, decide_true, if_true,
        List.length_cons]
      simp only [List.mem_append, List.mem_singleton] at le
      omega
    · have inside : a ∈ inner := by
        rcases List.mem_cons.1 member with found | found
        · exact absurd found.symm same
        · exact found
      have shorter := ih inside
      by_cases visited : b ∈ seen
      · simpa [visited, same] using shorter
      · simpa [visited, same] using shorter

/-- Visits nodes in the order of a queue. `enqueue seen queue found` is the queue with the
successors of a node put to its end. The result lists the visited nodes in order. -/
def traverse (inner : List α) (next : α → List α)
    (enqueue : (seen queue found : List α) → List α) (seen queue : List α) : List α :=
  match queue with
  | [] => seen
  | a :: queue =>
    if a ∈ seen then traverse inner next enqueue seen queue
    else if a ∈ inner then
      traverse inner next enqueue (seen ++ [a]) (enqueue (seen ++ [a]) queue (next a))
    else traverse inner next enqueue (seen ++ [a]) queue
termination_by ((unvisited inner seen).length, queue.length)
decreasing_by
  · exact Prod.Lex.right _ (by simp)
  · exact Prod.Lex.left _ _ (unvisited_length_lt (by assumption) (by assumption))
  · rename_i outside
    have same : unvisited inner (seen ++ [a]) = unvisited inner seen := by
      apply List.filter_congr
      intro b member
      have : b ≠ a := fun equal => outside (equal ▸ member)
      simp [this]
    rw [same]
    exact Prod.Lex.right _ (by simp)

/-- Every successor is put to the queue. -/
def enqueueAll (_ queue found : List α) : List α := queue ++ found

/-- Successors that were visited or that wait already are not put to the queue. -/
def enqueueNew (seen queue found : List α) : List α :=
  found.foldl (fun queue a => if a ∈ seen ∨ a ∈ queue then queue else queue ++ [a]) queue

end TypingBundle.Graph
