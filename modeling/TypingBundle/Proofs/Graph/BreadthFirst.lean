import Mathlib.Logic.Function.Iterate
import Mathlib.Order.Lattice.Nat
import TypingBundle.Graph.Traversal

/-!
What a breadth-first traversal visits, and in which order. The traversal is also given as a step
that is repeated, without a bound on the nodes that have successors.

Main statements: `breadthFirst_traverse` says that the traversal from a node lists every reachable
node once, nearer ones first; `traverse_enqueueAll` says that leaving out successors that wait
already does not change the order; `exists_iterate_advance` says that the repeated steps end where the
traversal does; and `traverse_congr` says that it depends only on the successors of what it visits.
-/

namespace TypingBundle.Graph

/-! ### Reachability and distance -/

section

variable {α : Type} {edge : α → α → Prop} {next : α → List α} {start a b : α} {n : Nat}

/-- A node is reached from another along a number of edges. -/
inductive Reaches (edge : α → α → Prop) (start : α) : Nat → α → Prop where
  | start : Reaches edge start 0 start
  | step {n : Nat} {a b : α} : Reaches edge start n a → edge a b → Reaches edge start (n + 1) b

/-- The least number of edges along which a node is reached. -/
noncomputable def distance (edge : α → α → Prop) (start a : α) : Nat :=
  sInf {n | Reaches edge start n a}

theorem distance_le (reached : Reaches edge start n a) : distance edge start a ≤ n :=
  Nat.sInf_le reached

theorem reaches_distance (reached : Reaches edge start n a) :
    Reaches edge start (distance edge start a) a :=
  Nat.sInf_mem (s := {n | Reaches edge start n a}) ⟨n, reached⟩

theorem distance_le_of_edge (reached : Reaches edge start n a) (next : edge a b) :
    distance edge start b ≤ distance edge start a + 1 :=
  distance_le (.step (reaches_distance reached) next)

/-- The edges that successors give. -/
abbrev edgeOf (next : α → List α) (a b : α) : Prop := b ∈ next a

/-- A list of nodes in the order of a breadth-first search: every node that is reached, once, the
start first and the nearer nodes before those further away. -/
structure BreadthFirst (edge : α → α → Prop) (start : α) (order : List α) : Prop where
  mem_iff : ∀ a, a ∈ order ↔ ∃ n, Reaches edge start n a
  nodup : order.Nodup
  head : order.head? = some start
  sorted : order.Pairwise fun a b => distance edge start a ≤ distance edge start b

theorem BreadthFirst.mem_of_edge {order : List α} (listed : BreadthFirst edge start order)
    (member : a ∈ order) (next : edge a b) : b ∈ order := by
  obtain ⟨n, reached⟩ := (listed.mem_iff a).1 member
  exact (listed.mem_iff b).2 ⟨n + 1, .step reached next⟩

/-! ### The frontier -/

/-- What holds between two steps of a traversal that leaves out known successors. The nodes that
were visited and those that wait are all that is known, in the order in which they were found. -/
structure Frontier (next : α → List α) (start : α) (state : List α × List α) : Prop where
  reached : ∀ a ∈ state.1 ++ state.2, ∃ n, Reaches (edgeOf next) start n a
  /-- All successors of visited nodes are known. -/
  closed : ∀ a ∈ state.1, ∀ b ∈ next a, b ∈ state.1 ++ state.2
  head : (state.1 ++ state.2).head? = some start
  nodup : (state.1 ++ state.2).Nodup
  sorted : (state.1 ++ state.2).Pairwise fun a b =>
    distance (edgeOf next) start a ≤ distance (edgeOf next) start b
  /-- Nodes that wait are at most one edge further away than the first of them. -/
  narrow : ∀ a ∈ state.2.head?, ∀ b ∈ state.2,
    distance (edgeOf next) start b ≤ distance (edgeOf next) start a + 1

namespace Frontier

variable {seen queue : List α}

theorem initial (next : α → List α) (start : α) : Frontier next start ([], [start]) where
  reached a member := ⟨0, by rw [List.mem_singleton.1 member]; exact .start⟩
  closed a member := absurd member List.not_mem_nil
  head := rfl
  nodup := List.nodup_singleton start
  sorted := List.pairwise_singleton _ start
  narrow a first b member := by
    simp only [List.head?_cons, Option.mem_some_iff] at first
    rw [List.mem_singleton.1 member, first]
    exact Nat.le_succ _

theorem start_mem (frontier : Frontier next start (seen, queue)) : start ∈ seen ++ queue :=
  List.mem_of_head? frontier.head

/-- What is not known yet is further away than the first node that waits: on the way to it there is
a last known node, and that one waits. -/
theorem distance_lt {a b : α} {n : Nat} (frontier : Frontier next start (seen, a :: queue))
    (reached : Reaches (edgeOf next) start n b) (unknown : b ∉ seen ++ a :: queue) :
    distance (edgeOf next) start a + 1 ≤ n := by
  induction reached with
  | start => exact absurd frontier.start_mem unknown
  | @step n c b before edge ih =>
    by_cases known : c ∈ seen ++ a :: queue
    · have waits : c ∈ a :: queue := by
        rcases List.mem_append.1 known with visited | waits
        · exact absurd (frontier.closed c visited b edge) unknown
        · exact waits
      have near : distance (edgeOf next) start a ≤ distance (edgeOf next) start c := by
        rcases List.mem_cons.1 waits with rfl | later
        · exact Nat.le_refl _
        · have sorted := (List.pairwise_append.1 frontier.sorted).2.1
          exact (List.pairwise_cons.1 sorted).1 c later
      have := distance_le before
      omega
    · have := ih known
      omega

/-- No step visits a node twice: the first node that waits is not visited. -/
theorem notMem_seen {a : α} (frontier : Frontier next start (seen, a :: queue)) : a ∉ seen := by
  have apart := (List.nodup_append.1 frontier.nodup).2.2
  exact fun visited => apart a visited a (by simp) rfl

/-- New successors of the first node that waits are one edge further away than it. -/
theorem distance_fresh {a b : α} (frontier : Frontier next start (seen, a :: queue))
    (edge : b ∈ next a) (unknown : b ∉ seen ++ a :: queue) :
    distance (edgeOf next) start b = distance (edgeOf next) start a + 1 := by
  obtain ⟨n, reached⟩ := frontier.reached a (by simp)
  have near : distance (edgeOf next) start b ≤ distance (edgeOf next) start a + 1 :=
    distance_le_of_edge reached edge
  have far := frontier.distance_lt (reaches_distance (.step reached edge)) unknown
  omega

/-- All known nodes are at most one edge further away than the first node that waits. -/
theorem distance_known {a b : α} (frontier : Frontier next start (seen, a :: queue))
    (known : b ∈ seen ++ a :: queue) :
    distance (edgeOf next) start b ≤ distance (edgeOf next) start a + 1 := by
  rcases List.mem_append.1 known with visited | waits
  · have before := (List.pairwise_append.1 frontier.sorted).2.2 b visited a (by simp)
    omega
  · exact frontier.narrow a rfl b waits

/-- When nothing waits any more, exactly the reachable nodes were visited. -/
theorem breadthFirst (frontier : Frontier next start (seen, [])) :
    BreadthFirst (edgeOf next) start seen where
  mem_iff a := by
    constructor
    · intro visited
      exact frontier.reached a (List.mem_append_left _ visited)
    · rintro ⟨n, reached⟩
      induction reached with
      | start => simpa using frontier.start_mem
      | step _ edge ih => simpa using frontier.closed _ ih _ edge
  nodup := by simpa using frontier.nodup
  head := by simpa using frontier.head
  sorted := by simpa using frontier.sorted

end Frontier

end

variable {α : Type} [DecidableEq α] {next : α → List α}

/-! ### The traversal as a repeated step -/

/-- One turn of a traversal, from the visited nodes and the queue to those after it. Nothing is left
to do where the queue is empty. -/
def advance (next : α → List α) (enqueue : (seen queue found : List α) → List α) :
    List α × List α → List α × List α
  | (seen, []) => (seen, [])
  | (seen, a :: queue) =>
    if a ∈ seen then (seen, queue)
    else (seen ++ [a], enqueue (seen ++ [a]) queue (next a))

/-- Repeated steps come to an end, and there they have visited what the traversal lists. -/
theorem exists_iterate_advance {inner : List α}
    {enqueue : (seen queue found : List α) → List α} (outside : ∀ a, a ∉ inner → next a = [])
    (keeps : ∀ seen queue, enqueue seen queue [] = queue) (seen queue : List α) :
    ∃ n, (advance next enqueue)^[n] (seen, queue) =
      (traverse inner next enqueue seen queue, []) := by
  fun_induction traverse inner next enqueue seen queue with
  | case1 seen => exact ⟨0, rfl⟩
  | case2 seen a queue visited ih =>
    obtain ⟨n, ends⟩ := ih
    refine ⟨n + 1, ?_⟩
    rw [Function.iterate_succ_apply, advance, if_pos visited, ends]
  | case3 seen a queue new _ ih =>
    obtain ⟨n, ends⟩ := ih
    refine ⟨n + 1, ?_⟩
    rw [Function.iterate_succ_apply, advance, if_neg new, ends]
  | case4 seen a queue new absent ih =>
    obtain ⟨n, ends⟩ := ih
    refine ⟨n + 1, ?_⟩
    rw [Function.iterate_succ_apply, advance, if_neg new, outside a absent, keeps, ends]

/-- What every step keeps holds after any number of steps. -/
theorem iterate_advance_induction {enqueue : (seen queue found : List α) → List α}
    {P : List α × List α → Prop} (keeps : ∀ state, P state → P (advance next enqueue state))
    {state : List α × List α} (initially : P state) (n : Nat) :
    P ((advance next enqueue)^[n] state) := by
  induction n with
  | zero => exact initially
  | succ n ih =>
    rw [Function.iterate_succ_apply']
    exact keeps _ ih

/-- Steps that have come to an end have visited what the traversal lists. -/
theorem traverse_eq_of_iterate {inner : List α} {enqueue : (seen queue found : List α) → List α}
    (outside : ∀ a, a ∉ inner → next a = []) (keeps : ∀ seen queue, enqueue seen queue [] = queue)
    {seen queue order : List α} {n : Nat}
    (ends : (advance next enqueue)^[n] (seen, queue) = (order, [])) :
    traverse inner next enqueue seen queue = order := by
  obtain ⟨m, traversed⟩ := exists_iterate_advance outside keeps seen queue
  have rests : ∀ k order, (advance next enqueue)^[k] (order, []) = (order, []) :=
    fun k order => Function.iterate_fixed rfl k
  have both : (traverse inner next enqueue seen queue, []) = (order, ([] : List α)) := by
    calc (traverse inner next enqueue seen queue, [])
        = (advance next enqueue)^[n + m] (seen, queue) := by
          rw [Function.iterate_add_apply, traversed, rests]
      _ = (order, []) := by rw [Nat.add_comm, Function.iterate_add_apply, ends, rests]
  exact congrArg Prod.fst both

/-! ### Successors that are new -/

omit [DecidableEq α] in
@[simp]
theorem enqueueAll_nil (seen queue : List α) : enqueueAll seen queue [] = queue := by
  simp [enqueueAll]

@[simp]
theorem enqueueNew_nil (seen queue : List α) : enqueueNew seen queue [] = queue := rfl

theorem enqueueNew_cons (seen queue found : List α) (a : α) :
    enqueueNew seen queue (a :: found) =
      enqueueNew seen (if a ∈ seen ∨ a ∈ queue then queue else queue ++ [a]) found := rfl

/-- The successors that are new are put to the end of the queue, each once. -/
theorem exists_enqueueNew_eq (seen queue found : List α) :
    ∃ fresh, enqueueNew seen queue found = queue ++ fresh ∧ fresh.Nodup ∧
      ∀ a, a ∈ fresh ↔ a ∈ found ∧ a ∉ seen ∧ a ∉ queue := by
  induction found generalizing queue with
  | nil => exact ⟨[], by simp, List.nodup_nil, by simp⟩
  | cons b found ih =>
    rw [enqueueNew_cons]
    by_cases known : b ∈ seen ∨ b ∈ queue
    · obtain ⟨fresh, put, once, members⟩ := ih queue
      refine ⟨fresh, by rw [if_pos known, put], once, ?_⟩
      intro a
      rw [members, List.mem_cons]
      constructor
      · rintro ⟨member, new⟩
        exact ⟨Or.inr member, new⟩
      · rintro ⟨rfl | member, new⟩
        · exact absurd known (not_or.2 new)
        · exact ⟨member, new⟩
    · obtain ⟨fresh, put, once, members⟩ := ih (queue ++ [b])
      refine ⟨b :: fresh, by rw [if_neg known, put]; simp, ?_, ?_⟩
      · rw [List.nodup_cons]
        exact ⟨fun member => by simpa using (members b).1 member, once⟩
      · intro a
        rw [List.mem_cons, members, List.mem_cons]
        simp only [List.mem_append, List.mem_singleton, not_or] at known ⊢
        constructor
        · rintro (rfl | ⟨member, new, waits, _⟩)
          · exact ⟨Or.inl rfl, known⟩
          · exact ⟨Or.inr member, new, waits⟩
        · rintro ⟨rfl | member, new, waits⟩
          · exact Or.inl rfl
          · by_cases same : a = b
            · exact Or.inl same
            · exact Or.inr ⟨member, new, waits, same⟩

namespace Frontier

variable {start : α} {seen queue : List α}

/-- Visiting the first node that waits keeps the frontier. -/
theorem visit {a : α} (frontier : Frontier next start (seen, a :: queue)) :
    Frontier next start (seen ++ [a], enqueueNew (seen ++ [a]) queue (next a)) := by
  obtain ⟨fresh, put, once, members⟩ := exists_enqueueNew_eq (seen ++ [a]) queue (next a)
  have known : seen ++ [a] ++ (queue ++ fresh) = seen ++ a :: queue ++ fresh := by simp
  have edge : ∀ b ∈ fresh, b ∈ next a := fun b member => ((members b).1 member).1
  have unknown : ∀ b ∈ fresh, b ∉ seen ++ a :: queue := by
    intro b member
    have new := ((members b).1 member).2
    simpa [and_assoc] using new
  have far : ∀ b ∈ fresh, distance (edgeOf next) start b = distance (edgeOf next) start a + 1 :=
    fun b member => frontier.distance_fresh (edge b member) (unknown b member)
  rw [put]
  constructor
  case reached =>
    intro b member
    simp only [known] at member
    rcases List.mem_append.1 member with old | new
    · exact frontier.reached b old
    · obtain ⟨n, reached⟩ := frontier.reached a (by simp)
      exact ⟨n + 1, .step reached (edge b new)⟩
  case closed =>
    intro b visited c successor
    simp only [known]
    rcases List.mem_append.1 visited with old | last
    · exact List.mem_append_left _ (frontier.closed b old c successor)
    · rw [List.mem_singleton.1 last] at successor
      by_cases old : c ∈ seen ++ a :: queue
      · exact List.mem_append_left _ old
      · refine List.mem_append_right _ ((members c).2 ⟨successor, ?_⟩)
        simpa [and_assoc] using old
  case head =>
    simp only [known]
    rw [List.head?_append, frontier.head]
    rfl
  case nodup =>
    simp only [known]
    rw [List.nodup_append]
    refine ⟨frontier.nodup, once, ?_⟩
    rintro b old c new rfl
    exact unknown b new old
  case sorted =>
    simp only [known]
    rw [List.pairwise_append]
    refine ⟨frontier.sorted, ?_, ?_⟩
    · apply List.Pairwise.imp_of_mem (R := fun _ _ => True)
      · intro b c first second _
        rw [far b first, far c second]
      · exact List.pairwise_of_forall fun _ _ => trivial
    · intro b old c new
      rw [far c new]
      exact frontier.distance_known old
  case narrow =>
    -- The first node that waits now is no nearer than `a`, and no known node is more than one edge
    -- further away than `a`.
    intro b first c waits
    have after : distance (edgeOf next) start a ≤ distance (edgeOf next) start b := by
      rcases List.mem_append.1 (List.mem_of_mem_head? first) with old | new
      · exact (List.pairwise_cons.1 (List.pairwise_append.1 frontier.sorted).2.1).1 b old
      · rw [far b new]
        exact Nat.le_succ _
    have near : distance (edgeOf next) start c ≤ distance (edgeOf next) start a + 1 := by
      rcases List.mem_append.1 waits with old | new
      · exact frontier.distance_known (by simp [old])
      · rw [far c new]
    omega

/-- Every step keeps the frontier. -/
theorem advance {state : List α × List α} (frontier : Frontier next start state) :
    Frontier next start (advance next enqueueNew state) := by
  obtain ⟨seen, queue⟩ := state
  cases queue with
  | nil => exact frontier
  | cons a queue =>
    rw [Graph.advance, if_neg frontier.notMem_seen]
    exact frontier.visit

end Frontier

/-- The traversal from a node lists what can be reached from it, nearer nodes first. -/
theorem breadthFirst_traverse {inner : List α} (outside : ∀ a, a ∉ inner → next a = [])
    (start : α) :
    BreadthFirst (edgeOf next) start (traverse inner next enqueueNew [] [start]) := by
  obtain ⟨n, ends⟩ := exists_iterate_advance outside enqueueNew_nil [] [start]
  have frontier := iterate_advance_induction (fun _ holds => Frontier.advance holds)
    (Frontier.initial next start) n
  rw [ends] at frontier
  exact frontier.breadthFirst

/-! ### Successors that wait already -/

/-- The nodes of a queue that are still to be visited, each where it stands first. -/
def waiting (seen queue : List α) : List α := (queue.filter (· ∉ seen)).eraseDups

theorem waiting_cons_of_mem {seen queue : List α} {a : α} (visited : a ∈ seen) :
    waiting seen (a :: queue) = waiting seen queue := by
  simp [waiting, visited]

theorem waiting_cons_of_notMem {seen queue : List α} {a : α} (new : a ∉ seen) :
    waiting seen (a :: queue) = a :: waiting (seen ++ [a]) queue := by
  have same : (queue.filter (· ∉ seen)).filter (fun b => !b == a) =
      queue.filter (· ∉ seen ++ [a]) := by
    rw [List.filter_filter]
    apply List.filter_congr
    intro b _
    by_cases visited : b ∈ seen <;> by_cases equal : b = a <;> simp [visited, equal]
  simp only [waiting]
  rw [List.filter_cons_of_pos (by simpa using new), List.eraseDups_cons, same]

theorem mem_waiting {seen queue : List α} {a : α} :
    a ∈ waiting seen queue ↔ a ∈ queue ∧ a ∉ seen := by
  simp [waiting, List.mem_eraseDups]

theorem waiting_concat (seen queue : List α) (a : α) :
    waiting seen (queue ++ [a]) =
      if a ∈ seen ∨ a ∈ waiting seen queue then waiting seen queue
      else waiting seen queue ++ [a] := by
  simp only [mem_waiting]
  by_cases visited : a ∈ seen
  · simp [waiting, visited]
  · by_cases member : a ∈ queue <;>
      simp [waiting, visited, member, List.eraseDups_append, List.removeAll, List.eraseDups_cons]

/-- Putting all successors to the end of a queue puts the new ones to the end of what waits. -/
theorem enqueueNew_waiting (seen queue found : List α) :
    enqueueNew seen (waiting seen queue) found = waiting seen (queue ++ found) := by
  induction found generalizing queue with
  | nil => simp
  | cons a found ih =>
    rw [enqueueNew_cons, ← waiting_concat, ih]
    simp

/-- Leaving out successors that are known does not change the order of a traversal. -/
theorem traverse_enqueueAll (inner : List α) (next : α → List α) (seen queue : List α) :
    traverse inner next enqueueAll seen queue =
      traverse inner next enqueueNew seen (waiting seen queue) := by
  fun_induction traverse inner next enqueueAll seen queue with
  | case1 seen =>
    rw [waiting, List.filter_nil, List.eraseDups_nil, traverse]
  | case2 seen a queue visited ih => rw [ih, waiting_cons_of_mem visited]
  | case3 seen a queue new member ih =>
    rw [ih, waiting_cons_of_notMem new, traverse, if_neg new, if_pos member, enqueueNew_waiting,
      enqueueAll]
  | case4 seen a queue new absent ih =>
    rw [ih, waiting_cons_of_notMem new, traverse, if_neg new, if_neg absent]

/-- From one node on, both ways to fill the queue give the same order. -/
theorem traverse_enqueueAll_singleton (inner : List α) (next : α → List α) (start : α) :
    traverse inner next enqueueAll [] [start] = traverse inner next enqueueNew [] [start] :=
  traverse_enqueueAll inner next [] [start]

/-! ### Graphs that agree -/

theorem traverse_cons_of_notMem {inner : List α} {enqueue : (seen queue found : List α) → List α}
    (outside : ∀ a, a ∉ inner → next a = []) (keeps : ∀ seen queue, enqueue seen queue [] = queue)
    {seen queue : List α} {a : α} (new : a ∉ seen) :
    traverse inner next enqueue seen (a :: queue) =
      traverse inner next enqueue (seen ++ [a]) (enqueue (seen ++ [a]) queue (next a)) := by
  rw [traverse, if_neg new]
  by_cases member : a ∈ inner
  · rw [if_pos member]
  · rw [if_neg member, outside a member, keeps]

theorem mem_traverse_of_mem_seen {inner : List α}
    {enqueue : (seen queue found : List α) → List α} {seen queue : List α} {a : α}
    (visited : a ∈ seen) : a ∈ traverse inner next enqueue seen queue := by
  fun_induction traverse inner next enqueue seen queue with
  | case1 seen => exact visited
  | case2 seen b queue _ ih => exact ih visited
  | case3 seen b queue _ _ ih => exact ih (List.mem_append_left _ visited)
  | case4 seen b queue _ _ ih => exact ih (List.mem_append_left _ visited)

/-- A graph that has the same successors as another one at every node that a traversal of the other
one visits is traversed in the same way. -/
theorem traverse_congr {inner inner' : List α} {next' : α → List α}
    {enqueue : (seen queue found : List α) → List α}
    (outside : ∀ a, a ∉ inner → next a = []) (outside' : ∀ a, a ∉ inner' → next' a = [])
    (keeps : ∀ seen queue, enqueue seen queue [] = queue) {seen queue : List α}
    (agree : ∀ a ∈ traverse inner next enqueue seen queue, next' a = next a) :
    traverse inner' next' enqueue seen queue = traverse inner next enqueue seen queue := by
  fun_induction traverse inner next enqueue seen queue with
  | case1 seen => rw [traverse]
  | case2 seen a queue visited ih =>
    rw [traverse, if_pos visited]
    exact ih agree
  | case3 seen a queue new _ ih =>
    have same := agree a (mem_traverse_of_mem_seen (by simp))
    rw [traverse_cons_of_notMem outside' keeps new, same]
    exact ih agree
  | case4 seen a queue new absent ih =>
    have same := agree a (mem_traverse_of_mem_seen (by simp))
    rw [traverse_cons_of_notMem outside' keeps new, same, outside a absent, keeps]
    exact ih agree

end TypingBundle.Graph
