/-!
Computations that may fail: when a chain of them has an outcome, and what is known of the outcomes
of a list of them.
-/

namespace TypingBundle

theorem except_bind_eq_ok {ε α β : Type} {x : Except ε α} {f : α → Except ε β} {b : β} :
    (x >>= f) = .ok b ↔ ∃ a, x = .ok a ∧ f a = .ok b := by
  cases x with
  | error e => simp [bind, Except.bind]
  | ok a => simp [bind, Except.bind]

theorem except_bind_eq_error {ε α β : Type} {x : Except ε α} {f : α → Except ε β} {e : ε} :
    (x >>= f) = .error e ↔ x = .error e ∨ ∃ a, x = .ok a ∧ f a = .error e := by
  cases x with
  | error e => simp [bind, Except.bind]
  | ok a => simp [bind, Except.bind]

theorem except_map_eq_ok {ε α β : Type} {x : Except ε α} {f : α → β} {b : β} :
    x.map f = .ok b ↔ ∃ a, x = .ok a ∧ f a = b := by
  cases x with
  | error e => simp [Except.map]
  | ok a => simp [Except.map]

/-- Outcomes that keep what they come from: they are as many as what they come from, in its order,
and each is the outcome of its own. -/
theorem mapM_eq_ok_of_key {ε α β : Type} {f : α → Except ε β} {key : β → α}
    (keeps : ∀ a b, f a = .ok b → key b = a) {inputs : List α} {outputs : List β}
    (mapped : inputs.mapM f = .ok outputs) :
    outputs.map key = inputs ∧ ∀ b ∈ outputs, f (key b) = .ok b := by
  induction inputs generalizing outputs with
  | nil =>
    cases mapped
    exact ⟨rfl, by simp⟩
  | cons a inputs ih =>
    rw [List.mapM_cons] at mapped
    obtain ⟨b, first, mapped⟩ := except_bind_eq_ok.1 mapped
    obtain ⟨rest, others, made⟩ := except_bind_eq_ok.1 mapped
    cases made
    obtain ⟨keys, outcomes⟩ := ih others
    have same := keeps a b first
    refine ⟨by rw [List.map_cons, keys, same], ?_⟩
    intro c member
    rcases List.mem_cons.1 member with rfl | later
    · rw [same]
      exact first
    · exact outcomes c later

theorem mapM_congr {ε α β : Type} {f g : α → Except ε β} {inputs : List α}
    (same : ∀ a ∈ inputs, f a = g a) : inputs.mapM f = inputs.mapM g := by
  induction inputs with
  | nil => rfl
  | cons a inputs ih =>
    rw [List.mapM_cons, List.mapM_cons, same a List.mem_cons_self,
      ih fun b member => same b (List.mem_cons_of_mem _ member)]

theorem exists_map_eq_map_some {α β : Type} {f : α → Option β} {inputs : List α}
    (succeeds : ∀ a ∈ inputs, ∃ b, f a = some b) :
    ∃ outputs : List β, inputs.map f = outputs.map some := by
  induction inputs with
  | nil => exact ⟨[], rfl⟩
  | cons a inputs ih =>
    obtain ⟨b, first⟩ := succeeds a List.mem_cons_self
    obtain ⟨rest, others⟩ := ih fun c member => succeeds c (List.mem_cons_of_mem _ member)
    exact ⟨b :: rest, by rw [List.map_cons, List.map_cons, first, others]⟩

theorem exists_mapM_eq_ok {ε α β : Type} {f : α → Except ε β} {inputs : List α}
    (succeeds : ∀ a ∈ inputs, ∃ b, f a = .ok b) : ∃ outputs, inputs.mapM f = .ok outputs := by
  induction inputs with
  | nil => exact ⟨[], rfl⟩
  | cons a inputs ih =>
    obtain ⟨b, first⟩ := succeeds a (by simp)
    obtain ⟨rest, others⟩ := ih fun c member => succeeds c (List.mem_cons_of_mem _ member)
    refine ⟨b :: rest, ?_⟩
    rw [List.mapM_cons, first, others]
    rfl

end TypingBundle
