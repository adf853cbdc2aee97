import TypingBundle.Text.Basic

/-!
Texts and the pieces that they are split into or joined from, which characters they have, and how
lines are found again in the text that they are written to.

Main statement: `splitOn_flatMap`.
-/

namespace TypingBundle.Text

variable {c mark : Char} {separator piece text replacement : Text} {pieces : List Text}

/-! ### Characters -/

theorem infix_join (member : piece ∈ pieces) :
    piece <:+: join separator pieces := by
  induction pieces with
  | nil => cases member
  | cons first rest ih =>
    cases rest with
    | nil =>
      rw [List.mem_singleton.1 member]
      exact List.infix_rfl
    | cons next rest =>
      rw [join]
      rcases List.mem_cons.1 member with rfl | later
      · rw [List.append_assoc]
        exact (List.prefix_append _ _).isInfix
      · exact (ih later).trans (List.suffix_append _ _).isInfix

theorem suffix_of_dropStart? {start rest : Text} (begins : dropStart? start text = some rest) :
    rest <:+ text := by
  rw [dropStart?_eq_some_iff.1 begins]
  exact List.suffix_append start rest

theorem infix_of_mem_split (member : piece ∈ split mark text) : piece <:+: text := by
  have inside : piece <:+: join [mark] (split mark text) := infix_join member
  rwa [join_split] at inside

theorem notMem_join (apart : c ∉ separator) (free : ∀ piece ∈ pieces, c ∉ piece) :
    c ∉ join separator pieces := by
  induction pieces with
  | nil => simp [join]
  | cons piece rest ih =>
    have first := free piece List.mem_cons_self
    cases rest with
    | nil => exact first
    | cons next rest =>
      have later := ih fun p member => free p (List.mem_cons_of_mem _ member)
      simp [join, first, apart, later]

theorem notMem_replaceChar (apart : c ∉ replacement) (free : c ∉ text) :
    c ∉ replaceChar mark replacement text := by
  rw [replaceChar, List.mem_flatMap]
  rintro ⟨d, member, inside⟩
  split at inside
  · exact apart inside
  · rw [List.mem_singleton.1 inside] at free
    exact free member

theorem notMem_replacePair (apart : c ∉ replacement) (free : c ∉ text) :
    c ∉ replacePair mark replacement text := by
  fun_induction replacePair mark replacement text with
  | case1 => exact free
  | case2 d => exact free
  | case3 d e text both ih =>
    simp only [List.mem_cons, not_or] at free
    simp [apart, ih free.2.2]
  | case4 d e text other ih =>
    rw [List.mem_cons, not_or] at free
    simp [free.1, ih free.2]

theorem notMem_times (free : c ∉ text) (n : Nat) : c ∉ times text n := by
  induction n with
  | zero => simp [times]
  | succ n ih => simp [times, free, ih]

/-! ### Lines -/

/-- Joined pieces that are ended by the separator are each ended by it. -/
theorem join_append (separator : Text) (nonempty : pieces ≠ []) :
    join separator pieces ++ separator = pieces.flatMap (· ++ separator) := by
  induction pieces with
  | nil => contradiction
  | cons piece rest ih =>
    cases rest with
    | nil => simp [join]
    | cons next rest =>
      rw [join, List.flatMap_cons, ← ih (List.cons_ne_nil next rest)]
      simp only [List.append_assoc]

/-- What stands before and what stands after the first occurrence of a separator. -/
def cut? (separator text : Text) : Option (Text × Text) :=
  match dropStart? separator text, text with
  | some rest, _ => some ([], rest)
  | none, [] => none
  | none, c :: text => (cut? separator text).map fun parts => (c :: parts.1, parts.2)

/-- The pieces between the occurrences of a separator, which are found from left to right. -/
def splitOn (separator text : Text) : List Text :=
  match cut? separator text with
  | some (piece, rest) =>
    if rest.length < text.length then piece :: splitOn separator rest else [text]
  | none => [text]
termination_by text.length

/-- What stands before the first mark is known again, and so is what stands behind it. -/
theorem append_mark_inj {first second rest rest' : Text} (free : mark ∉ first)
    (free' : mark ∉ second) (same : first ++ mark :: rest = second ++ mark :: rest') :
    first = second ∧ rest = rest' := by
  have pieces := congrArg (split mark) same
  rw [split_append_mark free, split_append_mark free'] at pieces
  obtain rfl : first = second := (List.cons.inj pieces).1
  exact ⟨rfl, (List.cons.inj (List.append_cancel_left same)).2⟩

theorem cut?_of_dropStart? {rest : Text} (begins : dropStart? separator text = some rest) :
    cut? separator text = some ([], rest) := by
  unfold cut?
  rw [begins]

theorem cut?_cons (other : dropStart? separator (c :: text) = none) :
    cut? separator (c :: text) =
      (cut? separator text).map fun parts => (c :: parts.1, parts.2) := by
  rw [cut?.eq_def]
  simp only [other]

/-- A separator ends in a mark that is nowhere else in it. It is first found behind a line without
marks, also where the line ends like the separator begins. -/
theorem cut?_append {front line : Text} (apart : mark ∉ front) (free : mark ∉ line) (rest : Text) :
    cut? (front ++ [mark]) (line ++ (front ++ [mark]) ++ rest) = some (line, rest) := by
  induction line with
  | nil => exact cut?_of_dropStart? (by rw [List.nil_append, dropStart?_append])
  | cons d line ih =>
    simp only [List.mem_cons, not_or] at free
    -- Found at the beginning, it would bring the first mark nearer than it is.
    have other : dropStart? (front ++ [mark]) (d :: line ++ (front ++ [mark]) ++ rest) = none := by
      cases begins : dropStart? (front ++ [mark]) (d :: line ++ (front ++ [mark]) ++ rest) with
      | none => rfl
      | some tail =>
        have same : (d :: line ++ front) ++ mark :: rest = front ++ mark :: tail := by
          simpa using dropStart?_eq_some_iff.1 begins
        have marked : mark ∉ d :: line ++ front := by simp [free, apart]
        have lengths := congrArg List.length (append_mark_inj marked apart same).1
        simp only [List.cons_append, List.length_cons, List.length_append] at lengths
        omega
    have later := ih free.2
    simp only [List.cons_append] at other ⊢
    rw [cut?_cons other, later]
    rfl

/-- Lines that are each ended by a separator are found again between the separators. -/
theorem splitOn_flatMap {front : Text} {lines : List Text} (apart : mark ∉ front)
    (free : ∀ line ∈ lines, mark ∉ line) :
    splitOn (front ++ [mark]) (lines.flatMap (· ++ (front ++ [mark]))) = lines ++ [[]] := by
  induction lines with
  | nil =>
    have none : cut? (front ++ [mark]) [] = none := by
      unfold cut?
      cases front <;> rfl
    rw [List.flatMap_nil, splitOn, none]
    rfl
  | cons line lines ih =>
    have first := cut?_append apart (free line List.mem_cons_self)
      (lines.flatMap (· ++ (front ++ [mark])))
    have later := ih fun l member => free l (List.mem_cons_of_mem _ member)
    have shorter : (lines.flatMap (· ++ (front ++ [mark]))).length <
        (line ++ (front ++ [mark]) ++ lines.flatMap (· ++ (front ++ [mark]))).length := by
      simp only [List.length_append, List.length_singleton]
      omega
    rw [List.flatMap_cons, splitOn, first]
    simp only [if_pos shorter, later, List.cons_append]

end TypingBundle.Text
