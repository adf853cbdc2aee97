import TypingBundle.Indent

/-!
Units of indentation at the beginning of a line, and what exchanging them does. A line is cut into
units and a rest in exactly one way if no further unit begins the rest, although units can be
beginnings of each other and the rest can begin with a part of one.

Main statement: `exchange_of_units`: each leading unit is exchanged for one of the other kind and
nothing else, and this can be undone and continued where the rest does not begin with the new unit.
-/

namespace TypingBundle.Indent

variable {unit replacement line rest rest' : Text} {count count' : Nat}

/-- A line as a number of units and a rest that does not begin with a further one. -/
structure IsCut (unit line : Text) (count : Nat) (rest : Text) : Prop where
  line_eq : line = Text.times unit count ++ rest
  ends : ¬ unit <+: rest

theorem IsCut.zero (ends : ¬ unit <+: line) : IsCut unit line 0 line :=
  ⟨rfl, ends⟩

/-- A unit before a line is one unit more. -/
theorem IsCut.succ (cut : IsCut unit line count rest) :
    IsCut unit (unit ++ line) (count + 1) rest := by
  refine ⟨?_, cut.ends⟩
  rw [cut.line_eq, Text.times, List.append_assoc]

/-- A line that has units begins with one, and what follows has one less. -/
theorem IsCut.exists_of_succ (cut : IsCut unit line (count + 1) rest) :
    ∃ line', line = unit ++ line' ∧ IsCut unit line' count rest := by
  refine ⟨Text.times unit count ++ rest, ?_, rfl, cut.ends⟩
  rw [cut.line_eq, Text.times, List.append_assoc]

theorem leadingUnits_append (nonempty : unit ≠ []) (line : Text) :
    leadingUnits unit (unit ++ line) =
      ((leadingUnits unit line).1 + 1, (leadingUnits unit line).2) := by
  cases unit with
  | nil => exact absurd rfl nonempty
  | cons u unit =>
    rw [leadingUnits]
    split
    next rest found =>
      rw [Text.dropStart?_append] at found
      cases found
      rfl
    next found =>
      rw [Text.dropStart?_append] at found
      cases found

theorem leadingUnits_of_not_prefix (ends : ¬ unit <+: line) :
    leadingUnits unit line = (0, line) := by
  cases unit with
  | nil => exact absurd List.nil_prefix ends
  | cons u unit =>
    rw [leadingUnits]
    split
    next rest found =>
      refine absurd ?_ ends
      exact ⟨rest, (Text.dropStart?_eq_some_iff.1 found).symm⟩
    next => rfl

/-- Whoever cuts a line into units cuts it as it is cut when they are exchanged. -/
theorem IsCut.leadingUnits_eq (nonempty : unit ≠ []) (cut : IsCut unit line count rest) :
    leadingUnits unit line = (count, rest) := by
  induction count generalizing line with
  | zero =>
    obtain ⟨rfl, ends⟩ := cut
    exact leadingUnits_of_not_prefix ends
  | succ count ih =>
    obtain ⟨line', rfl, less⟩ := cut.exists_of_succ
    rw [leadingUnits_append nonempty, ih less]

/-- Every line can be cut into units. Taking them off ends, because each makes the line shorter. -/
theorem isCut_leadingUnits (nonempty : unit ≠ []) (line : Text) :
    IsCut unit line (leadingUnits unit line).1 (leadingUnits unit line).2 := by
  fun_induction leadingUnits unit line with
  | case1 line => exact absurd rfl nonempty
  | case2 u unit line rest found shorter count after counted ih =>
    rw [counted] at ih
    rw [Text.dropStart?_eq_some_iff.1 found]
    exact (ih nonempty).succ
  | case3 u unit line found =>
    refine IsCut.zero ?_
    rintro ⟨rest, begins⟩
    rw [Text.dropStart?_eq_some_iff.2 begins.symm] at found
    cases found

theorem IsCut.unique (nonempty : unit ≠ []) (cut : IsCut unit line count rest)
    (cut' : IsCut unit line count' rest') : count' = count ∧ rest' = rest := by
  have same := (cut'.leadingUnits_eq nonempty).symm.trans (cut.leadingUnits_eq nonempty)
  exact Prod.mk.inj same

theorem IsCut.exchange_eq (nonempty : unit ≠ []) (cut : IsCut unit line count rest)
    (replacement : Text) :
    exchange unit replacement line = Text.times replacement count ++ rest := by
  rw [exchange, cut.leadingUnits_eq nonempty]

/-- Where the rest does not begin with the new unit, the new units are found again. -/
theorem IsCut.exchange (nonempty : unit ≠ []) (cut : IsCut unit line count rest)
    (ends : ¬ replacement <+: rest) :
    IsCut replacement (Indent.exchange unit replacement line) count rest :=
  ⟨cut.exchange_eq nonempty replacement, ends⟩

/-- A line under another unit of indentation. An empty unit is exchanged for nothing. For any other
one the line is a number of units and a rest that does not begin with a further unit, in exactly one
way, and the result has as many units of the other kind before the same rest. If the new unit is not
empty either and the rest does not begin with it, then exchanging the new unit for the old one gives
the line back, and exchanging it for a third one gives what exchanging the old one for the third
does. -/
theorem exchange_of_units (unit replacement line : Text) :
    exchange [] replacement line = line ∧
      (unit ≠ [] → ∃ count rest,
        (line = Text.times unit count ++ rest ∧ ¬ unit <+: rest) ∧
        (∀ count' rest', line = Text.times unit count' ++ rest' → ¬ unit <+: rest' →
          count' = count ∧ rest' = rest) ∧
        exchange unit replacement line = Text.times replacement count ++ rest ∧
        (replacement ≠ [] → ¬ replacement <+: rest →
          exchange replacement unit (exchange unit replacement line) = line ∧
          ∀ third, exchange replacement third (exchange unit replacement line) =
            exchange unit third line)) := by
  refine ⟨?_, ?_⟩
  · rw [exchange, leadingUnits]
    rfl
  · intro nonempty
    have cut := isCut_leadingUnits nonempty line
    refine ⟨_, _, ⟨cut.line_eq, cut.ends⟩, ?_, cut.exchange_eq nonempty replacement, ?_⟩
    · intro count' rest' line_eq ends
      exact cut.unique nonempty ⟨line_eq, ends⟩
    · intro nonempty' ends
      -- The result is cut into the new units just where the line was cut into the old ones.
      have again := cut.exchange nonempty ends
      refine ⟨?_, ?_⟩
      · rw [again.exchange_eq nonempty' unit]
        exact cut.line_eq.symm
      · intro third
        rw [again.exchange_eq nonempty' third, cut.exchange_eq nonempty third]

/-- Two tabs before a rest that has a tab inside become two times four spaces, and back. -/
theorem exchange_of_units_tabs :
    exchange ['\t'] "    ".toList "\t\ta:\tb;".toList = "        a:\tb;".toList ∧
      exchange "    ".toList ['\t'] "        a:\tb;".toList = "\t\ta:\tb;".toList ∧
      exchange "    ".toList "  ".toList "        a:\tb;".toList =
        exchange ['\t'] "  ".toList "\t\ta:\tb;".toList := by
  obtain ⟨count, rest, -, unique, exchanged, back⟩ :=
    (exchange_of_units ['\t'] "    ".toList "\t\ta:\tb;".toList).2 (by decide)
  obtain ⟨rfl, rfl⟩ := unique 2 "a:\tb;".toList (by decide) (by decide)
  obtain ⟨undone, continued⟩ := back (by decide) (by decide)
  have written : exchange ['\t'] "    ".toList "\t\ta:\tb;".toList = "        a:\tb;".toList :=
    exchanged.trans (by decide)
  rw [written] at undone continued
  exact ⟨written, undone, continued "  ".toList⟩

end TypingBundle.Indent
