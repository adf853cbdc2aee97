import TypingBundle.Indent

/-!
The unit of indentation that is found in a text. Steps are counted in a tally, which may list them
in any order: the best entry of a tally is better than every other one, and so does not depend on
where it stands.

Main statement: `detectFrom?_eq_iff`: the unit, from the lines and the widths by which they are
indented, for every order of the tally.
-/

namespace TypingBundle.Indent

/-! ### The best entry of a tally -/

section

variable {a b c : Nat × Nat} {entries : List (Nat × Nat)}

theorem isBetter_iff : isBetter a b = true ↔ b.2 < a.2 ∨ (a.2 = b.2 ∧ a.1 < b.1) := by
  simp [isBetter]

theorem isBetter_eq_false_iff : isBetter a b = false ↔ a.2 < b.2 ∨ (a.2 = b.2 ∧ b.1 ≤ a.1) := by
  rw [← Bool.not_eq_true, isBetter_iff]
  omega

/-- Of two different entries one is better. -/
theorem eq_of_isBetter_eq_false (left : isBetter a b = false) (right : isBetter b a = false) :
    a = b := by
  rw [isBetter_eq_false_iff] at left right
  apply Prod.ext
  · omega
  · omega

theorem isBetter_eq_false_trans (left : isBetter b a = false) (right : isBetter c b = false) :
    isBetter c a = false := by
  rw [isBetter_eq_false_iff] at left right ⊢
  omega

/-- The entry that is left of two is one of them, and neither is better. -/
theorem better_spec (a b : Nat × Nat) :
    (better a b = a ∨ better a b = b) ∧ isBetter a (better a b) = false ∧
      isBetter b (better a b) = false := by
  unfold better
  by_cases first : isBetter a b = true
  · rw [if_pos first]
    rw [isBetter_iff] at first
    refine ⟨Or.inl rfl, ?_, ?_⟩
    · exact isBetter_eq_false_iff.2 (Or.inr ⟨rfl, Nat.le_refl _⟩)
    · rw [isBetter_eq_false_iff]
      omega
  · rw [if_neg first]
    refine ⟨Or.inr rfl, ?_, ?_⟩
    · simpa using first
    · exact isBetter_eq_false_iff.2 (Or.inr ⟨rfl, Nat.le_refl _⟩)

theorem foldl_better (first : Nat × Nat) (rest : List (Nat × Nat)) :
    rest.foldl better first ∈ first :: rest ∧
      ∀ entry ∈ first :: rest, isBetter entry (rest.foldl better first) = false := by
  induction rest generalizing first with
  | nil =>
    refine ⟨List.mem_cons_self, ?_⟩
    intro entry member
    rw [List.mem_singleton.1 member]
    exact isBetter_eq_false_iff.2 (Or.inr ⟨rfl, Nat.le_refl _⟩)
  | cons second rest ih =>
    obtain ⟨oneOf, left, right⟩ := better_spec first second
    obtain ⟨member, best⟩ := ih (better first second)
    rw [List.foldl_cons]
    have leader := best _ List.mem_cons_self
    refine ⟨?_, ?_⟩
    · rcases List.mem_cons.1 member with same | later
      · rw [same]
        rcases oneOf with one | one
        · simp [one]
        · simp [one]
      · exact List.mem_cons_of_mem _ (List.mem_cons_of_mem _ later)
    · intro entry listed
      rcases List.mem_cons.1 listed with rfl | listed
      · exact isBetter_eq_false_trans leader left
      · rcases List.mem_cons.1 listed with rfl | listed
        · exact isBetter_eq_false_trans leader right
        · exact best entry (List.mem_cons_of_mem _ listed)

/-- The best entry is the one that no entry is better than. This says nothing of places, so it is
the same for every order. -/
theorem best?_eq_some_iff :
    best? entries = some b ↔ b ∈ entries ∧ ∀ entry ∈ entries, isBetter entry b = false := by
  cases entries with
  | nil => simp [best?]
  | cons first rest =>
    obtain ⟨member, best⟩ := foldl_better first rest
    rw [best?, Option.some.injEq]
    constructor
    · rintro rfl
      exact ⟨member, best⟩
    · rintro ⟨member', best'⟩
      exact eq_of_isBetter_eq_false (best' _ member) (best _ member')

theorem best?_eq_none_iff : best? entries = none ↔ entries = [] := by
  cases entries with
  | nil => simp [best?]
  | cons first rest => simp [best?]

end

/-! ### Steps -/

/-- How often a width is `d` more than the one before it; the first is compared with 0. -/
def rises (widths : List Nat) (d : Nat) : Nat :=
  ((0 :: widths).zip widths).countP fun pair => pair.1 + d = pair.2

/-- The widths of the shown lines that do not begin with a tab. -/
def widths (text : Text) : List Nat :=
  ((shownLines text).filter fun line => line.head? ≠ some '\t').map width

/-- The smallest one of the most frequent steps among those of at least `least` spaces. -/
structure IsUsual (widths : List Nat) (least w : Nat) : Prop where
  wide : least ≤ w
  occurs : 0 < rises widths w
  frequent : ∀ d, least ≤ d → rises widths d ≤ rises widths w
  smallest : ∀ d, least ≤ d → rises widths d = rises widths w → w ≤ d

section

variable {text : Text} {order : List (Nat × Nat)} {previous least w d count : Nat}
  {numbers ws : List Nat}

theorem count_increases (positive : 0 < d) :
    (increases previous ws).count d =
      ((previous :: ws).zip ws).countP fun pair => pair.1 + d = pair.2 := by
  induction ws generalizing previous with
  | nil => rfl
  | cons w ws ih =>
    rw [increases, List.zip_cons_cons, List.countP_cons, ← ih]
    by_cases more : previous < w
    · rw [if_pos more, List.count_cons]
      have same : (w - previous == d) = decide (previous + d = w) := by
        rw [Bool.eq_iff_iff, beq_iff_eq, decide_eq_true_eq]
        omega
      rw [same]
    · have other : ¬ previous + d = w := by omega
      rw [if_neg more]
      simp [other]

theorem pos_of_mem_increases (member : d ∈ increases previous ws) : 0 < d := by
  induction ws generalizing previous with
  | nil => cases member
  | cons w ws ih =>
    rw [increases] at member
    by_cases more : previous < w
    · rw [if_pos more] at member
      rcases List.mem_cons.1 member with rfl | later
      · omega
      · exact ih later
    · rw [if_neg more] at member
      exact ih member

/-- Where no width is more than the one before, none is more than the first. -/
theorem le_of_increases_eq_nil (flat : increases previous ws = []) : ∀ w ∈ ws, w ≤ previous := by
  induction ws generalizing previous with
  | nil =>
    intro w member
    cases member
  | cons first ws ih =>
    rw [increases] at flat
    by_cases more : previous < first
    · rw [if_pos more] at flat
      cases flat
    · rw [if_neg more] at flat
      intro w member
      rcases List.mem_cons.1 member with rfl | later
      · omega
      · have := ih flat w later
        omega

theorem steps_eq (text : Text) : steps text = increases 0 (widths text) := by
  rw [steps, widths]
  congr 3
  funext line
  simp [isTabbed]

/-- A tally lists every number with that of its occurrences. -/
theorem mem_tally : (w, count) ∈ tally numbers ↔ 0 < numbers.count w ∧ count = numbers.count w := by
  rw [tally, List.mem_map, List.count_pos_iff]
  constructor
  · rintro ⟨w', member, same⟩
    cases same
    exact ⟨List.mem_eraseDups.1 member, rfl⟩
  · rintro ⟨member, rfl⟩
    exact ⟨w, List.mem_eraseDups.2 member, rfl⟩

/-- In whatever order the steps of a text are counted, the entries are its steps with the number of
their occurrences. -/
theorem mem_order (listed : order.Perm (tally (steps text))) :
    (w, count) ∈ order ↔ 0 < w ∧ 0 < rises (widths text) w ∧ count = rises (widths text) w := by
  rw [listed.mem_iff, mem_tally, steps_eq]
  constructor
  · rintro ⟨occurs, rfl⟩
    have positive := pos_of_mem_increases (List.count_pos_iff.1 occurs)
    rw [count_increases positive] at occurs ⊢
    exact ⟨positive, occurs, rfl⟩
  · rintro ⟨positive, occurs, rfl⟩
    rw [count_increases positive]
    exact ⟨occurs, rfl⟩

theorem mem_filter_order (listed : order.Perm (tally (steps text))) (positive : 0 < least) :
    (w, count) ∈ order.filter (least ≤ ·.1) ↔
      least ≤ w ∧ 0 < rises (widths text) w ∧ count = rises (widths text) w := by
  rw [List.mem_filter, mem_order listed, decide_eq_true_eq]
  constructor
  · rintro ⟨⟨_, occurs⟩, wide⟩
    exact ⟨wide, occurs⟩
  · rintro ⟨wide, occurs⟩
    exact ⟨⟨Nat.lt_of_lt_of_le positive wide, occurs⟩, wide⟩

/-- The usual step is the one whose entry no entry for a step of at least `least` is better than. -/
theorem isUsual_iff (listed : order.Perm (tally (steps text))) (positive : 0 < least) :
    IsUsual (widths text) least w ↔
      (w, rises (widths text) w) ∈ order.filter (least ≤ ·.1) ∧
        ∀ entry ∈ order.filter (least ≤ ·.1),
          isBetter entry (w, rises (widths text) w) = false := by
  constructor
  · intro usual
    refine ⟨(mem_filter_order listed positive).2 ⟨usual.wide, usual.occurs, rfl⟩, ?_⟩
    rintro ⟨d, count⟩ inside
    obtain ⟨enough, _, rfl⟩ := (mem_filter_order listed positive).1 inside
    rw [isBetter_eq_false_iff]
    by_cases same : rises (widths text) d = rises (widths text) w
    · exact Or.inr ⟨same, usual.smallest d enough same⟩
    · exact Or.inl (Nat.lt_of_le_of_ne (usual.frequent d enough) same)
  · rintro ⟨inside, best⟩
    obtain ⟨wide, occurs, -⟩ := (mem_filter_order listed positive).1 inside
    -- A step that does not occur is not in the tally, but it is less frequent too.
    have beaten (d : Nat) (enough : least ≤ d) : rises (widths text) d < rises (widths text) w ∨
        (rises (widths text) d = rises (widths text) w ∧ w ≤ d) := by
      by_cases zero : rises (widths text) d = 0
      · omega
      · have entry := (mem_filter_order listed positive).2
          ⟨enough, Nat.pos_of_ne_zero zero, rfl⟩
        exact isBetter_eq_false_iff.1 (best _ entry)
    refine ⟨wide, occurs, ?_, ?_⟩
    · intro d enough
      have := beaten d enough
      omega
    · intro d enough same
      have := beaten d enough
      omega

theorem frequent?_eq_some_iff (listed : order.Perm (tally (steps text)))
    (positive : 0 < least) :
    frequent? least order = some w ↔ IsUsual (widths text) least w := by
  rw [frequent?, Option.map_eq_some_iff, isUsual_iff listed positive]
  constructor
  · rintro ⟨⟨w', count⟩, found, rfl⟩
    obtain ⟨inside, best⟩ := best?_eq_some_iff.1 found
    obtain ⟨_, _, rfl⟩ := (mem_filter_order listed positive).1 inside
    exact ⟨inside, best⟩
  · intro best
    exact ⟨_, best?_eq_some_iff.2 best, rfl⟩

theorem frequent?_eq_none_iff (listed : order.Perm (tally (steps text)))
    (positive : 0 < least) :
    frequent? least order = none ↔ ∀ d, least ≤ d → rises (widths text) d = 0 := by
  rw [frequent?, Option.map_eq_none_iff, best?_eq_none_iff, List.eq_nil_iff_forall_not_mem]
  constructor
  · intro none d enough
    apply Nat.eq_zero_of_not_pos
    intro occurs
    exact none _ ((mem_filter_order listed positive).2 ⟨enough, occurs, rfl⟩)
  · rintro none ⟨d, count⟩ inside
    obtain ⟨enough, occurs, _⟩ := (mem_filter_order listed positive).1 inside
    rw [none d enough] at occurs
    cases occurs

/-- Lines that begin with a space make a step. -/
theorem exists_rise {line : Text} (shown : line ∈ shownLines text)
    (spaced : line.head? = some ' ') :
    ∃ d, 1 ≤ d ∧ rises (widths text) d ≠ 0 := by
  have wide : 0 < width line := by
    cases line with
    | nil => cases spaced
    | cons c line =>
      cases spaced
      simp [width]
  have counted : width line ∈ widths text := by
    apply List.mem_map_of_mem
    rw [List.mem_filter]
    exact ⟨shown, by simp [spaced]⟩
  cases all : increases 0 (widths text) with
  | nil =>
    have := le_of_increases_eq_nil all _ counted
    omega
  | cons d rest =>
    have member : d ∈ increases 0 (widths text) := by simp [all]
    have positive := pos_of_mem_increases member
    refine ⟨d, positive, ?_⟩
    rw [rises, ← count_increases positive]
    exact Nat.ne_of_gt (List.count_pos_iff.2 member)

/-- Where there is a step, one is chosen: the usual one, or a single space if none is wider. -/
theorem step?_eq_some_iff (listed : order.Perm (tally (steps text)))
    (indented : ∃ d, 1 ≤ d ∧ rises (widths text) d ≠ 0) :
    step? order = some w ↔ IsUsual (widths text) 2 w ∨
      ((∀ d, 2 ≤ d → rises (widths text) d = 0) ∧ w = 1) := by
  rw [step?, Option.or_eq_some_iff, frequent?_eq_some_iff listed (by decide),
    frequent?_eq_none_iff listed (by decide), frequent?_eq_some_iff listed (by decide)]
  apply or_congr_right
  apply and_congr_right
  intro narrow
  have single (d : Nat) (occurs : rises (widths text) d ≠ 0) : d < 2 := by
    by_cases wider : 2 ≤ d
    · exact absurd (narrow d wider) occurs
    · omega
  constructor
  · intro usual
    have := usual.wide
    have := single w (Nat.ne_of_gt usual.occurs)
    omega
  · rintro rfl
    obtain ⟨d, positive, occurs⟩ := indented
    obtain rfl : d = 1 := by
      have := single d occurs
      omega
    refine ⟨by decide, Nat.pos_of_ne_zero occurs, ?_, fun d enough _ => enough⟩
    intro d enough
    by_cases one : d = 1
    · exact Nat.le_of_eq (congrArg _ one)
    · rw [narrow d (by omega)]
      exact Nat.zero_le _

theorem exists_step? (listed : order.Perm (tally (steps text)))
    (indented : ∃ d, 1 ≤ d ∧ rises (widths text) d ≠ 0) : ∃ w, step? order = some w := by
  cases step : step? order with
  | some w => exact ⟨w, rfl⟩
  | none =>
    rw [step?, Option.or_eq_none_iff] at step
    obtain ⟨d, enough, occurs⟩ := indented
    exact absurd ((frequent?_eq_none_iff listed (by decide)).1 step.2 d enough) occurs

end

/-! ### The unit of a text -/

section

variable {text unit : Text} {order : List (Nat × Nat)}

/-- How many lines that are not blank begin with a character. -/
def beginning (text : Text) (c : Char) : Nat :=
  (shownLines text).countP fun line => line.head? = some c

theorem beginning_eq_zero_iff {c : Char} :
    beginning text c = 0 ↔ ∀ line ∈ shownLines text, line.head? ≠ some c := by
  simp [beginning, List.countP_eq_zero]

theorem detectFrom?_eq (order : List (Nat × Nat)) (text : Text) :
    detectFrom? order text =
      if beginning text '\t' = 0 ∧ beginning text ' ' = 0 then none
      else if beginning text ' ' < beginning text '\t' then some ['\t']
      else (step? order).map (List.replicate · ' ') := rfl

/-- Where spaces lead, there is a step. -/
theorem exists_rise_of_spaced (spaced : beginning text ' ' ≠ 0) :
    ∃ d, 1 ≤ d ∧ rises (widths text) d ≠ 0 := by
  obtain ⟨line, shown, begins⟩ := List.countP_pos_iff.1 (Nat.pos_of_ne_zero spaced)
  exact exists_rise shown (by simpa using begins)

theorem detectFrom?_eq_none_iff (listed : order.Perm (tally (steps text))) :
    detectFrom? order text = none ↔ beginning text '\t' = 0 ∧ beginning text ' ' = 0 := by
  rw [detectFrom?_eq]
  by_cases flat : beginning text '\t' = 0 ∧ beginning text ' ' = 0
  · simp [flat]
  · rw [if_neg flat]
    by_cases tabs : beginning text ' ' < beginning text '\t'
    · simp [tabs, flat]
    · rw [if_neg tabs]
      obtain ⟨w, step⟩ := exists_step? listed (exists_rise_of_spaced (by omega))
      simp [step, flat]

theorem detectFrom?_eq_some_iff (listed : order.Perm (tally (steps text))) :
    detectFrom? order text = some unit ↔
      (beginning text '\t' ≠ 0 ∨ beginning text ' ' ≠ 0) ∧
        ((beginning text ' ' < beginning text '\t' ∧ unit = ['\t']) ∨
          (beginning text '\t' ≤ beginning text ' ' ∧
            ∃ w, IsUsual (widths text) 2 w ∧ unit = List.replicate w ' ') ∨
          (beginning text '\t' ≤ beginning text ' ' ∧
            (∀ d, 2 ≤ d → rises (widths text) d = 0) ∧ unit = [' '])) := by
  rw [detectFrom?_eq]
  by_cases flat : beginning text '\t' = 0 ∧ beginning text ' ' = 0
  · simp [flat]
  · have indented : beginning text '\t' ≠ 0 ∨ beginning text ' ' ≠ 0 := by omega
    rw [if_neg flat, and_iff_right indented]
    by_cases tabs : beginning text ' ' < beginning text '\t'
    · have : ¬ beginning text '\t' ≤ beginning text ' ' := by omega
      rw [if_pos tabs]
      simp [tabs, this, eq_comm]
    · have : beginning text '\t' ≤ beginning text ' ' := by omega
      have steps : ∃ d, 1 ≤ d ∧ rises (widths text) d ≠ 0 := exists_rise_of_spaced (by omega)
      rw [if_neg tabs, Option.map_eq_some_iff]
      simp only [step?_eq_some_iff listed steps, tabs, this, false_and, true_and, false_or]
      constructor
      · rintro ⟨w, usual | ⟨narrow, rfl⟩, rfl⟩
        · exact Or.inl ⟨w, usual, rfl⟩
        · exact Or.inr ⟨narrow, rfl⟩
      · rintro (⟨w, usual, rfl⟩ | ⟨narrow, rfl⟩)
        · exact ⟨w, Or.inl usual, rfl⟩
        · exact ⟨1, Or.inr ⟨narrow, rfl⟩, rfl⟩

theorem ne_nil_of_detectFrom? (listed : order.Perm (tally (steps text)))
    (found : detectFrom? order text = some unit) : unit ≠ [] := by
  obtain ⟨_, cases⟩ := (detectFrom?_eq_some_iff listed).1 found
  rcases cases with ⟨_, rfl⟩ | ⟨_, w, usual, rfl⟩ | ⟨_, _, rfl⟩
  · simp
  · have := usual.wide
    rw [Ne, List.replicate_eq_nil_iff]
    omega
  · simp

end

/-- The unit that a text is indented with, in whatever order its steps are listed. There is none
exactly if no line that is not blank begins with a tab or a space. Otherwise it is a tab if more of
these lines begin with a tab than with a space. Otherwise it is the usual step in spaces: among the
steps of at least two spaces from one of these lines to the next, those that begin with a tab left
out, the most frequent one and of several the smallest; or a single space if there is no such step.
So it is never empty, and every order gives the unit that is detected. -/
theorem detectFrom?_eq_iff (text : Text) (order : List (Nat × Nat))
    (listed : order.Perm (tally (steps text))) :
    (detectFrom? order text = none ↔
        ∀ line ∈ shownLines text, line.head? ≠ some '\t' ∧ line.head? ≠ some ' ') ∧
      (∀ unit, detectFrom? order text = some unit ↔
        (beginning text '\t' ≠ 0 ∨ beginning text ' ' ≠ 0) ∧
          ((beginning text ' ' < beginning text '\t' ∧ unit = ['\t']) ∨
            (beginning text '\t' ≤ beginning text ' ' ∧
              ∃ w, IsUsual (widths text) 2 w ∧ unit = List.replicate w ' ') ∨
            (beginning text '\t' ≤ beginning text ' ' ∧
              (∀ d, 2 ≤ d → rises (widths text) d = 0) ∧ unit = [' ']))) ∧
      detectFrom? order text ≠ some [] ∧
      detectFrom? order text = detect? text := by
  refine ⟨?_, fun unit => detectFrom?_eq_some_iff listed, ?_, ?_⟩
  · rw [detectFrom?_eq_none_iff listed, beginning_eq_zero_iff, beginning_eq_zero_iff]
    constructor
    · rintro ⟨tabless, spaceless⟩ line shown
      exact ⟨tabless line shown, spaceless line shown⟩
    · intro flat
      exact ⟨fun line shown => (flat line shown).1, fun line shown => (flat line shown).2⟩
  · intro empty
    exact ne_nil_of_detectFrom? listed empty rfl
  · apply Option.ext
    intro unit
    rw [detect?, detectFrom?_eq_some_iff listed, detectFrom?_eq_some_iff (List.Perm.refl _)]

/-- Steps of four and of two spaces occur twice each, and the smaller one is chosen also where it is
listed last. The step of one space, although it occurs three times, does not count beside them. -/
theorem detectFrom?_eq_iff_tie :
    let text := "a\n  b\n      c\n       *\nd\n    e\n     *\nf\n  g\n   *\nh".toList
    [(1, 3), (4, 2), (2, 2)].Perm (tally (steps text)) ∧
      detectFrom? [(1, 3), (4, 2), (2, 2)] text = detect? text ∧
      detectFrom? [(1, 3), (4, 2), (2, 2)] text = some "  ".toList := by
  intro text
  have listed : [(1, 3), (4, 2), (2, 2)].Perm (tally (steps text)) := by decide
  have same := (detectFrom?_eq_iff text _ listed).2.2.2
  exact ⟨listed, same, same.trans (by decide)⟩

end TypingBundle.Indent
