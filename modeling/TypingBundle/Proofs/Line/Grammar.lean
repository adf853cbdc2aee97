import Mathlib.Data.List.TakeWhile
import TypingBundle.Proofs.Line.Specifier

/-!
The grammar of import lines. A line splits around a quoted specifier where it can be cut into a
lead, a specifier between two equal quote marks, and a trail, each of the form that a style of
imports asks for. A line can split in several ways; those of one style differ in their leads.

Main statements: `findsFirst_requireImport?`, `findsFirst_clauseImport?` and
`findsFirst_sideEffectImport?` for one style each, and `import?_shortest` for all three: what is
found in a line is the split with the shortest lead of the first style that has one.
-/

namespace TypingBundle

/-- Whether a word begins or ends where two texts meet: one neighbour is a character of words and
the other is not. -/
def Text.IsWordBoundary (before after : Text) : Prop :=
  before.getLast?.any isWord ≠ after.head?.any isWord

instance (before after : Text) : Decidable (Text.IsWordBoundary before after) :=
  inferInstanceAs (Decidable (_ ≠ _))

namespace Line

/-! ### Splits of a line -/

namespace ImportStyle

/-- What may stand before the quotes. -/
inductive IsLead : ImportStyle → Text → Prop where
  | require {blanks exported target : Text} (indented : ∀ c ∈ blanks, isIndent c = true)
      (optional : exported = [] ∨ exported = "export ".toList) (nonempty : target ≠ [])
      (oneLine : '\n' ∉ target) :
      IsLead require (blanks ++ exported ++ "import ".toList ++ target ++ " = require(".toList)
  | esModule {blanks keyword names gap : Text} (indented : ∀ c ∈ blanks, isIndent c = true)
      (either : keyword = "export".toList ∨ keyword = "import".toList)
      (ends : Text.IsWordBoundary keyword (names ++ "from".toList)) (oneLine : '\n' ∉ names)
      (begins : Text.IsWordBoundary (keyword ++ names) "from".toList)
      (optional : gap = [] ∨ gap = [' ']) :
      IsLead esModule (blanks ++ keyword ++ names ++ "from".toList ++ gap)
  | sideEffect {blanks gap : Text} (indented : ∀ c ∈ blanks, isIndent c = true)
      (optional : gap = [] ∨ gap = [' ']) :
      IsLead sideEffect (blanks ++ "import".toList ++ gap)

/-- Which characters a specifier may hold beside its own quote mark. -/
def allows : ImportStyle → Char → Bool
  | require => fun _ => true
  | esModule | sideEffect => isClauseChar

/-- What the text behind the quotes begins with. -/
def closing : ImportStyle → Text
  | require => ");".toList
  | esModule | sideEffect => ";".toList

end ImportStyle

/-- What holds of the parts of a line from the quotes on. -/
structure QuotedSpecifier.IsClosed (allows : Char → Bool) (closing : Text) (q : QuotedSpecifier) :
    Prop where
  quoted : q.quote = '\x27' ∨ q.quote = '"'
  nonempty : q.specifier ≠ []
  inside : ∀ c ∈ q.specifier, c ≠ q.quote ∧ allows c = true
  closes : closing <+: q.trail
  oneLine : '\n' ∉ q.trail

/-- Whether a line, cut into parts, is an import line of a style. -/
structure ImportStyle.Splits (style : ImportStyle) (line : Text) (q : QuotedSpecifier) : Prop where
  whole : q.lead ++ [q.quote] ++ q.specifier ++ [q.quote] ++ q.trail = line
  isLead : style.IsLead q.lead
  isClosed : q.IsClosed style.allows style.closing

/-- Whether a line is cut into the parts of an import line of a style with as short a lead as can
be. -/
structure ImportStyle.SplitsFirst (style : ImportStyle) (line : Text) (q : QuotedSpecifier) :
    Prop where
  splits : style.Splits line q
  shortest : ∀ other, style.Splits line other → q.lead.length ≤ other.lead.length

variable {allowed : Char → Bool} {lead line text closing : Text} {q p : QuotedSpecifier}

/-! ### Quoted specifiers -/

theorem isQuote_iff {c : Char} : isQuote c = true ↔ c = '\x27' ∨ c = '"' := by
  simp [isQuote]

theorem quotedSpecifier?_eq_some_iff :
    quotedSpecifier? allowed lead text = some q ↔
      q.lead = lead ∧ text = q.quote :: q.specifier ++ q.quote :: q.trail ∧
        (q.quote = '\x27' ∨ q.quote = '"') ∧ q.specifier ≠ [] ∧
          ∀ c ∈ q.specifier, c ≠ q.quote ∧ allowed c = true := by
  constructor
  · intro read
    obtain ⟨start, written⟩ := quotedSpecifier?_eq_some read
    refine ⟨start, written, ?_⟩
    unfold quotedSpecifier? at read
    split at read
    · cases read
    · rename_i quote rest
      dsimp only at read
      split at read
      · cases read
      · split at read
        · rename_i closes
          simp only [Bool.and_eq_true, decide_eq_true_eq] at closes
          cases read
          refine ⟨isQuote_iff.1 closes.1.1, closes.2, ?_⟩
          intro c member
          simpa using List.mem_takeWhile_imp member
        · cases read
  · obtain ⟨start, quote, specifier, trail⟩ := q
    rintro ⟨rfl, written, quoted, nonempty, inside⟩
    dsimp only at written quoted nonempty inside
    have all : ∀ c ∈ specifier, (decide (c ≠ quote) && allowed c) = true := by
      intro c member
      simpa using inside c member
    have dropped : (specifier ++ quote :: trail).dropWhile
        (fun c => decide (c ≠ quote) && allowed c) = quote :: trail := by
      rw [List.dropWhile_append_of_pos all, List.dropWhile_cons_of_neg (by simp)]
    have taken : (specifier ++ quote :: trail).takeWhile
        (fun c => decide (c ≠ quote) && allowed c) = specifier := by
      rw [List.takeWhile_append_of_pos all, List.takeWhile_cons_of_neg (by simp), List.append_nil]
    rw [written, List.cons_append, quotedSpecifier?]
    simp only [dropped, taken, isQuote_iff.2 quoted, nonempty, ne_eq, not_false_eq_true,
      decide_true, Bool.and_true, if_true]

theorem followedBy_eq_some_iff :
    followedBy closing q = some p ↔ p = q ∧ closing <+: q.trail ∧ '\n' ∉ q.trail := by
  have begins : Text.startsWith closing q.trail = true ↔ closing <+: q.trail := by
    rw [Text.startsWith, Option.isSome_iff_exists]
    simp only [Text.dropStart?_eq_some_iff]
    exact ⟨fun ⟨rest, written⟩ => ⟨rest, written.symm⟩, fun ⟨rest, written⟩ => ⟨rest, written.symm⟩⟩
  unfold followedBy
  split
  · rename_i followed
    simp only [Bool.and_eq_true, begins, onOneLine, decide_eq_true_eq] at followed
    simp [followed, eq_comm]
  · rename_i other
    simp only [Bool.and_eq_true, begins, onOneLine, decide_eq_true_eq] at other
    simp [other]

/-- A specifier is read with what has to follow it. -/
theorem closedSpecifier?_eq_some_iff :
    (quotedSpecifier? allowed lead text).bind (followedBy closing) = some q ↔
      q.lead = lead ∧ text = q.quote :: q.specifier ++ q.quote :: q.trail ∧
        q.IsClosed allowed closing := by
  simp only [Option.bind_eq_some_iff, followedBy_eq_some_iff, quotedSpecifier?_eq_some_iff]
  constructor
  · rintro ⟨inner, ⟨start, written, quoted, nonempty, inside⟩, rfl, closes, oneLine⟩
    exact ⟨start, written, quoted, nonempty, inside, closes, oneLine⟩
  · rintro ⟨start, written, closed⟩
    exact ⟨q, ⟨start, written, closed.quoted, closed.nonempty, closed.inside⟩, rfl, closed.closes,
      closed.oneLine⟩

/-- What a line is cut into is told by the lead. -/
theorem QuotedSpecifier.IsClosed.eq_of_lead {allowed' : Char → Bool} {closing' : Text}
    (closed : q.IsClosed allowed closing) (closed' : p.IsClosed allowed' closing')
    (lead : q.lead = p.lead)
    (whole : q.withSpecifier q.specifier = p.withSpecifier p.specifier) : q = p := by
  obtain ⟨start, quote, specifier, trail⟩ := q
  obtain ⟨start', quote', specifier', trail'⟩ := p
  dsimp only at lead
  subst lead
  simp only [withSpecifier, List.append_assoc, List.append_cancel_left_eq, List.cons_append,
    List.cons.injEq] at whole
  obtain ⟨rfl, whole⟩ := whole
  have free : quote ∉ specifier := fun member => (closed.inside quote member).1 rfl
  have free' : quote ∉ specifier' := fun member => (closed'.inside quote member).1 rfl
  -- Both specifiers end at the first quote mark.
  have first : specifier = specifier' := by
    have taken := congrArg (List.takeWhile (fun c => decide (c ≠ quote))) whole
    rwa [List.takeWhile_append_of_pos (by simpa using fun c m (e : c = quote) => free (e ▸ m)),
      List.takeWhile_append_of_pos (by simpa using fun c m (e : c = quote) => free' (e ▸ m)),
      List.takeWhile_cons_of_neg (by simp), List.takeWhile_cons_of_neg (by simp),
      List.append_nil, List.append_nil] at taken
  subst first
  simpa using whole

theorem ImportStyle.Splits.withSpecifier {style : ImportStyle} (splits : style.Splits line q) :
    q.withSpecifier q.specifier = line := by
  rw [← splits.whole]
  simp [QuotedSpecifier.withSpecifier]

/-- Two splits of a line with leads of one length are the same. -/
theorem ImportStyle.Splits.eq_of_length {style style' : ImportStyle} (splits : style.Splits line q)
    (splits' : style'.Splits line p) (length : q.lead.length = p.lead.length) : q = p := by
  have whole : q.withSpecifier q.specifier = p.withSpecifier p.specifier := by
    rw [splits.withSpecifier, splits'.withSpecifier]
  have lead : q.lead = p.lead := by
    simp only [QuotedSpecifier.withSpecifier, List.append_assoc] at whole
    exact List.append_inj_left whole length
  exact splits.isClosed.eq_of_lead splits'.isClosed lead whole

/-- Whether what was looked for in a line is its shortest split in a style, if there is one. -/
structure ImportStyle.FindsFirst (style : ImportStyle) (line : Text)
    (found : Option QuotedSpecifier) : Prop where
  eq_some_iff : ∀ q, found = some q ↔ style.SplitsFirst line q
  eq_none_iff : found = none ↔ ∀ q, ¬ style.Splits line q

/-- The shortest split is found if what is found is always one, and none is missed. -/
theorem ImportStyle.findsFirst {style : ImportStyle} {found : Option QuotedSpecifier}
    (sound : ∀ q, found = some q → style.SplitsFirst line q)
    (complete : ∀ q, style.Splits line q → found ≠ none) : style.FindsFirst line found := by
  constructor
  · intro q
    refine ⟨sound q, fun first => ?_⟩
    cases read : found with
    | none => exact absurd read (complete q first.splits)
    | some p =>
      have first' := sound p read
      have length : p.lead.length = q.lead.length :=
        Nat.le_antisymm (first'.shortest q first.splits) (first.shortest p first'.splits)
      rw [first'.splits.eq_of_length first.splits length]
  · constructor
    · intro none q splits
      exact complete q splits none
    · intro unsplit
      rw [Option.eq_none_iff_forall_ne_some]
      exact fun q read => unsplit q (sound q read).splits

/-! ### The first cut -/

/-- Whether a text can be cut behind a first part that stays on one line, so that an attempt
succeeds there. -/
def IsCut {α : Type} (attempt : Option Char → Text → Option α) (text front : Text) (result : α) :
    Prop :=
  '\n' ∉ front ∧ ∃ rest, text = front ++ rest ∧ attempt front.getLast? rest = some result

section Cut

variable {α : Type} {attempt : Option Char → Text → Option α} {passed front : Text} {result : α}

/-- The search finds a cut, and none before it. -/
theorem firstCut?_spec (found : firstCut? attempt passed text = some (front, result)) :
    ∃ taken rest, front = passed.reverse ++ taken ∧ '\n' ∉ taken ∧ text = taken ++ rest ∧
      attempt (taken.reverse ++ passed).head? rest = some result ∧
        ∀ shorter later, text = shorter ++ later → shorter.length < taken.length →
          attempt (shorter.reverse ++ passed).head? later = none := by
  induction text generalizing passed with
  | nil =>
    simp only [firstCut?, Option.map_eq_some_iff, Prod.mk.injEq] at found
    obtain ⟨_, attempted, rfl, rfl⟩ := found
    exact ⟨[], [], by simp, by simp, rfl, attempted, by simp⟩
  | cons c text ih =>
    simp only [firstCut?] at found
    split at found
    · rename_i attempted
      cases found
      exact ⟨[], c :: text, by simp, by simp, rfl, attempted, by simp⟩
    · rename_i failed
      split at found
      · cases found
      · rename_i other
        obtain ⟨taken, rest, rfl, oneLine, rfl, attempted, before⟩ := ih found
        refine ⟨c :: taken, rest, by simp, by simp [oneLine, Ne.symm other], rfl,
          by simpa using attempted, ?_⟩
        intro shorter later cut length
        cases shorter with
        | nil =>
          rw [List.nil_append] at cut
          simpa [cut] using failed
        | cons d shorter =>
          rw [List.cons_append, List.cons.injEq] at cut
          obtain ⟨rfl, cut⟩ := cut
          simpa using before shorter later cut (by simpa using length)

/-- The search misses no cut. -/
theorem not_isCut_of_firstCut? (none : firstCut? attempt passed text = none) {taken rest : Text}
    (cut : text = taken ++ rest) (oneLine : '\n' ∉ taken) :
    attempt (taken.reverse ++ passed).head? rest = .none := by
  induction taken generalizing text passed with
  | nil =>
    rw [List.nil_append] at cut
    rw [cut] at none
    cases rest with
    | nil => simpa [firstCut?] using none
    | cons c rest =>
      simp only [firstCut?] at none
      split at none
      · cases none
      · assumption
  | cons c taken ih =>
    subst cut
    simp only [List.mem_cons, not_or] at oneLine
    simp only [List.cons_append, firstCut?, if_neg (Ne.symm oneLine.1)] at none
    split at none
    · cases none
    · simpa using ih none rfl oneLine.2

theorem isCut_of_firstCut? (found : firstCut? attempt [] text = some (front, result)) :
    IsCut attempt text front result ∧
      ∀ front' result', IsCut attempt text front' result' →
        front.length < front'.length ∨ front = front' ∧ result = result' := by
  obtain ⟨taken, rest, same, oneLine, cut, attempted, before⟩ := firstCut?_spec found
  obtain rfl : front = taken := by simpa using same
  simp only [List.append_nil, List.head?_reverse] at attempted before
  refine ⟨⟨oneLine, rest, cut, attempted⟩, ?_⟩
  rintro front' result' ⟨_, rest', cut', attempted'⟩
  rcases Nat.lt_trichotomy front.length front'.length with shorter | same | longer
  · exact .inl shorter
  · obtain ⟨rfl, rfl⟩ := List.append_inj (cut.symm.trans cut') same
    rw [attempted] at attempted'
    exact .inr ⟨rfl, Option.some.inj attempted'⟩
  · rw [before front' rest' cut' longer] at attempted'
    cases attempted'

theorem firstCut?_eq_none (none : firstCut? attempt [] text = none) :
    ¬ IsCut attempt text front result := by
  rintro ⟨oneLine, rest, cut, attempted⟩
  have failed := not_isCut_of_firstCut? none cut oneLine
  simp [attempted] at failed

end Cut

/-- Reads the beginning of a line, and then looks for the first cut in what follows. -/
def readFrom (attempt : Option Char → Text → Option QuotedSpecifier)
    (start : Option (Text × Text)) : Option QuotedSpecifier :=
  start.bind fun (lead, text) =>
    (firstCut? attempt [] text).map fun (front, inner) => inner.after (lead ++ front)

/-- If the splits of a line are its cuts behind a known beginning, then the first cut has the
shortest lead. What an attempt itself adds to the lead must not differ by more than one character,
so that a later cut never makes up for it. -/
theorem findsFirst_readFrom {style : ImportStyle}
    {attempt : Option Char → Text → Option QuotedSpecifier} {start : Option (Text × Text)} {k : Nat}
    (added : ∀ before rest inner, attempt before rest = some inner →
      k ≤ inner.lead.length ∧ inner.lead.length ≤ k + 1)
    (splits : ∀ q, style.Splits line q ↔ ∃ lead text front inner, start = some (lead, text) ∧
      IsCut attempt text front inner ∧ q = inner.after (lead ++ front)) :
    style.FindsFirst line (readFrom attempt start) := by
  refine ImportStyle.findsFirst ?_ ?_
  · intro q read
    obtain ⟨⟨lead, text⟩, begins, read⟩ := Option.bind_eq_some_iff.1 read
    obtain ⟨⟨front, inner⟩, found, rfl⟩ := Option.map_eq_some_iff.1 read
    obtain ⟨cut, before⟩ := isCut_of_firstCut? found
    refine ⟨(splits _).2 ⟨lead, text, front, inner, begins, cut, rfl⟩, ?_⟩
    intro other splits'
    obtain ⟨lead', text', front', inner', begins', cut', rfl⟩ := (splits other).1 splits'
    rw [begins] at begins'
    cases begins'
    rcases before front' inner' cut' with shorter | ⟨rfl, rfl⟩
    · obtain ⟨_, _, _, attempted⟩ := cut
      obtain ⟨_, _, _, attempted'⟩ := cut'
      have most := (added _ _ _ attempted).2
      have least := (added _ _ _ attempted').1
      simp only [QuotedSpecifier.after, List.length_append]
      omega
    · exact Nat.le_refl _
  · intro q splits' none
    obtain ⟨lead, text, front, inner, begins, cut, rfl⟩ := (splits q).1 splits'
    rw [readFrom, begins, Option.bind_some, Option.map_eq_none_iff] at none
    exact firstCut?_eq_none none cut

/-! ### Leads -/

theorem indentation_eq {blanks rest : Text} (indented : ∀ c ∈ blanks, isIndent c = true)
    (ends : ∀ c ∈ rest.head?, isIndent c = false) :
    indentation (blanks ++ rest) = blanks ∧ unindented (blanks ++ rest) = rest := by
  unfold indentation unindented
  rw [List.takeWhile_append_of_pos indented, List.dropWhile_append_of_pos indented]
  cases rest with
  | nil => simp
  | cons c rest => simp [ends c rfl]

theorem isIndent_of_mem_indentation {c : Char} (member : c ∈ indentation line) :
    isIndent c = true :=
  List.mem_takeWhile_imp member

theorem optionalStart_eq {word gap rest : Text} (optional : gap = [] ∨ gap = word)
    (other : Text.dropStart? word rest = none) :
    optionalStart word (gap ++ rest) = (gap, rest) := by
  rcases optional with rfl | rfl
  · simp [optionalStart, other]
  · simp [optionalStart]

theorem optionalStart_fst (word text : Text) :
    (optionalStart word text).1 = [] ∨ (optionalStart word text).1 = word := by
  unfold optionalStart
  split
  · exact .inr rfl
  · exact .inl rfl

/-- A space may stand before the quotes, which do not begin with one. -/
theorem optionalStart_space {gap : Text} (optional : gap = [] ∨ gap = [' '])
    (closed : q.IsClosed allowed closing) :
    optionalStart [' '] (gap ++ q.quote :: text) = (gap, q.quote :: text) := by
  refine optionalStart_eq optional ?_
  rcases closed.quoted with quote | quote <;> simp [Text.dropStart?, quote]

/-! ### Imports by assignment -/

theorem requireAt?_eq_some_iff {before : Option Char} :
    requireAt? before text = some q ↔
      before ≠ none ∧ q.lead = " = require(".toList ∧ q.withSpecifier q.specifier = text ∧
        q.IsClosed (fun _ => true) ");".toList := by
  cases before with
  | none => simp [requireAt?]
  | some c =>
    simp only [requireAt?, Option.isNone_some, Bool.false_eq_true, if_false, Option.bind_eq_bind,
      Option.bind_eq_some_iff, Text.dropStart?_eq_some_iff]
    constructor
    · rintro ⟨rest, rfl, read⟩
      obtain ⟨start, rfl, closed⟩ := closedSpecifier?_eq_some_iff.1 (Option.bind_eq_some_iff.2 read)
      exact ⟨by simp, start, by simp [QuotedSpecifier.withSpecifier, start], closed⟩
    · rintro ⟨_, start, rfl, closed⟩
      refine ⟨q.quote :: q.specifier ++ q.quote :: q.trail,
        by simp [QuotedSpecifier.withSpecifier, start], ?_⟩
      exact Option.bind_eq_some_iff.1 (closedSpecifier?_eq_some_iff.2 ⟨start, rfl, closed⟩)

/-- The beginning of an import by assignment, and the text after it. -/
def requireStart? (line : Text) : Option (Text × Text) :=
  let exported := optionalStart "export ".toList (unindented line)
  (Text.dropStart? "import ".toList exported.2).map fun text =>
    (indentation line ++ exported.1 ++ "import ".toList, text)

theorem requireStart?_eq_some_iff {rest : Text} :
    requireStart? line = some (lead, rest) ↔
      line = lead ++ rest ∧ ∃ blanks exported, (∀ c ∈ blanks, isIndent c = true) ∧
        (exported = [] ∨ exported = "export ".toList) ∧
          lead = blanks ++ exported ++ "import ".toList := by
  constructor
  · intro read
    obtain ⟨text, begins, same⟩ := Option.map_eq_some_iff.1 read
    cases same
    refine ⟨?_, _, _, fun _ => isIndent_of_mem_indentation, optionalStart_fst _ _, rfl⟩
    rw [List.append_assoc, ← Text.dropStart?_eq_some_iff.1 begins, List.append_assoc,
      optionalStart_append, indentation_append_unindented]
  · rintro ⟨written, blanks, exported, indented, optional, rfl⟩
    have margin : indentation line = blanks ∧
        unindented line = exported ++ ("import ".toList ++ rest) := by
      rw [written, List.append_assoc, List.append_assoc]
      refine indentation_eq indented ?_
      rcases optional with rfl | rfl <;> simp [isIndent]
    have start : optionalStart "export ".toList (exported ++ ("import ".toList ++ rest)) =
        (exported, "import ".toList ++ rest) :=
      optionalStart_eq optional (by simp [Text.dropStart?])
    simp only [requireStart?, margin, start, Text.dropStart?_append, Option.map_some]

/-- A line that is an import by assignment is cut where the assignment begins. -/
theorem splits_require_iff :
    ImportStyle.require.Splits line q ↔
      ∃ lead text target inner, requireStart? line = some (lead, text) ∧
        IsCut requireAt? text target inner ∧ q = inner.after (lead ++ target) := by
  constructor
  · rintro ⟨whole, isLead, closed⟩
    obtain ⟨lead, quote, specifier, trail⟩ := q
    cases isLead with
    | @require blanks exported target indented optional nonempty oneLine =>
      let inner : QuotedSpecifier := ⟨" = require(".toList, quote, specifier, trail⟩
      refine ⟨_, target ++ inner.withSpecifier specifier, target, inner,
        requireStart?_eq_some_iff.2 ⟨?_, blanks, exported, indented, optional, rfl⟩, ?_, ?_⟩
      · rw [← whole]
        simp [inner, QuotedSpecifier.withSpecifier]
      · exact ⟨oneLine, _, rfl, requireAt?_eq_some_iff.2 ⟨by simpa using nonempty, rfl, rfl,
          closed.quoted, closed.nonempty, closed.inside, closed.closes, closed.oneLine⟩⟩
      · simp [inner, QuotedSpecifier.after]
  · rintro ⟨lead, text, target, inner, begins, ⟨oneLine, rest, rfl, read⟩, rfl⟩
    obtain ⟨nonempty, start, rfl, closed⟩ := requireAt?_eq_some_iff.1 read
    obtain ⟨written, blanks, exported, indented, optional, rfl⟩ :=
      requireStart?_eq_some_iff.1 begins
    refine ⟨?_, ?_, closed.quoted, closed.nonempty, closed.inside, closed.closes, closed.oneLine⟩
    · rw [written]
      simp [QuotedSpecifier.after, QuotedSpecifier.withSpecifier]
    · rw [QuotedSpecifier.after, start]
      exact .require indented optional (by simpa using nonempty) oneLine

theorem requireImport?_eq_readFrom (line : Text) :
    requireImport? line = readFrom requireAt? (requireStart? line) := by
  unfold requireImport? readFrom requireStart?
  generalize optionalStart "export ".toList (unindented line) = start
  obtain ⟨exported, rest⟩ := start
  dsimp only
  cases Text.dropStart? "import ".toList rest with
  | none => rfl
  | some text => cases found : firstCut? requireAt? [] text <;> simp [found]

theorem findsFirst_requireImport? (line : Text) :
    ImportStyle.require.FindsFirst line (requireImport? line) := by
  rw [requireImport?_eq_readFrom]
  refine findsFirst_readFrom (k := 11) ?_ fun _ => splits_require_iff
  intro before rest inner attempted
  rw [(requireAt?_eq_some_iff.1 attempted).2.1]
  exact ⟨Nat.le_refl 11, by decide⟩

/-! ### Imports with a `from` clause -/

theorem clauseAt?_eq_some_iff {before : Option Char} :
    clauseAt? before text = some q ↔
      (before.map Text.isWord).getD true = false ∧
        (∃ gap, (gap = [] ∨ gap = [' ']) ∧ q.lead = "from".toList ++ gap) ∧
          q.withSpecifier q.specifier = text ∧ q.IsClosed isClauseChar ";".toList := by
  cases word : (before.map Text.isWord).getD true with
  | true => simp [clauseAt?, word]
  | false =>
    simp only [clauseAt?, word, Bool.false_eq_true, if_false, Option.bind_eq_bind,
      Option.bind_eq_some_iff, Text.dropStart?_eq_some_iff, true_and]
    constructor
    · rintro ⟨rest, rfl, read⟩
      obtain ⟨start, written, closed⟩ :=
        closedSpecifier?_eq_some_iff.1 (Option.bind_eq_some_iff.2 read)
      have parts := optionalStart_append [' '] rest
      refine ⟨⟨_, optionalStart_fst _ _, start⟩, ?_, closed⟩
      rw [QuotedSpecifier.withSpecifier, start, List.append_assoc, List.append_assoc, ← written,
        parts]
    · rintro ⟨⟨gap, optional, start⟩, rfl, closed⟩
      refine ⟨gap ++ q.quote :: (q.specifier ++ q.quote :: q.trail),
        by simp [QuotedSpecifier.withSpecifier, start], ?_⟩
      rw [optionalStart_space optional closed]
      exact Option.bind_eq_some_iff.1 (closedSpecifier?_eq_some_iff.2 ⟨start, by simp, closed⟩)

/-- A keyword ends where the next character is none of words: it ends in one itself. -/
theorem isWordBoundary_keyword {keyword : Text}
    (either : keyword = "export".toList ∨ keyword = "import".toList) :
    Text.IsWordBoundary keyword text ↔ text.head?.any Text.isWord = false := by
  have word : keyword.getLast?.any Text.isWord = true := by
    rcases either with rfl | rfl <;> decide
  simp [Text.IsWordBoundary, word]

/-- A `from` begins where the character before it is none of words. The keyword is no such
character, so there is one between the two. -/
theorem isWordBoundary_from {keyword names : Text}
    (either : keyword = "export".toList ∨ keyword = "import".toList) :
    Text.IsWordBoundary (keyword ++ names) "from".toList ↔
      (names.getLast?.map Text.isWord).getD true = false := by
  have word : ("from".toList).head?.any Text.isWord = true := by decide
  have last : keyword.getLast?.any Text.isWord = true := by
    rcases either with rfl | rfl <;> decide
  rcases List.eq_nil_or_concat names with rfl | ⟨names, c, rfl⟩
  · rw [Text.IsWordBoundary, List.append_nil, word, last]
    simp
  · rw [Text.IsWordBoundary, word]
    simp

theorem clauseKeyword?_eq_some_iff {keyword rest : Text} :
    clauseKeyword? text = some (keyword, rest) ↔
      (keyword = "export".toList ∨ keyword = "import".toList) ∧ text = keyword ++ rest ∧
        Text.IsWordBoundary keyword rest := by
  have one : ∀ word, ((Text.dropStart? word text).bind fun rest =>
      if (rest.head?.map Text.isWord).getD false then none else some (word, rest)) =
        some (keyword, rest) ↔
          keyword = word ∧ text = word ++ rest ∧ rest.head?.any Text.isWord = false := by
    intro word
    simp only [Option.bind_eq_some_iff, Text.dropStart?_eq_some_iff]
    have same : (rest.head?.map Text.isWord).getD false = rest.head?.any Text.isWord := by
      cases rest <;> rfl
    constructor
    · rintro ⟨tail, written, found⟩
      split at found
      · cases found
      · rename_i ends
        cases found
        exact ⟨rfl, written, by simpa [same] using ends⟩
    · rintro ⟨rfl, written, ends⟩
      exact ⟨rest, written, by simp [same, ends]⟩
  unfold clauseKeyword?
  simp only [Option.orElse_eq_or, Option.or_eq_some_iff, one]
  constructor
  · rintro (⟨rfl, written, ends⟩ | ⟨-, rfl, written, ends⟩)
    · exact ⟨.inl rfl, written, (isWordBoundary_keyword (.inl rfl)).2 ends⟩
    · exact ⟨.inr rfl, written, (isWordBoundary_keyword (.inr rfl)).2 ends⟩
  · rintro ⟨either, written, boundary⟩
    have ends := (isWordBoundary_keyword either).1 boundary
    rcases either with rfl | rfl
    · exact .inl ⟨rfl, written, ends⟩
    · refine .inr ⟨?_, rfl, written, ends⟩
      rw [written]
      rfl

/-- The beginning of an import with a clause, and the text after it. -/
def clauseStart? (line : Text) : Option (Text × Text) :=
  (clauseKeyword? (unindented line)).map fun (keyword, text) => (indentation line ++ keyword, text)

theorem clauseStart?_eq_some_iff {rest : Text} :
    clauseStart? line = some (lead, rest) ↔
      line = lead ++ rest ∧ ∃ blanks keyword, (∀ c ∈ blanks, isIndent c = true) ∧
        (keyword = "export".toList ∨ keyword = "import".toList) ∧
          Text.IsWordBoundary keyword rest ∧ lead = blanks ++ keyword := by
  constructor
  · intro read
    obtain ⟨⟨keyword, text⟩, begins, same⟩ := Option.map_eq_some_iff.1 read
    cases same
    obtain ⟨either, written, ends⟩ := clauseKeyword?_eq_some_iff.1 begins
    refine ⟨?_, _, _, fun _ => isIndent_of_mem_indentation, either, ends, rfl⟩
    rw [List.append_assoc, ← written, indentation_append_unindented]
  · rintro ⟨written, blanks, keyword, indented, either, ends, rfl⟩
    have margin : indentation line = blanks ∧ unindented line = keyword ++ rest := by
      rw [written, List.append_assoc]
      refine indentation_eq indented ?_
      rcases either with rfl | rfl <;> simp [isIndent]
    have read : clauseKeyword? (keyword ++ rest) = some (keyword, rest) :=
      clauseKeyword?_eq_some_iff.2 ⟨either, rfl, ends⟩
    simp only [clauseStart?, margin, read, Option.map_some]

/-- A line that is an import with a clause is cut where the clause begins. -/
theorem splits_esModule_iff :
    ImportStyle.esModule.Splits line q ↔
      ∃ lead text names inner, clauseStart? line = some (lead, text) ∧
        IsCut clauseAt? text names inner ∧ q = inner.after (lead ++ names) := by
  -- A keyword ends where it ends in the lead alone, which goes on with a clause.
  have head : ∀ (names gap : Text) (inner : QuotedSpecifier), inner.lead = "from".toList ++ gap →
      (names ++ inner.withSpecifier inner.specifier).head? = (names ++ "from".toList).head? := by
    intro names gap inner start
    cases names <;> simp [QuotedSpecifier.withSpecifier, start]
  constructor
  · rintro ⟨whole, isLead, closed⟩
    obtain ⟨lead, quote, specifier, trail⟩ := q
    cases isLead with
    | @esModule blanks keyword names gap indented either ends oneLine begins optional =>
      let inner : QuotedSpecifier := ⟨"from".toList ++ gap, quote, specifier, trail⟩
      have ends' : Text.IsWordBoundary keyword (names ++ inner.withSpecifier specifier) := by
        rwa [isWordBoundary_keyword either, head names gap inner rfl,
          ← isWordBoundary_keyword either]
      refine ⟨_, names ++ inner.withSpecifier specifier, names, inner,
        clauseStart?_eq_some_iff.2 ⟨?_, blanks, keyword, indented, either, ends', rfl⟩, ?_, ?_⟩
      · rw [← whole]
        simp [inner, QuotedSpecifier.withSpecifier]
      · exact ⟨oneLine, _, rfl, clauseAt?_eq_some_iff.2 ⟨(isWordBoundary_from either).1 begins,
          ⟨gap, optional, rfl⟩, rfl, closed.quoted, closed.nonempty, closed.inside, closed.closes,
          closed.oneLine⟩⟩
      · simp [inner, QuotedSpecifier.after]
  · rintro ⟨lead, text, names, inner, begins, ⟨oneLine, rest, rfl, read⟩, rfl⟩
    obtain ⟨alone, ⟨gap, optional, start⟩, rfl, closed⟩ := clauseAt?_eq_some_iff.1 read
    obtain ⟨written, blanks, keyword, indented, either, ends, rfl⟩ :=
      clauseStart?_eq_some_iff.1 begins
    have ends' : Text.IsWordBoundary keyword (names ++ "from".toList) := by
      rwa [isWordBoundary_keyword either, ← head names gap inner start,
        ← isWordBoundary_keyword either]
    refine ⟨?_, ?_, closed.quoted, closed.nonempty, closed.inside, closed.closes, closed.oneLine⟩
    · rw [written]
      simp [QuotedSpecifier.after, QuotedSpecifier.withSpecifier]
    · rw [QuotedSpecifier.after, start, ← List.append_assoc]
      exact .esModule indented either ends' oneLine ((isWordBoundary_from either).2 alone) optional

theorem clauseImport?_eq_readFrom (line : Text) :
    clauseImport? line = readFrom clauseAt? (clauseStart? line) := by
  unfold clauseImport? readFrom clauseStart?
  cases clauseKeyword? (unindented line) with
  | none => rfl
  | some start => cases found : firstCut? clauseAt? [] start.2 <;> simp [found]

theorem findsFirst_clauseImport? (line : Text) :
    ImportStyle.esModule.FindsFirst line (clauseImport? line) := by
  rw [clauseImport?_eq_readFrom]
  refine findsFirst_readFrom (k := 4) ?_ fun _ => splits_esModule_iff
  intro before rest inner attempted
  obtain ⟨_, ⟨gap, optional, start⟩, _⟩ := clauseAt?_eq_some_iff.1 attempted
  rw [start]
  rcases optional with rfl | rfl
  · exact ⟨Nat.le_refl 4, by decide⟩
  · exact ⟨by decide, Nat.le_refl 5⟩

/-! ### Imports for effects -/

/-- Such a line splits in one way at most. -/
theorem splits_sideEffect_iff :
    ImportStyle.sideEffect.Splits line q ↔ sideEffectImport? line = some q := by
  simp only [sideEffectImport?, Option.bind_eq_bind, Option.bind_eq_some_iff,
    Text.dropStart?_eq_some_iff]
  constructor
  · rintro ⟨whole, isLead, closed⟩
    obtain ⟨lead, quote, specifier, trail⟩ := q
    cases isLead with
    | @sideEffect blanks gap indented optional =>
      let rest := gap ++ quote :: (specifier ++ quote :: trail)
      have written : line = blanks ++ ("import".toList ++ rest) := by
        rw [← whole]
        simp [rest]
      have margin : indentation line = blanks ∧ unindented line = "import".toList ++ rest := by
        rw [written]
        exact indentation_eq indented (by simp [isIndent])
      have start : optionalStart [' '] rest = (gap, quote :: (specifier ++ quote :: trail)) :=
        optionalStart_space optional closed
      refine ⟨rest, margin.2, ?_⟩
      rw [start, margin.1]
      exact Option.bind_eq_some_iff.1 (closedSpecifier?_eq_some_iff.2 ⟨rfl, by simp, closed⟩)
  · rintro ⟨rest, begins, read⟩
    obtain ⟨start, written, closed⟩ :=
      closedSpecifier?_eq_some_iff.1 (Option.bind_eq_some_iff.2 read)
    have parts := optionalStart_append [' '] rest
    refine ⟨?_, ?_, closed⟩
    · calc _ = indentation line ++ ("import".toList ++ ((optionalStart [' '] rest).1 ++
            (q.quote :: q.specifier ++ q.quote :: q.trail))) := by simp [start]
        _ = indentation line ++ unindented line := by rw [← written, parts, begins]
        _ = line := indentation_append_unindented line
    · rw [start]
      exact .sideEffect (fun _ => isIndent_of_mem_indentation) (optionalStart_fst _ _)

theorem findsFirst_sideEffectImport? (line : Text) :
    ImportStyle.sideEffect.FindsFirst line (sideEffectImport? line) := by
  refine ImportStyle.findsFirst ?_ ?_
  · intro q read
    refine ⟨splits_sideEffect_iff.2 read, fun other splits => ?_⟩
    rw [Option.some.inj (read.symm.trans (splits_sideEffect_iff.1 splits))]
  · intro q splits none
    rw [splits_sideEffect_iff.1 splits] at none
    cases none

/-! ### Imports of any style -/

/-- The styles that are looked for before a style. -/
def ImportStyle.earlier : ImportStyle → List ImportStyle
  | require => []
  | esModule => [require]
  | sideEffect => [require, esModule]

theorem import?_eq_some_iff {found : Import} :
    Line.import? line = some found ↔
      (∀ style ∈ found.style.earlier, ∀ p, ¬ style.Splits line p) ∧
        found.style.SplitsFirst line found.spec := by
  have required := findsFirst_requireImport? line
  have clause := findsFirst_clauseImport? line
  obtain ⟨style, q⟩ := found
  unfold import? esImport?
  cases style with
  | require =>
    simp only [ImportStyle.earlier, ← required.eq_some_iff]
    cases requireImport? line with
    | some spec => simp
    | none => cases clauseImport? line <;> simp
  | esModule =>
    simp only [ImportStyle.earlier, List.forall_mem_singleton, ← required.eq_none_iff,
      ← clause.eq_some_iff]
    cases requireImport? line with
    | some spec => simp
    | none => cases clauseImport? line <;> simp
  | sideEffect =>
    simp only [ImportStyle.earlier, List.forall_mem_cons, ← required.eq_none_iff,
      ← clause.eq_none_iff, ← (findsFirst_sideEffectImport? line).eq_some_iff]
    cases requireImport? line with
    | some spec => simp
    | none => cases clauseImport? line <;> simp

theorem import?_eq_none_iff :
    Line.import? line = none ↔
      ∀ (style : ImportStyle) (p : QuotedSpecifier), ¬ style.Splits line p := by
  have readers : import? line = none ↔
      requireImport? line = none ∧ clauseImport? line = none ∧ sideEffectImport? line = none := by
    unfold import? esImport?
    cases requireImport? line with
    | some spec => simp
    | none => cases clauseImport? line <;> simp
  rw [readers, (findsFirst_requireImport? line).eq_none_iff,
    (findsFirst_clauseImport? line).eq_none_iff, (findsFirst_sideEffectImport? line).eq_none_iff]
  constructor
  · rintro ⟨required, clause, effect⟩ style
    cases style with
    | require => exact required
    | esModule => exact clause
    | sideEffect => exact effect
  · intro unsplit
    exact ⟨unsplit .require, unsplit .esModule, unsplit .sideEffect⟩

/-- An import line is read in the first style in which it splits, and of its splits in this style
the one with the shortest lead is found. -/
theorem import?_shortest (line : Text) :
    (∀ q, import? line = some ⟨.require, q⟩ ↔ ImportStyle.require.SplitsFirst line q) ∧
      (∀ q, import? line = some ⟨.esModule, q⟩ ↔
        (∀ p, ¬ ImportStyle.require.Splits line p) ∧ ImportStyle.esModule.SplitsFirst line q) ∧
      (∀ q, import? line = some ⟨.sideEffect, q⟩ ↔
        (∀ p, ¬ ImportStyle.require.Splits line p) ∧ (∀ p, ¬ ImportStyle.esModule.Splits line p) ∧
          ImportStyle.sideEffect.SplitsFirst line q) ∧
      (import? line = none ↔ ∀ (style : ImportStyle) (p : QuotedSpecifier),
        ¬ style.Splits line p) := by
  refine ⟨fun q => ?_, fun q => ?_, fun q => ?_, import?_eq_none_iff⟩
  · rw [import?_eq_some_iff]
    simp [ImportStyle.earlier]
  · rw [import?_eq_some_iff]
    simp [ImportStyle.earlier]
  · rw [import?_eq_some_iff]
    simp [ImportStyle.earlier, and_assoc]

/-- This line splits at either specifier. -/
example : (import? "export * from 'a'; // from 'b';".toList).map (·.spec.lead) =
    some "export * from ".toList := by decide

end Line
end TypingBundle
