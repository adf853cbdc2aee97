import Mathlib.Data.List.Infix
import TypingBundle.Proofs.Inclusion
import TypingBundle.Proofs.Record.Classified
import TypingBundle.Proofs.Record.Lines

/-!
Comments by characters and comments by lines. Read character by character, a comment reaches from
its `/*` to the next `*/`. Read line by line, a comment is opened by a line that begins with `/*`
and closed by one that begins or ends with `*/`. The two agree as long as what ends a comment stands
at the beginning or at the end of its line.

Main statements: `Span.isOpen_iff` says when a file is taken to be inside a comment, and
`classify_outside_iff` says what this means for lines that are not.
-/

namespace TypingBundle

/-! ### Comments by characters -/

namespace Span

/-- Whether a comment is open behind a text. Outside comments the first `/*` opens one, and inside
the first `*/` closes it. -/
def after : (inside : Bool) → Text → Bool
  | inside, [] => inside
  | false, '/' :: '*' :: rest => after true rest
  | true, '*' :: '/' :: rest => after false rest
  | inside, _ :: rest => after inside rest

/-- Whether a line of a text begins inside a comment. -/
def before (text : Text) (i : Nat) : Bool :=
  after false (Text.join ['\n'] ((Text.lines text).take i))

end Span

/-! ### Marks at the beginning and at the end of a line -/

namespace Line

variable {line : Text} {inBlock : Bool}

theorem infix_of_opensBlock (opens : opensBlock line = true) : ['/', '*'] <:+: line := by
  obtain ⟨rest, begins⟩ := Option.isSome_iff_exists.1 opens
  have start : ['/', '*'] <+: unindented line := by
    rw [Text.dropStart?_eq_some_iff.1 begins]
    exact List.prefix_append _ _
  exact start.isInfix.trans (suffix_unindented line).isInfix

theorem infix_of_closesBlock (closes : closesBlock line = true) : ['*', '/'] <:+: line := by
  obtain ⟨rest, begins⟩ := Option.isSome_iff_exists.1 closes
  have start : ['/', '*'] <+: unindented line.reverse := by
    rw [Text.dropStart?_eq_some_iff.1 begins]
    exact List.prefix_append _ _
  have inside := start.isInfix.trans (suffix_unindented line.reverse).isInfix
  simpa using List.reverse_infix.2 inside

/-- The last of the stars at the beginning and the slash behind them are the end of a comment. -/
theorem infix_of_isBlockEnd (ends : isBlockEnd line = true) : ['*', '/'] <:+: line := by
  unfold isBlockEnd at ends
  simp only [Bool.and_eq_true, decide_eq_true_eq] at ends
  obtain ⟨star, slash⟩ := ends
  obtain ⟨text, begins⟩ := List.head?_eq_some_iff.1 star
  obtain ⟨rest, behind⟩ := List.head?_eq_some_iff.1 slash
  have stars : ∀ c ∈ (unindented line).takeWhile (· = '*'), c = '*' := by
    intro c member
    have kept := List.all_eq_true.1 (List.all_takeWhile (p := (· = '*')) (l := unindented line)) c
    simpa using kept member
  have some : (unindented line).takeWhile (· = '*') ≠ [] := by simp [begins]
  have last := List.dropLast_append_getLast some
  rw [stars _ (List.getLast_mem some)] at last
  have whole : unindented line =
      ((unindented line).takeWhile (· = '*')).dropLast ++ ['*', '/'] ++ rest := by
    conv_lhs => rw [← List.takeWhile_append_dropWhile (p := (· = '*')) (l := unindented line)]
    rw [behind, ← last]
    simp
  have inside : ['*', '/'] <:+: unindented line := ⟨_, rest, whole.symm⟩
  exact inside.trans (suffix_unindented line).isInfix

/-- Whether a comment is taken to be open behind a line. -/
theorem isOpen_classify (line : Text) (inBlock : Bool) :
    (classify line inBlock).isOpen =
      (!isBlockEnd line && !closesBlock line && (opensBlock line || inBlock)) := by
  unfold classify blockStart?
  cases isBlockEnd line with
  | true => rfl
  | false =>
    cases closesBlock line with
    | true =>
      cases inBlock with
      | true => rfl
      | false =>
        cases opensBlock line with
        | true => rfl
        | false => exact Class.isOpen_of_inComment_eq_false (inComment_classifyCode line)
    | false =>
      cases opensBlock line with
      | true => cases inBlock <;> rfl
      | false =>
        cases inBlock with
        | true => rfl
        | false => exact Class.isOpen_of_inComment_eq_false (inComment_classifyCode line)

/-- A line without marks is read for itself exactly if no comment is taken to be open before it. -/
theorem classify_eq_iff (opens : ¬ ['/', '*'] <:+: line) (closes : ¬ ['*', '/'] <:+: line) :
    classify line inBlock = classify line false ↔ inBlock = false := by
  cases inBlock with
  | false => simp
  | true =>
    have notEnd : isBlockEnd line = false := Bool.eq_false_iff.2 fun h => closes (infix_of_isBlockEnd h)
    have notClose : closesBlock line = false :=
      Bool.eq_false_iff.2 fun h => closes (infix_of_closesBlock h)
    have notOpen : opensBlock line = false :=
      Bool.eq_false_iff.2 fun h => opens (infix_of_opensBlock h)
    have body : classify line true = .blockBody := by
      simp [classify, blockStart?, notEnd, notClose, notOpen]
    simp only [body, Bool.true_eq_false, iff_false]
    intro same
    exact absurd (inBlock_of_classify_eq_blockBody same.symm) (by simp)

end Line

/-! ### Comments by lines -/

namespace Span

variable {text line : Text} {lines : List Text} {i n : Nat}

/-- Whether a comment is taken to be open before a line. -/
def isOpen (lines : List Text) (i : Nat) : Bool :=
  (lines.take i).foldl (fun inBlock line => (Line.classify line inBlock).isOpen) false

/-- An earlier line begins with the beginning of a comment, and since then, that line included, no
line begins or ends with the end of one. -/
def Unclosed (lines : List Text) (i : Nat) : Prop :=
  ∃ k < i, (∃ line ∈ lines[k]?, Line.opensBlock line = true) ∧
    ∀ m < i, k ≤ m → ∀ line ∈ lines[m]?,
      Line.isBlockEnd line = false ∧ Line.closesBlock line = false

instance : Decidable (Unclosed lines i) := inferInstanceAs (Decidable (∃ k < i, _))

theorem isOpen_succ (known : lines[i]? = some line) :
    isOpen lines (i + 1) = (Line.classify line (isOpen lines i)).isOpen := by
  rw [isOpen, isOpen, List.take_add_one, known, List.foldl_append]
  rfl

theorem isOpen_iff (inside : i ≤ lines.length) : isOpen lines i = true ↔ Unclosed lines i := by
  induction i with
  | zero =>
    constructor
    · intro opened
      cases opened
    · rintro ⟨k, less, _⟩
      omega
  | succ i ih =>
    have known : lines[i]? = some lines[i] := List.getElem?_eq_getElem inside
    rw [isOpen_succ known, Line.isOpen_classify]
    simp only [Bool.and_eq_true, Bool.not_eq_true', Bool.or_eq_true, ih (by omega)]
    constructor
    · rintro ⟨shut, opens | ⟨k, less, begins, since⟩⟩
      · refine ⟨i, by omega, ⟨_, known, opens⟩, fun m below above line found => ?_⟩
        obtain rfl : m = i := by omega
        rw [known] at found
        cases found
        exact shut
      · refine ⟨k, by omega, begins, fun m below above line found => ?_⟩
        by_cases last : m = i
        · subst last
          rw [known] at found
          cases found
          exact shut
        · exact since m (by omega) above line found
    · rintro ⟨k, less, ⟨line, begins, opens⟩, since⟩
      refine ⟨since i (by omega) (by omega) _ known, ?_⟩
      by_cases last : k = i
      · subst last
        rw [known] at begins
        cases begins
        exact Or.inl opens
      · exact Or.inr ⟨k, by omega, ⟨line, begins, opens⟩, fun m below => since m (by omega)⟩

/-- Up to a line, what ends a comment stands at the beginning or at the end of its line: so for
every line that begins inside a comment or with one, and ends outside. -/
def Tidy (text : Text) (n : Nat) : Prop :=
  ∀ k < n, ∀ line ∈ (sourceLines text)[k]?,
    before text k = true ∨ Line.opensBlock line = true → before text (k + 1) = false →
      Line.isBlockEnd line = true ∨ Line.closesBlock line = true

instance : Decidable (Tidy text n) := inferInstanceAs (Decidable (∀ k < n, _))

/-- In a tidy text a comment is taken to be open only inside comments. -/
theorem before_of_isOpen (tidy : Tidy text n) (below : i ≤ n)
    (inside : i ≤ (sourceLines text).length) (opened : isOpen (sourceLines text) i = true) :
    before text i = true := by
  induction i with
  | zero => cases opened
  | succ i ih =>
    have known : (sourceLines text)[i]? = some (sourceLines text)[i] :=
      List.getElem?_eq_getElem inside
    rw [isOpen_succ known, Line.isOpen_classify] at opened
    simp only [Bool.and_eq_true, Bool.not_eq_true', Bool.or_eq_true] at opened
    obtain ⟨⟨notEnd, notClose⟩, opens⟩ := opened
    have begins : before text i = true ∨ Line.opensBlock (sourceLines text)[i] = true := by
      rcases opens with opens | opened
      · exact Or.inr opens
      · exact Or.inl (ih (by omega) (by omega) opened)
    cases outside : before text (i + 1) with
    | true => rfl
    | false =>
      rcases tidy i (by omega) _ known begins outside with ends | closes
      · rw [notEnd] at ends
        cases ends
      · rw [notClose] at closes
        cases closes

theorem getElem?_ofLines (inBlock : Bool) (known : lines[i]? = some line) :
    (Classified.ofLines inBlock lines)[i]? = some (line, Line.classify line
      ((lines.take i).foldl (fun inBlock line => (Line.classify line inBlock).isOpen) inBlock)) := by
  induction lines generalizing inBlock i with
  | nil => cases known
  | cons first lines ih =>
    cases i with
    | zero =>
      cases known
      rfl
    | succ i => exact ih _ known

/-- A scanned line with its class. -/
theorem found_of_scan {scanned : ScannedLine} (reads : (scan text)[i]? = some scanned) :
    (sourceLines text)[i]? = some scanned.line ∧
      scanned.found = Line.classify scanned.line (isOpen (sourceLines text) i) := by
  have classified : (Classified.ofText text)[i]? = some (scanned.line, scanned.found) := by
    rw [← Classified.map_scan, List.getElem?_map, reads]
    rfl
  have known : (sourceLines text)[i]? = some scanned.line := by
    rw [← Classified.map_fst_ofLines false (sourceLines text), List.getElem?_map]
    exact congrArg (Option.map Prod.fst) classified
  refine ⟨known, ?_⟩
  rw [Classified.ofText, getElem?_ofLines false known] at classified
  exact (Prod.mk.inj (Option.some.inj classified)).2.symm

end Span

/-- How a line without marks of comments is read. It is read for itself exactly if every earlier
line that begins with the beginning of a comment is followed by one, or is one, that begins or ends
with the end of a comment. In a tidy text that is so for all such lines outside comments. -/
theorem classify_outside_iff (text : Text) (i : Nat) (scanned : ScannedLine)
    (reads : (scan text)[i]? = some scanned) (opens : ¬ ['/', '*'] <:+: scanned.line)
    (closes : ¬ ['*', '/'] <:+: scanned.line) :
    (scanned.found = Line.classify scanned.line false ↔ ¬ Span.Unclosed (sourceLines text) i) ∧
      (Span.Tidy text i → Span.before text i = false →
        scanned.found = Line.classify scanned.line false) := by
  obtain ⟨known, found⟩ := Span.found_of_scan reads
  have inside : i ≤ (sourceLines text).length :=
    Nat.le_of_lt (List.getElem?_eq_some_iff.1 known).1
  rw [found, Line.classify_eq_iff opens closes, ← Span.isOpen_iff inside, Bool.not_eq_true]
  refine ⟨Iff.rfl, fun tidy outside => Bool.eq_false_iff.2 fun opened => ?_⟩
  rw [Span.before_of_isOpen tidy (Nat.le_refl i) inside opened] at outside
  cases outside

deriving instance DecidableEq for ScannedLine

namespace Sample

/-- A comment over two lines, and one inside a line. -/
def commented : Text := "/* a\n  b */\nc /* d */ e;\nf: string;".toList

/-- A comment at the beginning of a line that goes on behind it. -/
def noted : Text := "/* note */ a: string;\nb: string;".toList

/-- A comment of two lines, the second of which goes on behind it. -/
def continued : Text := "/* note\ntext */ more\nb: string;".toList

end Sample

theorem classify_outside_iff_sample :
    ∃ scanned, (scan Sample.commented)[3]? = some scanned ∧
      scanned.line = "f: string;".toList ∧ ¬ ['/', '*'] <:+: scanned.line ∧
      ¬ ['*', '/'] <:+: scanned.line ∧ Span.Tidy Sample.commented 3 ∧
      Span.before Sample.commented 3 = false ∧
      scanned.found = Line.classify scanned.line false := by
  have reads : (scan Sample.commented)[3]? = some ⟨"f: string;".toList, .code, []⟩ := by
    decide +kernel
  have opens : ¬ ['/', '*'] <:+: "f: string;".toList := by decide +kernel
  have closes : ¬ ['*', '/'] <:+: "f: string;".toList := by decide +kernel
  have tidy : Span.Tidy Sample.commented 3 := by decide +kernel
  have outside : Span.before Sample.commented 3 = false := by decide +kernel
  have read := (classify_outside_iff Sample.commented 3 _ reads opens closes).2 tidy outside
  exact ⟨_, reads, rfl, opens, closes, tidy, outside, read⟩

/-- A line of code outside comments, without their marks, that is lost as part of a comment which
was closed before it: behind a comment at the beginning of a line, and behind one that ends in the
middle of a line. -/
theorem scan_loses_code :
    (∃ scanned, (scan Sample.noted)[1]? = some scanned ∧ scanned.line = "b: string;".toList ∧
      ¬ ['/', '*'] <:+: scanned.line ∧ ¬ ['*', '/'] <:+: scanned.line ∧
      Span.before Sample.noted 1 = false ∧ Line.classify scanned.line false = .code ∧
      scanned.found = .blockBody) ∧
      (∃ record, Record.parse (MemoryStore.ofFiles [(Sample.main, Sample.noted)]) Sample.settings
        Sample.sources Sample.main.toPath = .ok record ∧ record.entries = []) ∧
      (∃ scanned, (scan Sample.continued)[2]? = some scanned ∧
        scanned.line = "b: string;".toList ∧ ¬ ['/', '*'] <:+: scanned.line ∧
        ¬ ['*', '/'] <:+: scanned.line ∧ Span.before Sample.continued 2 = false ∧
        Line.classify scanned.line false = .code ∧ scanned.found = .blockBody) := by
  have opens : ¬ ['/', '*'] <:+: "b: string;".toList := by decide +kernel
  have closes : ¬ ['*', '/'] <:+: "b: string;".toList := by decide +kernel
  have code : Line.classify "b: string;".toList false = .code := by decide +kernel
  have noted : (scan Sample.noted)[1]? = some ⟨"b: string;".toList, .blockBody, []⟩ := by
    decide +kernel
  have continued : (scan Sample.continued)[2]? = some ⟨"b: string;".toList, .blockBody, []⟩ := by
    decide +kernel
  have empty : (Record.parse (MemoryStore.ofFiles [(Sample.main, Sample.noted)]) Sample.settings
      Sample.sources Sample.main.toPath).map Record.entries = .ok [] := by decide +kernel
  refine ⟨⟨_, noted, rfl, opens, closes, ?_, code, rfl⟩, except_map_eq_ok.1 empty,
    ⟨_, continued, rfl, opens, closes, ?_, code, rfl⟩⟩
  · decide +kernel
  · decide +kernel

end TypingBundle
