import Mathlib.Data.List.TakeWhile
import TypingBundle.OptionFile
import TypingBundle.Proofs.Json.Word

/-!
Comments and trailing commas in JSON texts. The words of a value are spelled by a grammar in two
ways at once: without trailing commas, and with some of them.

Main statements: `dropComments_laid` and `dropTrailingCommas_laid` say what the two passes make of a
text, and `parse_commented` that an option file with comments and trailing commas says what it says
without them.
-/

namespace TypingBundle.Json

variable {gap text rest body : Text} {w : Word} {words : List Word}

/-! ### Strings and quiet characters -/

/-- What copies strings character by character gets out of a string where it ends. -/
theorem copies_string (pass : Place → Text → Text)
    (string : ∀ c rest, pass .string (c :: rest) = c :: pass (Place.inString c) rest)
    (escape : ∀ c rest, pass .escape (c :: rest) = c :: pass .string rest)
    (valid : IsStringBody body) (rest : Text) :
    pass .string (body ++ '"' :: rest) = body ++ '"' :: pass .code rest := by
  induction valid with
  | empty => simp [string, Place.inString]
  | @plain c body quote backslash _ _ ih => simp [string, Place.inString, quote, backslash, ih]
  | escape _ _ ih => simp [string, escape, Place.inString, ih]
  | @unit a b c d body digits _ ih =>
    have plain : ∀ digit ∈ [a, b, c, d], Place.inString digit = .string := by
      intro digit member
      obtain ⟨quote, backslash⟩ := (digits digit member).ne
      simp [Place.inString, quote, backslash]
    simp only [List.mem_cons, List.not_mem_nil, or_false, forall_eq_or_imp, forall_eq] at plain
    obtain ⟨first, second, third, fourth⟩ := plain
    have backslash : Place.inString '\\' = .escape := rfl
    simp only [List.cons_append, string, escape, backslash, first, second, third, fourth, ih]

/-- A character that neither pass looks at outside strings. -/
def IsQuiet (c : Char) : Prop := c ≠ '/' ∧ c ≠ '"' ∧ c ≠ ','

instance (c : Char) : Decidable (IsQuiet c) := inferInstanceAs (Decidable (_ ∧ _))

theorem isQuiet_of_isSpace {c : Char} (space : Token.isSpace c) : IsQuiet c := by
  rcases eq_of_isSpace space with rfl | rfl | rfl | rfl <;> decide

theorem dropComments_quiet (quiet : ∀ c ∈ text, IsQuiet c) (rest : Text) :
    dropComments .code (text ++ rest) = text ++ dropComments .code rest := by
  induction text with
  | nil => rfl
  | cons c text ih =>
    obtain ⟨slash, quote, -⟩ := quiet c (by simp)
    rw [List.cons_append, dropComments_code_cons slash, if_neg quote,
      ih fun d member => quiet d (by simp [member]), List.cons_append]

theorem dropTrailingCommas_quiet (quiet : ∀ c ∈ text, IsQuiet c) (rest : Text) :
    dropTrailingCommas .code (text ++ rest) = text ++ dropTrailingCommas .code rest := by
  induction text with
  | nil => rfl
  | cons c text ih =>
    obtain ⟨-, quote, comma⟩ := quiet c (by simp)
    have later := ih fun d member => quiet d (by simp [member])
    simp [dropTrailingCommas, comma, quote, later]

theorem IsBlank.isQuiet (isBlank : IsBlank gap) : ∀ c ∈ gap, IsQuiet c :=
  fun c member => isQuiet_of_isSpace (isBlank c member)

/-! ### Words -/

theorem IsNumber.isQuiet (valid : IsNumber text) : ∀ c ∈ text, IsQuiet c := by
  intro c member
  rcases valid.mem member with digit | sign
  · refine ⟨?_, ?_, ?_⟩ <;> rintro rfl <;> simp at digit
  · simp only [List.mem_cons, List.not_mem_nil, or_false] at sign
    rcases sign with rfl | rfl | rfl | rfl | rfl <;> decide

/-- A word that is neither a string nor a comma holds quiet characters only. -/
theorem Word.isQuiet (w : Word) (plain : ∀ body valid, w ≠ .string body valid)
    (other : w.isComma = false) : ∀ c ∈ w.chars, IsQuiet c := by
  have quiet : ∀ {text : Text}, text.all (fun c => decide (IsQuiet c)) = true →
      ∀ c ∈ text, IsQuiet c :=
    fun all c member => of_decide_eq_true (List.all_eq_true.1 all c member)
  cases w with
  | mark m =>
    cases m with
    | comma => cases other
    | _ => exact quiet rfl
  | null => exact quiet rfl
  | bool value => cases value <;> exact quiet rfl
  | number text valid => exact valid.isQuiet
  | string body valid => exact absurd rfl (plain body valid)

theorem Word.eq_comma (comma : w.isComma) : w = .mark .comma := by
  cases w with
  | mark m => simpa [isComma] using comma
  | _ => simp [isComma] at comma

theorem dropComments_chars (w : Word) (rest : Text) :
    dropComments .code (w.chars ++ rest) = w.chars ++ dropComments .code rest := by
  by_cases string : ∃ body valid, w = .string body valid
  · obtain ⟨body, valid, rfl⟩ := string
    have copied := copies_string dropComments (fun _ _ => rfl) (fun _ _ => rfl) valid rest
    simp [Word.chars, dropComments, copied]
  · by_cases comma : w.isComma
    · obtain rfl := Word.eq_comma comma
      rfl
    · exact dropComments_quiet (w.isQuiet (by simpa using string) (by simpa using comma)) rest

theorem dropTrailingCommas_chars (other : w.isComma = false) (rest : Text) :
    dropTrailingCommas .code (w.chars ++ rest) = w.chars ++ dropTrailingCommas .code rest := by
  by_cases string : ∃ body valid, w = .string body valid
  · obtain ⟨body, valid, rfl⟩ := string
    have copied := copies_string dropTrailingCommas (fun _ _ => rfl) (fun _ _ => rfl) valid rest
    simp [Word.chars, dropTrailingCommas, copied]
  · exact dropTrailingCommas_quiet (w.isQuiet (by simpa using string) other) rest

/-! ### Comments -/

/-- Blank space and comments. A comment between slashes and stars ends at the first `*/`. -/
inductive IsGap : Text → Prop where
  | empty : IsGap []
  | space {c : Char} {rest : Text} : Token.isSpace c → IsGap rest → IsGap (c :: rest)
  | lineComment {body rest : Text} : '\n' ∉ body → IsGap rest →
    IsGap ('/' :: '/' :: (body ++ '\n' :: rest))
  | blockComment {body rest : Text} : ¬ ['*', '/'] <:+: body → IsGap rest →
    IsGap ('/' :: '*' :: (body ++ '*' :: '/' :: rest))

/-- A gap at the end of a text. A line comment may end with the text. -/
inductive IsLastGap : Text → Prop where
  | closed {gap : Text} : IsGap gap → IsLastGap gap
  | unclosed {gap body : Text} : IsGap gap → '\n' ∉ body → IsLastGap (gap ++ '/' :: '/' :: body)

theorem dropComments_lineComment (oneLine : '\n' ∉ body) (rest : Text) :
    dropComments .lineComment (body ++ rest) = dropComments .lineComment rest := by
  induction body with
  | nil => rfl
  | cons c body ih =>
    simp only [List.mem_cons, not_or] at oneLine
    simp [dropComments, Ne.symm oneLine.1, ih oneLine.2]

/-- Of a comment its line feeds are left. -/
theorem dropComments_blockComment (inside : ¬ ['*', '/'] <:+: body) (rest : Text) :
    dropComments .blockComment (body ++ '*' :: '/' :: rest) =
      body.filter (· = '\n') ++ dropComments .code rest := by
  induction body with
  | nil => rfl
  | cons c body ih =>
    have later := ih fun found => inside (List.infix_cons found)
    -- The star and the slash that close the comment do not stand here.
    have goesOn : ∀ tail, c = '*' → body ++ '*' :: '/' :: rest ≠ '/' :: tail := by
      rintro tail rfl same
      cases body with
      | nil => simp at same
      | cons d body =>
        obtain rfl : d = '/' := (List.cons.inj same).1
        exact inside ⟨[], body, rfl⟩
    have copied : dropComments .blockComment (c :: (body ++ '*' :: '/' :: rest)) =
        if c = '\n' then c :: dropComments .blockComment (body ++ '*' :: '/' :: rest)
        else dropComments .blockComment (body ++ '*' :: '/' :: rest) := by
      rw [dropComments.eq_def]
      split <;> simp_all
    rw [List.cons_append, copied, later]
    by_cases feed : c = '\n' <;> simp [feed]

/-- Of a gap blank space is left. -/
theorem dropComments_gap (isGap : IsGap gap) :
    ∃ blank, IsBlank blank ∧ ∀ rest, dropComments .code (gap ++ rest) =
      blank ++ dropComments .code rest := by
  induction isGap with
  | empty => exact ⟨[], by simp [IsBlank], fun rest => rfl⟩
  | @space c gap space _ ih =>
    obtain ⟨blank, isBlank, left⟩ := ih
    have single : IsBlank [c] := by simpa [IsBlank] using space
    refine ⟨[c] ++ blank, single.append isBlank, fun rest => ?_⟩
    rw [List.cons_append, ← List.singleton_append, dropComments_quiet single.isQuiet, left,
      List.append_assoc]
  | @lineComment body gap oneLine _ ih =>
    obtain ⟨blank, isBlank, left⟩ := ih
    refine ⟨'\n' :: blank, ?_, fun rest => ?_⟩
    · simpa [IsBlank, Token.isSpace] using isBlank
    · simp [dropComments, dropComments_lineComment oneLine, left]
  | @blockComment body gap inside _ ih =>
    obtain ⟨blank, isBlank, left⟩ := ih
    refine ⟨body.filter (· = '\n') ++ blank, ?_, fun rest => ?_⟩
    · have feeds : IsBlank (body.filter (· = '\n')) := by
        intro c member
        obtain rfl : c = '\n' := by simpa using (List.mem_filter.1 member).2
        rfl
      exact feeds.append isBlank
    · simp [dropComments, dropComments_blockComment inside, left]

theorem dropComments_lastGap (isGap : IsLastGap gap) : IsBlank (dropComments .code gap) := by
  cases isGap with
  | closed isGap =>
    obtain ⟨blank, isBlank, left⟩ := dropComments_gap isGap
    have all : dropComments .code gap = blank := by simpa [dropComments] using left []
    rwa [all]
  | @unclosed gap body isGap oneLine =>
    obtain ⟨blank, isBlank, left⟩ := dropComments_gap isGap
    have nothing : dropComments .lineComment body = [] := by
      simpa [dropComments] using dropComments_lineComment oneLine []
    rw [left]
    simpa [dropComments, nothing] using isBlank

/-- Without its comments a text has the same words, with blank space between them. -/
theorem dropComments_laid (laid : Laid IsGap IsLastGap words text) :
    Laid IsBlank IsBlank words (dropComments .code text) := by
  induction laid with
  | last isGap => exact .last (dropComments_lastGap isGap)
  | @word gap text w words isGap _ ih =>
    obtain ⟨blank, isBlank, left⟩ := dropComments_gap isGap
    rw [left, dropComments_chars]
    exact .word isBlank ih

/-! ### Trailing commas -/

/-- Words without the commas that stand before something that closes. -/
def untrailed : List Word → List Word
  | [] => []
  | w :: words =>
    if w.isComma ∧ words.head?.any Word.closes then untrailed words else w :: untrailed words

theorem closesNext_laid (laid : Laid IsBlank IsBlank words text) :
    closesNext text = words.head?.any Word.closes := by
  cases laid with
  | last isBlank =>
    have blank : text.dropWhile Text.isBlank = [] :=
      List.dropWhile_eq_nil_iff.2 fun c member => isBlank_of_isSpace (isBlank c member)
    simp [closesNext, blank]
  | @word gap text w words isBlank _ =>
    obtain ⟨c, rest, chars, solid, closes⟩ := w.chars_eq_cons
    have blank : (gap ++ (w.chars ++ text)).dropWhile Text.isBlank = c :: (rest ++ text) := by
      rw [List.dropWhile_append_of_pos fun d member => isBlank_of_isSpace (isBlank d member),
        chars, List.cons_append, List.dropWhile_cons_of_neg (by simp [solid])]
    simp [closesNext, blank, closes]

theorem Laid.blank_append (isBlank : IsBlank gap) (laid : Laid IsBlank IsBlank words text) :
    Laid IsBlank IsBlank words (gap ++ text) := by
  cases laid with
  | last isLast => exact .last (isBlank.append isLast)
  | word isGap laid =>
    rw [← List.append_assoc]
    exact .word (isBlank.append isGap) laid

/-- What becomes of one word: a comma is dropped if the next word closes something. -/
theorem dropTrailingCommas_word (w : Word) (laid : Laid IsBlank IsBlank words text) :
    dropTrailingCommas .code (w.chars ++ text) =
      if w.isComma ∧ words.head?.any Word.closes then dropTrailingCommas .code text
      else w.chars ++ dropTrailingCommas .code text := by
  by_cases comma : w.isComma
  · obtain rfl := Word.eq_comma comma
    simp [Word.chars, Mark.char, dropTrailingCommas, Word.isComma, closesNext_laid laid]
  · rw [dropTrailingCommas_chars (by simpa using comma), if_neg fun both => comma both.1]

theorem dropTrailingCommas_last (isBlank : IsBlank gap) : dropTrailingCommas .code gap = gap := by
  simpa [dropTrailingCommas] using dropTrailingCommas_quiet isBlank.isQuiet []

/-- Without its trailing commas a text has all other words, with blank space between them. -/
theorem dropTrailingCommas_laid (laid : Laid IsBlank IsBlank words text) :
    Laid IsBlank IsBlank (untrailed words) (dropTrailingCommas .code text) := by
  induction laid with
  | last isBlank =>
    rw [dropTrailingCommas_last isBlank]
    exact .last isBlank
  | @word gap text w words isBlank laid ih =>
    rw [dropTrailingCommas_quiet isBlank.isQuiet, dropTrailingCommas_word w laid, untrailed]
    split
    · exact ih.blank_append isBlank
    · exact .word isBlank ih

/-- Two words that may follow each other: they cannot be taken for one, and the first is not a
trailing comma. -/
def Word.Meets (w v : Word) : Prop := (w.isMark ∨ v.isMark) ∧ ¬ (w.isComma ∧ v.closes)

theorem dropTrailingCommas_eq_self (laid : Laid IsBlank IsBlank words text)
    (meet : words.IsChain Word.Meets) : dropTrailingCommas .code text = text := by
  induction laid with
  | last isBlank => exact dropTrailingCommas_last isBlank
  | @word gap text w words isBlank laid ih =>
    have kept : ¬ (w.isComma ∧ words.head?.any Word.closes) := by
      rintro ⟨comma, closes⟩
      obtain ⟨v, first, closes⟩ := (Option.any_eq_true _ _).1 closes
      exact (meet.rel_head? first).2 ⟨comma, closes⟩
    rw [dropTrailingCommas_quiet isBlank.isQuiet, dropTrailingCommas_word w laid, if_neg kept, ih meet.tail]

theorem dropComments_eq_self (laid : Laid IsBlank IsBlank words text) :
    dropComments .code text = text := by
  induction laid with
  | last isBlank => simpa [dropComments] using dropComments_quiet isBlank.isQuiet []
  | word isBlank _ ih => rw [dropComments_quiet isBlank.isQuiet, dropComments_chars, ih]

/-! ### Values -/

/-- What holds other values. -/
inductive Nest where
  | array
  | object

def Nest.opening : Nest → Word
  | array => .mark .openBracket
  | object => .mark .openBrace

def Nest.closing : Nest → Word
  | array => .mark .closeBracket
  | object => .mark .closeBrace

/-- A part of a JSON text: a value, or what stands between two brackets. -/
inductive Part where
  | value
  | inside (nest : Nest)

/-- The words of a part, first without trailing commas and then with any of them: one comma may
stand before the bracket that closes an array or an object, if this is not empty. -/
inductive Spells : Part → (strict loose : List Word) → Prop where
  | scalar {w : Word} : w.isMark = false → Spells .value [w] [w]
  | empty {nest : Nest} :
    Spells .value [nest.opening, nest.closing] [nest.opening, nest.closing]
  | full {nest : Nest} {strict loose trail : List Word} : Spells (.inside nest) strict loose →
    trail = [] ∨ trail = [.mark .comma] →
    Spells .value (nest.opening :: (strict ++ [nest.closing]))
      (nest.opening :: (loose ++ (trail ++ [nest.closing])))
  | item {strict loose : List Word} : Spells .value strict loose →
    Spells (.inside .array) strict loose
  | member {key : Text} {valid : IsStringBody key} {strict loose : List Word} :
    Spells .value strict loose →
    Spells (.inside .object) (.string key valid :: .mark .colon :: strict)
      (.string key valid :: .mark .colon :: loose)
  | more {nest : Nest} {strict loose strict' loose' : List Word} :
    Spells (.inside nest) strict loose → Spells (.inside nest) strict' loose' →
    Spells (.inside nest) (strict ++ .mark .comma :: strict') (loose ++ .mark .comma :: loose')

variable {part : Part} {strict loose : List Word}

@[simp]
theorem Nest.isMark_opening (nest : Nest) : nest.opening.isMark = true := by cases nest <;> rfl

@[simp]
theorem Nest.isComma_opening (nest : Nest) : nest.opening.isComma = false := by cases nest <;> rfl

@[simp]
theorem Nest.closes_opening (nest : Nest) : nest.opening.closes = false := by cases nest <;> rfl

@[simp]
theorem Nest.isMark_closing (nest : Nest) : nest.closing.isMark = true := by cases nest <;> rfl

@[simp]
theorem Nest.isComma_closing (nest : Nest) : nest.closing.isComma = false := by cases nest <;> rfl

@[simp]
theorem Nest.closes_closing (nest : Nest) : nest.closing.closes = true := by cases nest <;> rfl

/-- A word that is not a mark does not end or divide anything. -/
theorem Word.of_isMark_eq_false (scalar : w.isMark = false) :
    w.isComma = false ∧ w.closes = false := by
  cases w with
  | mark m => simp [isMark] at scalar
  | _ => exact ⟨rfl, rfl⟩

theorem untrailed_cons_of_ne_comma (other : w.isComma = false) (words : List Word) :
    untrailed (w :: words) = w :: untrailed words := by
  simp [untrailed, other]

theorem untrailed_cons_of_not_closes (front : Word) (inner : w.closes = false)
    (words : List Word) : untrailed (front :: w :: words) = front :: untrailed (w :: words) := by
  rw [untrailed, if_neg (by simp [inner])]

/-- No part begins with a word that closes, so that the comma before it stays. -/
theorem Spells.untrailed_append (spells : Spells part strict loose) (front : Word)
    (following : List Word) :
    untrailed (front :: (loose ++ following)) = front :: (strict ++ untrailed following) := by
  induction spells generalizing front following with
  | @scalar w scalar =>
    obtain ⟨comma, closes⟩ := Word.of_isMark_eq_false scalar
    simp only [List.singleton_append, untrailed_cons_of_not_closes front closes,
      untrailed_cons_of_ne_comma comma]
  | @empty nest =>
    simp only [List.cons_append, List.nil_append,
      untrailed_cons_of_not_closes front nest.closes_opening,
      untrailed_cons_of_ne_comma nest.isComma_opening,
      untrailed_cons_of_ne_comma nest.isComma_closing]
  | @full nest strict loose trail _ trailing ih =>
    have closed : untrailed (trail ++ nest.closing :: following) =
        nest.closing :: untrailed following := by
      rcases trailing with rfl | rfl
      · exact untrailed_cons_of_ne_comma nest.isComma_closing following
      · rw [List.singleton_append, untrailed, if_pos (by simp [Word.isComma]),
          untrailed_cons_of_ne_comma nest.isComma_closing]
    simp only [List.cons_append, List.append_assoc, List.nil_append,
      untrailed_cons_of_not_closes front nest.closes_opening, ih, closed]
  | item _ ih => exact ih front following
  | @member key valid strict loose _ ih =>
    have quoted : untrailed (front :: .string key valid :: .mark .colon :: (loose ++ following)) =
        front :: .string key valid :: untrailed (.mark .colon :: (loose ++ following)) := by
      rw [untrailed_cons_of_not_closes front rfl, untrailed_cons_of_ne_comma rfl]
    simp only [List.cons_append, quoted, ih]
  | more _ _ ih ih' => simp only [List.append_assoc, List.cons_append, ih, ih']

theorem Word.meets_of_not_closes {front : Word} (mark : front.isMark) (inner : w.closes = false) :
    front.Meets w := ⟨.inl mark, by simp [inner]⟩

theorem Word.meets_of_ne_comma {next : Word} (mark : next.isMark) (other : w.isComma = false) :
    w.Meets next := ⟨.inr mark, by simp [other]⟩

/-- The words of a part may follow each other, and a mark may stand before and behind them. -/
theorem Spells.isChain (spells : Spells part strict loose) {front : Word} (mark : front.isMark)
    {following : List Word} (marks : ∀ w ∈ following.head?, w.isMark)
    (meet : following.IsChain Word.Meets) :
    (front :: (strict ++ following)).IsChain Word.Meets := by
  induction spells generalizing front following with
  | @scalar w scalar =>
    obtain ⟨comma, closes⟩ := Word.of_isMark_eq_false scalar
    have inner : (w :: following).IsChain Word.Meets :=
      meet.cons fun v first => Word.meets_of_ne_comma (marks v first) comma
    exact List.isChain_cons_cons.2 ⟨Word.meets_of_not_closes mark closes, inner⟩
  | @empty nest =>
    have inner : (nest.closing :: following).IsChain Word.Meets :=
      meet.cons fun v first => Word.meets_of_ne_comma (marks v first) nest.isComma_closing
    refine List.isChain_cons_cons.2 ⟨Word.meets_of_not_closes mark nest.closes_opening, ?_⟩
    exact List.isChain_cons_cons.2
      ⟨Word.meets_of_ne_comma nest.isMark_closing nest.isComma_opening, inner⟩
  | @full nest strict loose trail _ trailing ih =>
    have inner : (nest.closing :: following).IsChain Word.Meets :=
      meet.cons fun v first => Word.meets_of_ne_comma (marks v first) nest.isComma_closing
    have nested := ih nest.isMark_opening (by simp) inner
    rw [List.cons_append, List.append_assoc]
    exact List.isChain_cons_cons.2 ⟨Word.meets_of_not_closes mark nest.closes_opening, nested⟩
  | item _ ih => exact ih mark marks meet
  | @member key valid strict loose _ ih =>
    have inner : (.mark .colon :: (strict ++ following)).IsChain Word.Meets := ih rfl marks meet
    refine List.isChain_cons_cons.2 ⟨Word.meets_of_not_closes mark rfl, ?_⟩
    exact List.isChain_cons_cons.2 ⟨Word.meets_of_ne_comma rfl rfl, inner⟩
  | @more nest strict _ strict' _ _ _ ih ih' =>
    have later : (.mark .comma :: (strict' ++ following)).IsChain Word.Meets := ih' rfl marks meet
    rw [List.append_assoc]
    exact ih mark (by simp [Word.isMark]) later

/-- Dropping trailing commas from the words of a value leaves the words without them. -/
theorem Spells.untrailed_eq (spells : Spells part strict loose) : untrailed loose = strict := by
  have whole := spells.untrailed_append (.mark .colon) []
  rw [List.append_nil, untrailed_cons_of_ne_comma rfl] at whole
  simpa [untrailed] using whole

theorem Spells.meet (spells : Spells part strict loose) : strict.IsChain Word.Meets := by
  have whole : (.mark .colon :: (strict ++ [])).IsChain Word.Meets :=
    spells.isChain rfl (by simp) .nil
  simpa using whole.tail

/-! ### Option files -/

/-- A value written with comments and trailing commas becomes the same words with blank space
between them, and reads as it does without; a text that has neither stays as it is. -/
theorem parse_commented {source tidy : Text} (spells : Spells .value strict loose)
    (commented : Laid IsGap IsLastGap loose source) (uncommented : Laid IsBlank IsBlank strict tidy) :
    Laid IsBlank IsBlank strict (plain source) ∧
      Token.all? (plain source) = strict.mapM Word.token? ∧
      Token.all? tidy = strict.mapM Word.token? ∧
      OptionFile.parse source = OptionFile.parse tidy ∧
      dropComments .code tidy = tidy ∧ dropTrailingCommas .code tidy = tidy := by
  have laid : Laid IsBlank IsBlank strict (plain source) := by
    have dropped := dropTrailingCommas_laid (dropComments_laid commented)
    rwa [spells.untrailed_eq] at dropped
  have apart : strict.IsChain fun w v => w.isMark ∨ v.isMark := spells.meet.imp fun _ _ => And.left
  have read := Token.all?_laid laid apart
  have read' := Token.all?_laid uncommented apart
  have same := dropComments_eq_self uncommented
  have same' := dropTrailingCommas_eq_self uncommented spells.meet
  refine ⟨laid, read, read', ?_, same, same'⟩
  have unchanged : plain tidy = tidy := by rw [plain, same, same']
  simp only [OptionFile.parse, Value.parse?, unchanged, read, read']

namespace Sample

/-- A key. -/
def key : Word := .string ['n', 'a', 'm', 'e'] (by
  repeat refine .plain (by decide) (by decide) (by decide) ?_
  exact .empty)

/-- A string that holds what begins a comment, a comma before a bracket and a quote. -/
def quoted : Word := .string ['/', '/', '/', '*', ',', '\x7d', '\\', '"'] (by
  repeat refine .plain (by decide) (by decide) (by decide) ?_
  exact .escape (by decide) .empty)

/-- The words of an object. -/
def object : List Word := [.mark .openBrace, key, .mark .colon, quoted, .mark .closeBrace]

/-- The words of an object with a trailing comma. -/
def trailed : List Word :=
  [.mark .openBrace, key, .mark .colon, quoted, .mark .comma, .mark .closeBrace]

/-- The object with comments and a trailing comma. -/
def commented : Text :=
  "\x7b// a\n\"name\" :\t\"///*,\x7d\\\"\"/* b **/,\n\x7d//c".toList

/-- The object alone. -/
def tidy : Text := "\x7b\"name\":\"///*,\x7d\\\"\"\x7d".toList

theorem spells : Spells .value object trailed := by
  have value : Spells .value [quoted] [quoted] := .scalar rfl
  have member : Spells (.inside .object) [key, .mark .colon, quoted] [key, .mark .colon, quoted] :=
    .member value
  exact .full member (.inr rfl)

theorem laid_commented : Laid IsGap IsLastGap trailed commented := by
  have blank : ∀ c, Token.isSpace c → IsGap [c] := fun c space => .space space .empty
  have line : IsGap "// a\n".toList := @IsGap.lineComment " a".toList [] (by decide) .empty
  have block : IsGap "/* b **/".toList := @IsGap.blockComment " b *".toList [] (by decide) .empty
  have last : IsLastGap "//c".toList := @IsLastGap.unclosed [] "c".toList .empty (by decide)
  exact .word .empty <| .word line <| .word (blank ' ' rfl) <| .word (blank '\t' rfl) <|
    .word block <| .word (blank '\n' rfl) <| .last last

theorem laid_tidy : Laid IsBlank IsBlank object tidy := by
  have nothing : IsBlank [] := by simp [IsBlank]
  exact .word nothing <| .word nothing <| .word nothing <| .word nothing <| .word nothing <|
    .last nothing

end Sample

example : plain Sample.commented =
    "\x7b\n\"name\" :\t\"///*,\x7d\\\"\"\n\x7d".toList := by decide

theorem parse_commented_sample :
    Spells .value Sample.object Sample.trailed ∧
      Laid IsGap IsLastGap Sample.trailed Sample.commented ∧
      Laid IsBlank IsBlank Sample.object Sample.tidy ∧
      OptionFile.parse Sample.commented = OptionFile.parse Sample.tidy :=
  ⟨Sample.spells, Sample.laid_commented, Sample.laid_tidy,
    (parse_commented Sample.spells Sample.laid_commented Sample.laid_tidy).2.2.2.1⟩

end TypingBundle.Json
