import Mathlib.Data.List.Sort
import TypingBundle.Proofs.Inclusion
import TypingBundle.Proofs.Record.Classified

/-!
Which documentation comes before which line. A block comment is a run of lines of a file, from the
line that opens it to the line that ends it, and documentation if it begins like one. It waits until
a line takes it, and is given up at a private member and where other documentation ends.

Main statements: `CommentState.Matches.scanLines` says that a scan hands out the documentation that
waits, and `entries_places` says from which lines of a file its entries come.
-/

namespace TypingBundle

/-- Whether documentation does not wait beyond a line of the class. -/
def Line.Class.settles (found : Line.Class) : Bool :=
  CommentState.takesDoc found || found = .privateMember

namespace Classified

open Line (Class)

variable {L : Classified} {p : Line.Class → Bool} {line : Text} {found : Line.Class}
  {a b c d i k n : Nat}

/-! ### Places of lines -/

/-- Whether there is a line at a place with a class as asked for. -/
def hasAt (L : Classified) (p : Line.Class → Bool) (k : Nat) : Bool := (L[k]?).any fun l => p l.2

/-- The line at a place. -/
def lineAt (L : Classified) (k : Nat) : Text := ((L[k]?).map Prod.fst).getD []

/-- The lines from a place on and before another one. -/
def slice (L : Classified) (a n : Nat) : List Text := (List.range' a (n - a)).map L.lineAt

theorem hasAt_of_getElem? (known : L[k]? = some (line, found)) : L.hasAt p k = p found := by
  simp [hasAt, known]

theorem lineAt_of_getElem? (known : L[k]? = some (line, found)) : L.lineAt k = line := by
  simp [lineAt, known]

theorem exists_of_hasAt (has : L.hasAt p k = true) :
    ∃ line found, L[k]? = some (line, found) ∧ p found = true := by
  unfold hasAt at has
  cases known : L[k]? with
  | none =>
    rw [known] at has
    cases has
  | some l =>
    rw [known] at has
    exact ⟨l.1, l.2, rfl, by simpa using has⟩

theorem slice_succ (before : a ≤ n) : L.slice a (n + 1) = L.slice a n ++ [L.lineAt n] := by
  have length : n + 1 - a = n - a + 1 := by omega
  have last : a + (n - a) = n := by omega
  rw [slice, length, List.range'_1_concat, List.map_append, last]
  rfl

theorem slice_self : L.slice n n = [] := by simp [slice]

theorem head?_slice (before : a < n) : (L.slice a n).head? = some (L.lineAt a) := by
  obtain ⟨m, length⟩ : ∃ m, n - a = m + 1 := ⟨n - a - 1, by omega⟩
  rw [slice, length, List.range'_succ]
  rfl

/-! ### Comments -/

/-- A comment is open behind each line from `a` on that comes before `n`, but not before `a`. -/
def OpenFrom (L : Classified) (a n : Nat) : Prop :=
  (∀ k < n, a ≤ k → L.hasAt Class.isOpen k = true) ∧ ∀ k < a, k + 1 = a → L.hasAt Class.isOpen k = false

instance : Decidable (L.OpenFrom a n) := inferInstanceAs (Decidable (_ ∧ _))

/-- Documentation from its first to its last line: a block comment that begins like one. -/
def IsDoc (L : Classified) (a b : Nat) : Prop :=
  a ≤ b ∧ L.OpenFrom a b ∧ L.hasAt Class.endsBlock b = true ∧ Line.isDocStart (L.lineAt a) = true

instance : Decidable (L.IsDoc a b) := inferInstanceAs (Decidable (_ ∧ _))

/-- Documentation that waits before the line `n`: since it ended there was no line that takes
documentation, no private member, and no end of other documentation. -/
def Waits (L : Classified) (a b n : Nat) : Prop :=
  L.IsDoc a b ∧ b < n ∧
    ∀ k < n, b < k → L.hasAt Class.settles k = false ∧ ∀ c < k + 1, ¬ L.IsDoc c k

instance : Decidable (L.Waits a b n) := inferInstanceAs (Decidable (_ ∧ _))

/-- Documentation that belongs to the line `i`, which takes it. -/
def Documents (L : Classified) (a b i : Nat) : Prop :=
  L.hasAt CommentState.takesDoc i = true ∧ L.Waits a b i

instance : Decidable (L.Documents a b i) := inferInstanceAs (Decidable (_ ∧ _))

theorem inComment_of_isOpen (opened : L.hasAt Class.isOpen k = true) :
    L.hasAt Class.inComment k = true := by
  obtain ⟨line, found, known, opened⟩ := exists_of_hasAt opened
  rw [hasAt_of_getElem? known]
  cases apart : found.inComment with
  | true => rfl
  | false =>
    rw [Class.isOpen_of_inComment_eq_false apart] at opened
    cases opened

theorem inComment_of_endsBlock (ends : L.hasAt Class.endsBlock k = true) :
    L.hasAt Class.inComment k = true := by
  obtain ⟨line, found, known, ends⟩ := exists_of_hasAt ends
  rw [hasAt_of_getElem? known]
  cases apart : found.inComment with
  | true => rfl
  | false =>
    rw [Class.endsBlock_of_inComment_eq_false apart] at ends
    cases ends

/-- A line of a comment does not settle documentation. -/
theorem settles_of_inComment (inside : L.hasAt Class.inComment k = true) :
    L.hasAt Class.settles k = false := by
  obtain ⟨line, found, known, inside⟩ := exists_of_hasAt inside
  rw [hasAt_of_getElem? known]
  cases found with
  | blockEnd => rfl
  | blockStart closes => rfl
  | blockBody => rfl
  | _ => cases inside

/-- No comment is open behind the line that ends it. -/
theorem isOpen_of_endsBlock (ends : L.hasAt Class.endsBlock k = true) :
    L.hasAt Class.isOpen k = false := by
  obtain ⟨line, found, known, ends⟩ := exists_of_hasAt ends
  rw [hasAt_of_getElem? known]
  cases found with
  | blockEnd => rfl
  | blockStart closes =>
    obtain rfl : closes = true := ends
    rfl
  | _ => cases ends

/-- A comment that is open has one beginning. -/
theorem OpenFrom.unique (first : L.OpenFrom a n) (second : L.OpenFrom b n) (before : a ≤ n)
    (before' : b ≤ n) : a = b := by
  rcases Nat.lt_trichotomy a b with less | same | more
  · have opened := first.1 (b - 1) (by omega) (by omega)
    rw [second.2 (b - 1) (by omega) (by omega)] at opened
    cases opened
  · exact same
  · have opened := second.1 (a - 1) (by omega) (by omega)
    rw [first.2 (a - 1) (by omega) (by omega)] at opened
    cases opened

theorem IsDoc.unique (first : L.IsDoc a n) (second : L.IsDoc b n) : a = b :=
  first.2.1.unique second.2.1 first.1 second.1

/-- All lines of documentation belong to a comment. -/
theorem IsDoc.inComment (doc : L.IsDoc a b) (less : a ≤ k) (more : k ≤ b) :
    L.hasAt Class.inComment k = true := by
  by_cases last : k = b
  · subst last
    exact inComment_of_endsBlock doc.2.2.1
  · exact inComment_of_isOpen (doc.2.1.1 k (by omega) less)

/-- Documentation that shares a line with other documentation is the same. -/
theorem IsDoc.eq_of_mem (first : L.IsDoc a b) (second : L.IsDoc c d) (less : a ≤ k) (more : k ≤ b)
    (less' : c ≤ k) (more' : k ≤ d) : a = c ∧ b = d := by
  have same : b = d := by
    rcases Nat.lt_trichotomy b d with shorter | same | longer
    · have opened := second.2.1.1 b shorter (by omega)
      rw [isOpen_of_endsBlock first.2.2.1] at opened
      cases opened
    · exact same
    · have opened := first.2.1.1 d longer (by omega)
      rw [isOpen_of_endsBlock second.2.2.1] at opened
      cases opened
  subst same
  exact ⟨first.unique second, rfl⟩

/-- Behind a line that leaves no comment open, a comment can only begin. -/
theorem openFrom_self (shut : L.hasAt Class.isOpen n = false) : L.OpenFrom (n + 1) (n + 1) := by
  constructor
  · intro k less more
    omega
  · intro k _ last
    obtain rfl : k = n := by omega
    exact shut

theorem OpenFrom.succ (opened : L.OpenFrom a n) (last : L.hasAt Class.isOpen n = true) :
    L.OpenFrom a (n + 1) := by
  refine ⟨fun k less more => ?_, opened.2⟩
  by_cases same : k = n
  · rwa [same]
  · exact opened.1 k (by omega) more

/-! ### Documentation that waits -/

/-- Only the documentation that ended last waits. -/
theorem Waits.unique (first : L.Waits a b n) (second : L.Waits c d n) : a = c ∧ b = d := by
  have same : b = d := by
    rcases Nat.lt_trichotomy b d with less | same | more
    · exact absurd second.1 ((first.2.2 d second.2.1 less).2 c (by have := second.1.1; omega))
    · exact same
    · exact absurd first.1 ((second.2.2 b first.2.1 more).2 a (by have := first.1.1; omega))
  subst same
  exact ⟨first.1.unique second.1, rfl⟩

theorem waits_succ_of_isDoc (doc : L.IsDoc c n) : L.Waits c n (n + 1) :=
  ⟨doc, Nat.lt_succ_self n, fun k less more => by omega⟩

/-- A line that neither settles nor ends documentation leaves it waiting. -/
theorem waits_succ_iff (unsettled : L.hasAt Class.settles n = false) (none : ∀ c, ¬ L.IsDoc c n) :
    L.Waits a b (n + 1) ↔ L.Waits a b n := by
  constructor
  · rintro ⟨doc, less, since⟩
    have earlier : b ≠ n := by
      rintro rfl
      exact none a doc
    exact ⟨doc, by omega, fun k below above => since k (by omega) above⟩
  · rintro ⟨doc, less, since⟩
    refine ⟨doc, by omega, fun k below above => ?_⟩
    by_cases same : k = n
    · subst same
      exact ⟨unsettled, fun c _ => none c⟩
    · exact since k (by omega) above

theorem not_waits_succ_of_settles (settled : L.hasAt Class.settles n = true) :
    ¬ L.Waits a b (n + 1) := by
  rintro ⟨doc, less, since⟩
  by_cases last : b = n
  · subst last
    rw [settles_of_inComment (inComment_of_endsBlock doc.2.2.1)] at settled
    cases settled
  · rw [(since n (Nat.lt_succ_self n) (by omega)).1] at settled
    cases settled

/-- The places of the documentation that belongs to the line `i`. -/
def docPlaces (L : Classified) (i : Nat) : List Nat :=
  (List.range i).filter fun k => ∃ a < k + 1, ∃ b < i, k ≤ b ∧ L.Documents a b i

theorem mem_docPlaces : k ∈ L.docPlaces i ↔ ∃ a b, L.Documents a b i ∧ a ≤ k ∧ k ≤ b := by
  simp only [docPlaces, List.mem_filter, List.mem_range, decide_eq_true_eq]
  constructor
  · rintro ⟨_, a, less, b, _, more, documents⟩
    exact ⟨a, b, documents, by omega, more⟩
  · rintro ⟨a, b, documents, less, more⟩
    have before := documents.2.2.1
    exact ⟨by omega, a, by omega, b, before, more, documents⟩

theorem docPlaces_of_documents (documents : L.Documents a b i) :
    L.docPlaces i = List.range' a (b + 1 - a) := by
  have ordered : a ≤ b := documents.2.1.1
  have before : b < i := documents.2.2.1
  have sorted : (L.docPlaces i).Pairwise (· < ·) := List.Pairwise.filter _ List.pairwise_lt_range
  have counted : (List.range' a (b + 1 - a)).Pairwise (· < ·) := List.pairwise_lt_range'
  refine List.Pairwise.eq_of_mem_iff sorted counted fun k => ?_
  rw [mem_docPlaces, List.mem_range'_1]
  constructor
  · rintro ⟨c, d, others, less, more⟩
    obtain ⟨rfl, rfl⟩ := others.2.unique documents.2
    omega
  · intro inside
    exact ⟨a, b, documents, by omega, by omega⟩

theorem docPlaces_of_none (none : ∀ a b, ¬ L.Documents a b i) : L.docPlaces i = [] := by
  rw [List.eq_nil_iff_forall_not_mem]
  intro k member
  obtain ⟨a, b, documents, _⟩ := mem_docPlaces.1 member
  exact none a b documents

end Classified

/-! ### Scanned lines -/

namespace CommentState

open Classified
open Line (Class)

variable {s : CommentState} {L : Classified} {line : Text} {found : Line.Class} {n : Nat}

/-- The comments between two lines as the lines before show them. -/
structure Matches (s : CommentState) (L : Classified) (n : Nat) : Prop where
  block : ∃ a ≤ n, L.OpenFrom a n ∧ s.block = L.slice a n ∧ s.inBlock = decide (a < n)
  waiting : (∃ a b, L.Waits a b n ∧ s.waiting = L.slice a (b + 1)) ∨
    (s.waiting = [] ∧ ∀ a b, ¬ L.Waits a b n)

namespace Matches

theorem initial (L : Classified) : Matches {} L 0 where
  block := ⟨0, Nat.le_refl 0, ⟨fun k less => by omega, fun k less => by omega⟩, rfl, rfl⟩
  waiting := Or.inr ⟨rfl, fun a b waits => by have := waits.2.1; omega⟩

/-- What waits goes on to wait behind a line that neither settles nor ends documentation. -/
theorem waiting_succ {waiting : List Text} (same : waiting = s.waiting) (agrees : s.Matches L n)
    (unsettled : L.hasAt Class.settles n = false) (none : ∀ c, ¬ L.IsDoc c n) :
    (∃ a b, L.Waits a b (n + 1) ∧ waiting = L.slice a (b + 1)) ∨
      (waiting = [] ∧ ∀ a b, ¬ L.Waits a b (n + 1)) := by
  rw [same]
  simp only [waits_succ_iff unsettled none]
  exact agrees.waiting

/-- The end of a block comment: it waits if it is documentation, and is forgotten if not. -/
theorem close (agrees : s.Matches L n) (known : L[n]? = some (line, found))
    (ends : found.endsBlock = true) (shut : found.isOpen = false) :
    (s.add line).close.Matches L (n + 1) := by
  have endsAt : L.hasAt Class.endsBlock n = true := by rw [hasAt_of_getElem? known, ends]
  have shutAt : L.hasAt Class.isOpen n = false := by rw [hasAt_of_getElem? known, shut]
  obtain ⟨a, before, opened, buffered, _⟩ := agrees.block
  have whole : (s.add line).block = L.slice a (n + 1) := by
    rw [slice_succ before, lineAt_of_getElem? known, ← buffered]
    rfl
  have head : (s.add line).block.head? = some (L.lineAt a) := by
    rw [whole, head?_slice (by omega)]
  constructor
  case block =>
    exact ⟨n + 1, Nat.le_refl _, openFrom_self shutAt, slice_self.symm, by simp [CommentState.close]⟩
  case waiting =>
    cases begins : Line.isDocStart (L.lineAt a) with
    | true =>
      refine Or.inl ⟨a, n, waits_succ_of_isDoc ⟨before, opened, endsAt, begins⟩, ?_⟩
      rw [CommentState.close, head]
      simp [begins, whole]
    | false =>
      have none : ∀ c, ¬ L.IsDoc c n := by
        intro c doc
        obtain rfl := doc.2.1.unique opened doc.1 before
        rw [doc.2.2.2] at begins
        cases begins
      have unsettled := settles_of_inComment (inComment_of_endsBlock endsAt)
      refine waiting_succ (s := s) ?_ agrees unsettled none
      rw [CommentState.close, head]
      simp [begins, CommentState.add]

/-- A line that leaves its comment open is kept with the comment. -/
theorem add {s' : CommentState} (agrees : s.Matches L n) (known : L[n]? = some (line, found))
    (opened : found.isOpen = true) (shut : found.endsBlock = false) (inBlock : s'.inBlock = true)
    (block : s'.block = s.block ++ [line]) (waiting : s'.waiting = s.waiting) :
    s'.Matches L (n + 1) := by
  have openAt : L.hasAt Class.isOpen n = true := by rw [hasAt_of_getElem? known, opened]
  have none : ∀ c, ¬ L.IsDoc c n := by
    rintro c ⟨_, _, ends, _⟩
    rw [hasAt_of_getElem? known, shut] at ends
    cases ends
  obtain ⟨a, before, run, buffered, _⟩ := agrees.block
  constructor
  case block =>
    refine ⟨a, by omega, run.succ openAt, ?_, by simp [inBlock]; omega⟩
    rw [block, buffered, slice_succ before, lineAt_of_getElem? known]
  case waiting =>
    have unsettled := settles_of_inComment (inComment_of_isOpen openAt)
    exact waiting_succ waiting agrees unsettled none

/-- Behind a line outside comments waits what waited before, unless the line settles it. -/
theorem waiting_after (apart : found.inComment = false) (s : CommentState) (line : Text) :
    (s.after line found).waiting = if found.settles then [] else s.waiting := by
  cases found with
  | blockEnd => cases apart
  | blockStart closes => cases apart
  | blockBody => cases apart
  | _ => rfl

/-- A line outside comments leaves none open. If it settles documentation, none waits behind it. -/
theorem outside (agrees : s.Matches L n) (known : L[n]? = some (line, found))
    (apart : found.inComment = false) (off : s.inBlock = false) :
    (s.after line found).Matches L (n + 1) := by
  obtain ⟨inBlock, block⟩ := after_of_inComment_eq_false apart s line
  obtain ⟨a, before, _, buffered, inside⟩ := agrees.block
  obtain rfl : a = n := by
    rw [off] at inside
    have := of_decide_eq_false inside.symm
    omega
  have shutAt : L.hasAt Class.isOpen a = false := by
    rw [hasAt_of_getElem? known, Class.isOpen_of_inComment_eq_false apart]
  have none : ∀ c, ¬ L.IsDoc c a := by
    rintro c ⟨_, _, ends, _⟩
    rw [hasAt_of_getElem? known, Class.endsBlock_of_inComment_eq_false apart] at ends
    cases ends
  constructor
  case block =>
    refine ⟨a + 1, Nat.le_refl _, openFrom_self shutAt, ?_, by simp [inBlock, off]⟩
    rw [block, buffered, slice_self, slice_self]
  case waiting =>
    cases settles : found.settles with
    | true =>
      have settled : L.hasAt Class.settles a = true := by rw [hasAt_of_getElem? known, settles]
      refine Or.inr ⟨?_, fun c d => not_waits_succ_of_settles settled⟩
      rw [waiting_after apart, if_pos settles]
    | false =>
      have unsettled : L.hasAt Class.settles a = false := by rw [hasAt_of_getElem? known, settles]
      refine waiting_succ (s := s) ?_ agrees unsettled none
      rw [waiting_after apart, settles]
      rfl

/-- One line is read as the lines before it show. -/
theorem after (agrees : s.Matches L n) (known : L[n]? = some (line, Line.classify line s.inBlock)) :
    (s.after line (Line.classify line s.inBlock)).Matches L (n + 1) := by
  rcases Line.classify_cases line s.inBlock with found | ⟨closes, found⟩ | ⟨inside, found⟩ |
    ⟨off, found⟩
  · rw [found] at known ⊢
    exact agrees.close known rfl rfl
  · rw [found] at known ⊢
    cases closes with
    | true => exact agrees.close known rfl rfl
    | false => exact agrees.add known rfl rfl rfl rfl rfl
  · rw [found] at known ⊢
    exact agrees.add known rfl rfl inside rfl rfl
  · rw [found] at known ⊢
    exact agrees.outside known (Line.inComment_classifyCode line) off

/-- A line gets the documentation that belongs to it. -/
theorem doc_eq (agrees : s.Matches L n) (known : L[n]? = some (line, found)) :
    (if takesDoc found then s.waiting else []) = (L.docPlaces n).map L.lineAt := by
  have takes : L.hasAt takesDoc n = takesDoc found := hasAt_of_getElem? known
  split
  · rename_i took
    rw [took] at takes
    rcases agrees.waiting with ⟨a, b, waits, lines⟩ | ⟨nothing, none⟩
    · rw [docPlaces_of_documents ⟨takes, waits⟩, lines]
      rfl
    · rw [docPlaces_of_none fun a b documents => none a b documents.2, nothing]
      rfl
  · rename_i left
    have none : ∀ a b, ¬ L.Documents a b n := by
      intro a b documents
      rw [← takes] at left
      exact left documents.1
    rw [docPlaces_of_none none]
    rfl

/-- All lines of a scan get the documentation that belongs to them. -/
theorem scanLines {lines : List Text} (agrees : s.Matches L n)
    (rest : L.drop n = Classified.ofLines s.inBlock lines) {j : Nat} {scanned : ScannedLine}
    (reads : (TypingBundle.scanLines s lines)[j]? = some scanned) :
    scanned.doc = (L.docPlaces (n + j)).map L.lineAt := by
  induction lines generalizing s n j with
  | nil => cases reads
  | cons line lines ih =>
    have known : L[n]? = some (line, Line.classify line s.inBlock) := by
      rw [← Nat.add_zero n, ← List.getElem?_drop, rest]
      rfl
    cases j with
    | zero =>
      cases reads
      exact agrees.doc_eq known
    | succ j =>
      have later : L.drop (n + 1) =
          Classified.ofLines (s.after line (Line.classify line s.inBlock)).inBlock lines := by
        rw [inBlock_after, ← List.drop_drop, rest]
        rfl
      have found := ih (agrees.after known) later reads
      rwa [show n + (j + 1) = n + 1 + j by omega]

end Matches
end CommentState

theorem doc_of_scan {text : Text} {i : Nat} {scanned : ScannedLine}
    (reads : (scan text)[i]? = some scanned) :
    scanned.doc = ((Classified.ofText text).docPlaces i).map (Classified.ofText text).lineAt := by
  have found := (CommentState.Matches.initial (Classified.ofText text)).scanLines rfl reads
  rwa [Nat.zero_add] at found

/-! ### Entries -/

/-- Whether a line of the class has an entry of its own. -/
def Line.Class.hasEntry (found : Line.Class) : Bool :=
  CommentState.takesDoc found || found = .blank

namespace Classified

open Line (Class)

variable {L : Classified} {p : Line.Class → Bool} {line : Text} {found : Line.Class}
  {a b c d i k m : Nat}

/-- The places of the lines that the entries of a file come from: line by line, those of the
documentation that belongs to it and its own. -/
def places (L : Classified) : List Nat :=
  (List.range L.length).flatMap fun i =>
    L.docPlaces i ++ if L.hasAt Class.hasEntry i then [i] else []

section

variable {σ : Type} [FileStore σ]

/-- The entry that a line comes to. A blank line is empty, and a line of documentation is aligned;
all others have entries only where they take documentation. -/
def entryAt (L : Classified) (store : σ) (settings : Settings) (dir : Path) (isSource : Bool)
    (k : Nat) : Entry :=
  match L[k]? with
  | none => { line := [] }
  | some (line, found) =>
    if CommentState.takesDoc found then
      Reading.entry settings isSource (line, readLine store settings dir found)
    else if found = .blank then { line := [] }
    else { line := Line.alignDoc line }

variable {store : σ} {settings : Settings} {dir : Path} {isSource : Bool}

/-- A line that takes documentation has exactly one entry. -/
theorem written?_of_takesDoc (takes : CommentState.takesDoc found = true) :
    (readLine store settings dir found).written? settings isSource line =
      some (Reading.entry settings isSource (line, readLine store settings dir found)) := by
  cases found with
  | importing imported =>
    rw [readLine]
    rcases readImport_cases store settings dir imported with ext | untyped | rel
    · rw [ext]
      rfl
    · rw [untyped]
      rfl
    · rw [rel]
      rfl
  | moduleDeclaration declared => rfl
  | code => rfl
  | _ => cases takes

/-- The entry of a line, if it has one of its own. -/
theorem written?_toList (known : L[k]? = some (line, found)) :
    ((readLine store settings dir found).written? settings isSource line).toList =
      (if L.hasAt Class.hasEntry k then [k] else []).map
        (L.entryAt store settings dir isSource) := by
  rw [hasAt_of_getElem? known, Class.hasEntry]
  cases takes : CommentState.takesDoc found with
  | true =>
    rw [written?_of_takesDoc takes]
    simp [entryAt, known, takes]
  | false =>
    cases found with
    | blank => simp [entryAt, known, readLine, Reading.written?, CommentState.takesDoc]
    | importing imported => cases takes
    | moduleDeclaration declared => cases takes
    | code => cases takes
    | _ => rfl

/-- The entry of a line in a comment is that line, aligned. -/
theorem entryAt_of_inComment (inside : L.hasAt Class.inComment k = true) :
    L.entryAt store settings dir isSource k = { line := Line.alignDoc (L.lineAt k) } := by
  obtain ⟨line, found, known, inside⟩ := exists_of_hasAt inside
  rw [entryAt, known, lineAt_of_getElem? known]
  cases found with
  | blockEnd => rfl
  | blockStart closes => rfl
  | blockBody => rfl
  | _ => cases inside

theorem map_entryAt_docPlaces :
    (L.docPlaces i).map (L.entryAt store settings dir isSource) =
      ((L.docPlaces i).map L.lineAt).map fun line => { line := Line.alignDoc line } := by
  rw [List.map_map]
  refine List.map_congr_left fun k member => ?_
  obtain ⟨a, b, documents, less, more⟩ := mem_docPlaces.1 member
  exact entryAt_of_inComment (documents.2.1.inComment less more)

theorem length_ofText (text : Text) : (ofText text).length = (scan text).length := by
  rw [← map_scan, List.length_map]

/-- The entries of a text stand for its lines at `places`. -/
theorem entries_readLines (store : σ) (settings : Settings) (dir : Path) (isSource : Bool)
    (text : Text) :
    (readLines store settings dir text).flatMap (ReadLine.entries settings isSource) =
      (ofText text).places.map ((ofText text).entryAt store settings dir isSource) := by
  rw [places, List.map_flatMap, readLines, List.flatMap_map, length_ofText, List.flatMap_def,
    List.flatMap_def]
  congr 1
  refine List.ext_getElem (by simp) fun i inside _ => ?_
  rw [List.length_map] at inside
  have reads : (scan text)[i]? = some (scan text)[i] := List.getElem?_eq_getElem inside
  have known : (ofText text)[i]? = some ((scan text)[i].line, (scan text)[i].found) := by
    rw [← map_scan, List.getElem?_map, reads]
    rfl
  rw [List.getElem_map, List.getElem_map, List.getElem_range, List.map_append,
    map_entryAt_docPlaces, ← written?_toList known, ← doc_of_scan reads]
  rfl

end

/-! ### Order -/

/-- A line that settles documentation and stands before the line that is documented stands before
the documentation too. -/
theorem lt_of_documents (documents : L.Documents a b i) (settled : L.hasAt Class.settles k = true)
    (before : k < i) : k < a := by
  by_contra behind
  by_cases inside : k ≤ b
  · have comment := documents.2.1.inComment (by omega) inside
    rw [settles_of_inComment comment] at settled
    cases settled
  · rw [(documents.2.2.2 k before (by omega)).1] at settled
    cases settled

theorem settles_of_takesDoc (takes : L.hasAt CommentState.takesDoc i = true) :
    L.hasAt Class.settles i = true := by
  obtain ⟨line, found, known, takes⟩ := exists_of_hasAt takes
  rw [hasAt_of_getElem? known, Class.settles, takes]
  rfl

theorem lt_of_mem_docPlaces (member : k ∈ L.docPlaces i) : k < i :=
  List.mem_range.1 (List.mem_filter.1 member).1

/-- Where an entry other than that of a blank line comes from: the line is the one that is read or
one of its documentation, and the line that is read takes documentation. -/
theorem takesDoc_of_mem
    (member : k ∈ L.docPlaces i ++ if L.hasAt Class.hasEntry i then [i] else [])
    (written : L.hasAt (fun found => found = .blank) k = false) :
    L.hasAt CommentState.takesDoc i = true ∧ k ≤ i := by
  rcases List.mem_append.1 member with documentation | itself
  · obtain ⟨a, b, documents, _⟩ := mem_docPlaces.1 documentation
    exact ⟨documents.1, Nat.le_of_lt (lt_of_mem_docPlaces documentation)⟩
  · split at itself
    · rename_i has
      obtain rfl := List.mem_singleton.1 itself
      obtain ⟨line, found, known, has⟩ := exists_of_hasAt has
      rw [hasAt_of_getElem? known] at written ⊢
      rw [Class.hasEntry, written, Bool.or_false] at has
      exact ⟨has, Nat.le_refl _⟩
    · cases itself

/-- Apart from blank lines, lines keep their order and none comes twice. -/
theorem pairwise_places :
    (L.places.filter fun k => !L.hasAt (fun found => found = .blank) k).Pairwise (· < ·) := by
  rw [places, List.filter_flatMap, List.pairwise_flatMap]
  constructor
  · intro i _
    refine List.Pairwise.filter _ (List.pairwise_append.2 ⟨?_, ?_, ?_⟩)
    · exact List.Pairwise.filter _ List.pairwise_lt_range
    · split
      · exact List.pairwise_singleton _ _
      · exact List.Pairwise.nil
    · intro k documentation m itself
      split at itself
      · rw [List.mem_singleton.1 itself]
        exact lt_of_mem_docPlaces documentation
      · cases itself
  · refine List.pairwise_lt_range.imp fun {i j} less k first m second => ?_
    obtain ⟨first, written⟩ := List.mem_filter.1 first
    obtain ⟨second, written'⟩ := List.mem_filter.1 second
    obtain ⟨takes, before⟩ := takesDoc_of_mem first (by simpa using written)
    rcases List.mem_append.1 second with documentation | itself
    · obtain ⟨a, b, documents, inside, _⟩ := mem_docPlaces.1 documentation
      have := lt_of_documents documents (settles_of_takesDoc takes) less
      omega
    · split at itself
      · rw [List.mem_singleton.1 itself]
        omega
      · cases itself

/-! ### Documentation that is taken and that is not -/

/-- Documentation that is taken stands right before the line that takes it. -/
theorem infix_places (documents : L.Documents a b i) :
    List.range' a (b + 1 - a) ++ [i] <:+: L.places := by
  obtain ⟨line, found, known, takes⟩ := exists_of_hasAt documents.1
  have inside : i < L.length := (List.getElem?_eq_some_iff.1 known).1
  have has : L.hasAt Class.hasEntry i = true := by
    rw [hasAt_of_getElem? known, Class.hasEntry, takes]
    rfl
  have listed : i ∈ List.range L.length := List.mem_range.2 inside
  have part := List.infix_of_mem_flatten (List.mem_map_of_mem
    (f := fun i => L.docPlaces i ++ if L.hasAt Class.hasEntry i then [i] else []) listed)
  rwa [docPlaces_of_documents documents, if_pos has] at part

theorem notMem_places (doc : L.IsDoc a b) (none : ∀ i, ¬ L.Documents a b i) (less : a ≤ k)
    (more : k ≤ b) : k ∉ L.places := by
  intro member
  obtain ⟨i, _, member⟩ := List.mem_flatMap.1 member
  rcases List.mem_append.1 member with documentation | itself
  · obtain ⟨c, d, documents, less', more'⟩ := mem_docPlaces.1 documentation
    obtain ⟨rfl, rfl⟩ := doc.eq_of_mem documents.2.1 less more less' more'
    exact none i documents
  · split at itself
    · rename_i has
      obtain rfl := List.mem_singleton.1 itself
      obtain ⟨line, found, known, inside⟩ := exists_of_hasAt (doc.inComment less more)
      rw [hasAt_of_getElem? known] at has
      cases found with
      | blockEnd => cases has
      | blockStart closes => cases has
      | blockBody => cases has
      | _ => cases inside
    · cases itself

/-- Documentation is given up at a private member, at the end of other documentation and at the end
of the file, if no line before took it. -/
theorem not_documents (behind : b < k)
    (ends : L.hasAt (fun found => found = .privateMember) k = true ∨ (∃ c, L.IsDoc c k) ∨
      L.length ≤ k)
    (untaken : ∀ m, b < m → m < k → L.hasAt CommentState.takesDoc m = false) :
    ¬ L.Documents a b i := by
  intro documents
  obtain ⟨takes, doc, before, since⟩ := documents
  have later : k ≤ i := by
    by_contra earlier
    rw [untaken i before (by omega)] at takes
    cases takes
  rcases ends with hidden | ⟨c, other⟩ | ended
  · obtain ⟨line, found, known, hidden⟩ := exists_of_hasAt hidden
    obtain rfl : found = .privateMember := of_decide_eq_true hidden
    by_cases same : k = i
    · subst same
      rw [hasAt_of_getElem? known] at takes
      cases takes
    · have unsettled := (since k (by omega) behind).1
      rw [hasAt_of_getElem? known] at unsettled
      cases unsettled
  · by_cases same : k = i
    · subst same
      have settled := settles_of_takesDoc takes
      rw [settles_of_inComment (inComment_of_endsBlock other.2.2.1)] at settled
      cases settled
    · exact (since k (by omega) behind).2 c (by have := other.1; omega) other
  · obtain ⟨line, found, known, _⟩ := exists_of_hasAt takes
    have := (List.getElem?_eq_some_iff.1 known).1
    omega

end Classified

/-- The entries of a file, from its lines and their classes. Line by line, a blank line outside
comments has an empty entry, and an import, an ambient module or a line of code has one entry after
those of its documentation: the last documentation that ended before it, with no such line and no
private member in between. No other line has an entry. So the lines of documentation stand right
before the line that they document or nowhere; documentation is given up where a private member, the
end of other documentation or the end of the file comes first; and, blank lines apart, entries keep
the order of the file and no line comes twice. -/
theorem entries_places {σ : Type} [FileStore σ] (store : σ) (settings : Settings)
    (sources : Sources) (file : Path) (text : Text)
    (present : FileStore.isFile store file = true)
    (read : Store.readDeclarations store file = .ok text) :
    ∃ record, Record.parse store settings sources file = .ok record ∧
      let L := Classified.ofText text
      record.entries = L.places.map
        (L.entryAt store settings (Record.directory file) record.isSource) ∧
      (L.places.filter fun k => !L.hasAt (fun found => found = .blank) k).Pairwise (· < ·) ∧
      (∀ a b i, L.Documents a b i → List.range' a (b + 1 - a) ++ [i] <:+: L.places) ∧
      (∀ a b, L.IsDoc a b → (∀ i, ¬ L.Documents a b i) →
        ∀ k, a ≤ k → k ≤ b → k ∉ L.places) ∧
      (∀ a b k, L.IsDoc a b → b < k →
        (L.hasAt (fun found => found = .privateMember) k = true ∨ (∃ c, L.IsDoc c k) ∨
          L.length ≤ k) →
        (∀ m, b < m → m < k → L.hasAt CommentState.takesDoc m = false) →
        ∀ i, ¬ L.Documents a b i) := by
  have parsed : Record.parse store settings sources file =
      .ok (Record.ofText store settings sources file text) := by
    rw [Record.parse, if_pos present, read]
  refine ⟨_, parsed, ?_, Classified.pairwise_places, fun a b i => Classified.infix_places, ?_, ?_⟩
  · exact Classified.entries_readLines store settings (Record.directory file)
      (sources.contains file) text
  · intro a b doc none k less more
    exact Classified.notMem_places doc none less more
  · intro a b k _ behind ends untaken i
    exact Classified.not_documents behind ends untaken

/-! ### Documentation of four kinds -/

namespace Sample

/-- The first comment belongs to the class, although a blank line is between them. The second is
given up at a private member, the third because of the fourth, and the last at the end. -/
def documented : Text :=
  ("/** a */\n\nexport declare class A \x7b\n  /** b */\n  private x;\n" ++
    "  /** c */\n  /** d\n  * e */\n  y;\n\x7d\n/** f */").toList

end Sample

theorem entries_places_sample :
    FileStore.isFile (MemoryStore.ofFiles [(Sample.main, Sample.documented)])
        Sample.main.toPath = true ∧
      Store.readDeclarations (MemoryStore.ofFiles [(Sample.main, Sample.documented)])
        Sample.main.toPath = .ok Sample.documented ∧
      (Classified.ofText Sample.documented).places = [1, 0, 2, 6, 7, 8, 9] ∧
      ∃ record,
        Record.parse (MemoryStore.ofFiles [(Sample.main, Sample.documented)]) Sample.settings
          Sample.sources Sample.main.toPath = .ok record ∧
        record.entries = [1, 0, 2, 6, 7, 8, 9].map ((Classified.ofText Sample.documented).entryAt
          (MemoryStore.ofFiles [(Sample.main, Sample.documented)]) Sample.settings
          (Record.directory Sample.main.toPath) record.isSource) := by
  have present : FileStore.isFile (MemoryStore.ofFiles [(Sample.main, Sample.documented)])
      Sample.main.toPath = true := by decide +kernel
  have read : Store.readDeclarations (MemoryStore.ofFiles [(Sample.main, Sample.documented)])
      Sample.main.toPath = .ok Sample.documented := by decide +kernel
  have places : (Classified.ofText Sample.documented).places = [1, 0, 2, 6, 7, 8, 9] := by
    decide +kernel
  obtain ⟨record, parsed, entries, _⟩ := entries_places _ Sample.settings Sample.sources
    Sample.main.toPath Sample.documented present read
  rw [places] at entries
  exact ⟨present, read, places, record, parsed, entries⟩

end TypingBundle
