import Mathlib.Data.List.Induction
import TypingBundle.Proofs.Bundle.Agreement
import TypingBundle.Proofs.Options.Naming
import TypingBundle.Proofs.Text.Pieces

/-!
How declaration files are written. A byte-order mark, the choice of line endings and blank space at
the end make no difference to what a file is read as, and so none to a run.

Main statement: `run_eq_of_recoded`.
-/

namespace TypingBundle

/-! ### Written texts -/

namespace Text

variable {c : Char} {text blank : Text}

/-- The mark that a text may begin with to show its byte order. -/
def byteOrderMark : Char := Char.ofNat 0xFEFF

/-- A way to write a text: with or without a byte-order mark, with either line ending, and with
some blank space behind it. -/
structure Encoding where
  marked : Bool
  ending : NewLine
  trailing : Text
  isBlank_trailing : trailing.all isBlank = true

/-- The text as it is written. -/
def Encoding.write (e : Encoding) (text : Text) : Text :=
  (if e.marked then [byteOrderMark] else []) ++ replaceChar '\n' e.ending.text text ++ e.trailing

/-- A text that has neither a byte-order mark nor carriage returns of its own. -/
structure IsBare (text : Text) : Prop where
  unmarked : text.head? ≠ some byteOrderMark
  returnless : '\r' ∉ text

/-- Another form of a text: the same, or a bare text written in some way. -/
def Recodes (text other : Text) : Prop :=
  other = text ∨ text.IsBare ∧ ∃ e : Encoding, other = e.write text

theorem replaceChar_self (c : Char) (text : Text) : replaceChar c [c] text = text := by
  have each : ∀ d : Char, (if d = c then [c] else [d]) = [d] := by
    intro d
    split
    · rename_i same
      rw [same]
    · rfl
  simp only [replaceChar, each, List.flatMap_singleton']

theorem dropByteOrderMark_of_head? (unmarked : text.head? ≠ some byteOrderMark) :
    dropByteOrderMark text = text := by
  cases text with
  | nil => rfl
  | cons c text =>
    have other : c.toNat ≠ 0xFEFF := by
      intro code
      have marked : c = byteOrderMark := Char.toNat_inj.1 code
      simp [marked] at unmarked
    simp [dropByteOrderMark, other]

/-- Neither a line ending nor blank space begins with a byte-order mark. -/
theorem head?_replaceChar_append (e : Encoding) (bare : text.IsBare) :
    (replaceChar '\n' e.ending.text text ++ e.trailing).head? ≠ some byteOrderMark := by
  cases text with
  | nil =>
    intro marked
    have member : byteOrderMark ∈ e.trailing := List.mem_of_head? marked
    exact absurd (List.all_eq_true.1 e.isBlank_trailing _ member) (by decide)
  | cons c text =>
    by_cases feed : c = '\n'
    · cases ending : e.ending with
      | lineFeed => simp [replaceChar, NewLine.text, feed, byteOrderMark]
      | returnLineFeed => simp [replaceChar, NewLine.text, feed, byteOrderMark]
    · have unmarked := bare.unmarked
      simpa [replaceChar, feed] using unmarked

theorem dropByteOrderMark_write (e : Encoding) (bare : text.IsBare) :
    dropByteOrderMark (e.write text) = replaceChar '\n' e.ending.text text ++ e.trailing := by
  have plain := dropByteOrderMark_of_head? (head?_replaceChar_append e bare)
  cases marked : e.marked with
  | true => simp [Encoding.write, marked, dropByteOrderMark, byteOrderMark]
  | false => simpa [Encoding.write, marked] using plain

theorem trimEnd_append_of_blank (text : Text) (allBlank : blank.all isBlank = true) :
    trimEnd (text ++ blank) = trimEnd text := by
  have reversed : ∀ c ∈ blank.reverse, isBlank c = true := by
    intro c member
    exact List.all_eq_true.1 allBlank c (List.mem_reverse.1 member)
  rw [trimEnd, trimEnd, List.reverse_append, List.dropWhile_append_of_pos reversed]

theorem trimEnd_concat_of_not_blank (text : Text) (shown : isBlank c = false) :
    trimEnd (text ++ [c]) = text ++ [c] := by
  simp [trimEnd, shown]

/-- Line endings are blank space, so trimming does not see which ones a text has. -/
theorem trimEnd_replaceChar (ending : NewLine) (text : Text) :
    trimEnd (replaceChar '\n' ending.text text) = replaceChar '\n' ending.text (trimEnd text) := by
  induction text using List.reverseRecOn with
  | nil => rfl
  | append_singleton text c ih =>
    have parts : replaceChar '\n' ending.text (text ++ [c]) =
        replaceChar '\n' ending.text text ++ replaceChar '\n' ending.text [c] := by
      simp [replaceChar]
    cases shown : isBlank c with
    | true =>
      have last : (replaceChar '\n' ending.text [c]).all isBlank = true := by
        by_cases feed : c = '\n'
        · cases ending <;> simp [replaceChar, feed, NewLine.text] <;> decide
        · simp [replaceChar, feed, shown]
      have alone : [c].all isBlank = true := by simp [shown]
      rw [parts, trimEnd_append_of_blank _ last, ih, trimEnd_append_of_blank _ alone]
    | false =>
      have other : c ≠ '\n' := by
        rintro rfl
        cases shown
      have last : replaceChar '\n' ending.text [c] = [c] := by simp [replaceChar, other]
      rw [parts, last, trimEnd_concat_of_not_blank _ shown, trimEnd_concat_of_not_blank _ shown,
        parts, last]

/-- What a written text is read as differs from the text in its line endings only. -/
theorem trimEnd_dropByteOrderMark_write (e : Encoding) (bare : text.IsBare) :
    trimEnd (dropByteOrderMark (e.write text)) =
      replaceChar '\n' e.ending.text (trimEnd (dropByteOrderMark text)) := by
  rw [dropByteOrderMark_write e bare, dropByteOrderMark_of_head? bare.unmarked,
    trimEnd_append_of_blank _ e.isBlank_trailing, trimEnd_replaceChar]

theorem notMem_trimEnd (free : c ∉ text) : c ∉ trimEnd text := by
  intro member
  have kept := (List.dropWhile_sublist isBlank).subset (List.mem_reverse.1 member)
  exact free (List.mem_reverse.1 kept)

/-! ### Lines -/

/-- Lines with a carriage return behind each but the last, which no line ending follows. -/
def withReturns : List Text → List Text
  | [] => []
  | [line] => [line]
  | line :: next :: rest => (line ++ ['\r']) :: withReturns (next :: rest)

theorem withReturns_ne_nil {lines : List Text} (nonempty : lines ≠ []) :
    withReturns lines ≠ [] := by
  fun_cases withReturns lines with
  | case1 => exact absurd rfl nonempty
  | case2 line => simp
  | case3 line next rest => simp

theorem join_withReturns (lines : List Text) :
    join ['\n'] (withReturns lines) = join ['\r', '\n'] lines := by
  fun_induction withReturns lines with
  | case1 => rfl
  | case2 line => rfl
  | case3 line next rest ih =>
    have more : withReturns (next :: rest) ≠ [] := withReturns_ne_nil (by simp)
    rw [join_cons _ _ more, ih, join_cons _ line (List.cons_ne_nil next rest)]
    simp

theorem notMem_withReturns {lines : List Text} (other : c ≠ '\r')
    (free : ∀ line ∈ lines, c ∉ line) : ∀ line ∈ withReturns lines, c ∉ line := by
  fun_induction withReturns lines with
  | case1 => exact free
  | case2 line => exact free
  | case3 line next rest ih =>
    intro written member
    rcases List.mem_cons.1 member with rfl | later
    · have first := free line List.mem_cons_self
      simp [first, other]
    · exact ih (fun l listed => free l (List.mem_cons_of_mem _ listed)) written later

/-- The lines of a text with the longer line ending are its own, with carriage returns. -/
theorem lines_replaceChar_returns (text : Text) :
    lines (replaceChar '\n' ['\r', '\n'] text) = withReturns (lines text) := by
  have free := mark_notMem_split '\n' text
  have written : replaceChar '\n' ['\r', '\n'] text = join ['\n'] (withReturns (lines text)) := by
    rw [join_withReturns]
    conv_lhs => rw [← join_split '\n' text]
    exact replaceChar_join free
  rw [written]
  exact split_join (withReturns_ne_nil (split_ne_nil _ _)) (notMem_withReturns (by decide) free)

theorem dropReturn_concat (line : Text) : dropReturn (line ++ ['\r']) = line := by
  have dropped : dropEnd? ['\r'] (line ++ ['\r']) = some line := dropEnd?_eq_some_iff.2 rfl
  rw [dropReturn, dropped]
  rfl

theorem dropReturn_of_notMem {line : Text} (free : '\r' ∉ line) : dropReturn line = line := by
  unfold dropReturn
  cases dropped : dropEnd? ['\r'] line with
  | none => rfl
  | some rest =>
    rw [dropEnd?_eq_some_iff.1 dropped] at free
    simp at free

theorem map_dropReturn_withReturns {lines : List Text} (free : ∀ line ∈ lines, '\r' ∉ line) :
    (withReturns lines).map dropReturn = lines.map dropReturn := by
  fun_induction withReturns lines with
  | case1 => rfl
  | case2 line => rfl
  | case3 line next rest ih =>
    have first := dropReturn_of_notMem (free line List.mem_cons_self)
    have later := ih fun l listed => free l (List.mem_cons_of_mem _ listed)
    rw [List.map_cons, List.map_cons, dropReturn_concat, first, later]

end Text

/-- The lines of a text do not show which line endings it has. -/
theorem sourceLines_replaceChar (ending : NewLine) {text : Text} (returnless : '\r' ∉ text) :
    sourceLines (Text.replaceChar '\n' ending.text text) = sourceLines text := by
  cases ending with
  | lineFeed => rw [NewLine.text, Text.replaceChar_self]
  | returnLineFeed =>
    have free : ∀ line ∈ Text.lines text, '\r' ∉ line := by
      intro line listed member
      exact returnless ((Text.infix_of_mem_split listed).subset member)
    rw [sourceLines, NewLine.text, Text.lines_replaceChar_returns,
      Text.map_dropReturn_withReturns free, sourceLines]

/-! ### Indentation -/

namespace Indent

variable {line : Text}

/-- All that is looked at in a line to find the unit of indentation: whether it begins with a tab or
with a space, and with how many spaces. -/
def margin (line : Text) : Bool × Bool × Nat :=
  (isTabbed line, decide (line.head? = some ' '), width line)

/-- The unit of a text is found from the margins of its lines. -/
theorem detect?_congr {text text' : Text}
    (same : (shownLines text').map margin = (shownLines text).map margin) :
    detect? text' = detect? text := by
  have tabbed (t : Text) : (shownLines t).countP isTabbed =
      ((shownLines t).map margin).countP fun m => m.1 := by
    rw [List.countP_map]
    rfl
  have spaced (t : Text) : ((shownLines t).countP fun line => line.head? = some ' ') =
      ((shownLines t).map margin).countP fun m => m.2.1 := by
    rw [List.countP_map]
    rfl
  have widths (t : Text) : ((shownLines t).filter fun line => !isTabbed line).map width =
      (((shownLines t).map margin).filter fun m => !m.1).map fun m => m.2.2 := by
    rw [List.filter_map, List.map_map]
    rfl
  simp only [detect?, detectFrom?, steps, tabbed, spaced, widths, same]

theorem isBlankLine_concat_return (line : Text) :
    Line.isBlankLine (line ++ ['\r']) = Line.isBlankLine line := by
  have blank : Text.isBlank '\r' = true := by decide
  simp [Line.isBlankLine, blank]

theorem width_concat_return (line : Text) : width (line ++ ['\r']) = width line := by
  unfold width
  induction line with
  | nil => rfl
  | cons c line ih =>
    by_cases space : c = ' '
    · simp [space, ih]
    · simp [space]

/-- A carriage return behind a line that is not blank does not change its margin. -/
theorem margin_concat_return (shown : Line.isBlankLine line = false) :
    margin (line ++ ['\r']) = margin line := by
  have spaces := width_concat_return line
  cases line with
  | nil => cases shown
  | cons c line =>
    rw [margin, spaces]
    rfl

theorem map_margin_withReturns (lines : List Text) :
    ((Text.withReturns lines).filter fun line => !Line.isBlankLine line).map margin =
      (lines.filter fun line => !Line.isBlankLine line).map margin := by
  fun_induction Text.withReturns lines with
  | case1 => rfl
  | case2 line => rfl
  | case3 line next rest ih =>
    cases blank : Line.isBlankLine line with
    | true =>
      have still := (isBlankLine_concat_return line).trans blank
      rw [List.filter_cons_of_neg (by simp [still]), List.filter_cons_of_neg (by simp [blank]), ih]
    | false =>
      have still := (isBlankLine_concat_return line).trans blank
      rw [List.filter_cons_of_pos (by simp [still]), List.filter_cons_of_pos (by simp [blank]),
        List.map_cons, List.map_cons, margin_concat_return blank, ih]

/-- The unit of a text does not depend on its line endings. -/
theorem detect?_replaceChar (ending : NewLine) (text : Text) :
    detect? (Text.replaceChar '\n' ending.text text) = detect? text := by
  cases ending with
  | lineFeed => rw [NewLine.text, Text.replaceChar_self]
  | returnLineFeed =>
    apply detect?_congr
    rw [shownLines, NewLine.text, Text.lines_replaceChar_returns, map_margin_withReturns, shownLines]

end Indent

/-! ### Records -/

namespace Text.Recodes

variable {text other : Text}

/-- The lines of a file are classified alike in whatever form it is written. -/
theorem scan_eq (form : Recodes text other) :
    scan (trimEnd (dropByteOrderMark other)) = scan (trimEnd (dropByteOrderMark text)) := by
  rcases form with rfl | ⟨bare, e, rfl⟩
  · rfl
  · have returnless := notMem_trimEnd bare.returnless
    rw [trimEnd_dropByteOrderMark_write e bare, dropByteOrderMark_of_head? bare.unmarked, scan, scan,
      sourceLines_replaceChar e.ending returnless]

theorem detect?_eq (form : Recodes text other) :
    Indent.detect? (trimEnd (dropByteOrderMark other)) =
      Indent.detect? (trimEnd (dropByteOrderMark text)) := by
  rcases form with rfl | ⟨bare, e, rfl⟩
  · rfl
  · rw [trimEnd_dropByteOrderMark_write e bare, Indent.detect?_replaceChar]

end Text.Recodes

/-! ### Runs in memory -/

namespace Bundle

variable {store other : MemoryStore} {settings : Settings} {l : Location}

/-- Two stores with files at the same places, each text of the one being another form of the text of
the other. -/
def Recoded (store other : MemoryStore) : Prop :=
  ∀ l, Option.Rel Text.Recodes (store.textAt? l) (other.textAt? l)

namespace Recoded

theorem empty : Recoded .empty .empty := fun _ => .none

theorem insert {text text' : Text} (recoded : Recoded store other) (path : Path)
    (form : Text.Recodes text text') :
    Recoded (store.insert path text) (other.insert path text') := by
  intro l
  rw [MemoryStore.textAt?_insert, MemoryStore.textAt?_insert]
  split
  · exact .some form
  · exact recoded l

theorem isSome (recoded : Recoded store other) (l : Location) :
    (other.textAt? l).isSome = (store.textAt? l).isSome := by
  have form := recoded l
  generalize store.textAt? l = text, other.textAt? l = text' at form ⊢
  cases form with
  | none => rfl
  | some _ => rfl

theorem exists_text {text : Text} (recoded : Recoded store other)
    (found : store.textAt? l = some text) :
    ∃ text', other.textAt? l = some text' ∧ Text.Recodes text text' := by
  have form := recoded l
  rw [found] at form
  generalize other.textAt? l = text' at form ⊢
  cases form with
  | some form => exact ⟨_, rfl, form⟩

theorem isFile (recoded : Recoded store other) (path : Path) :
    FileStore.isFile other path = FileStore.isFile store path :=
  recoded.isSome path.normalize

theorem isSource (recoded : Recoded store other) (settings : Settings) (l : Location) :
    (Bundle.sources other settings).contains l = (Bundle.sources store settings).contains l := by
  rw [Bool.eq_iff_iff, contains_sources_memory, contains_sources_memory, recoded.isSome]

/-- A file parses to the same record in whatever form it is written. -/
theorem parse (recoded : Recoded store other) (settings : Settings) (l : Location) :
    Record.parse other settings (Bundle.sources other settings) l =
      Record.parse store settings (Bundle.sources store settings) l := by
  have isSource := recoded.isSource settings l
  unfold Record.parse
  rw [recoded.isFile, isSource]
  cases found : store.textAt? l with
  | none => simp [FileStore.isFile, found]
  | some text =>
    obtain ⟨text', found', form⟩ := recoded.exists_text found
    have record :
        Record.ofText other settings (Bundle.sources other settings) l
            (Text.trimEnd (Text.dropByteOrderMark text')) =
          Record.ofText store settings (Bundle.sources store settings) l
            (Text.trimEnd (Text.dropByteOrderMark text)) :=
      Record.ofText_congr form.detect?_eq form.scan_eq isSource fun _ _ m _ => recoded.isFile m
    simp [Store.readDeclarations, FileStore.read, found, found', Except.map, record]

theorem walk (recoded : Recoded store other) (settings : Settings) :
    Registry.walk other settings (Bundle.sources other settings) =
      Registry.walk store settings (Bundle.sources store settings) :=
  Registry.walk_congr (fun l _ => recoded.parse settings l) (fun l _ => recoded.isSource settings l)

/-- Stores in which files are written in different forms have the same plan, apart from the list of
sources, if they have the same header. -/
theorem plan (recoded : Recoded store other)
    (header : ∀ l, settings.header = .file l → other.textAt? l = store.textAt? l) :
    Bundle.plan other settings = (Bundle.plan store settings).map fun p =>
      { p with sources := Bundle.sources other settings } := by
  apply plan_congr
  · exact recoded.isFile _
  · unfold Bundle.header
    cases headed : settings.header with
    | file l => simp [FileStore.read, header l headed]
    | _ => rfl
  · exact recoded.walk settings

end Recoded
end Bundle

/-- The form in which files are written has no part in a run. Let each file of another store hold the
text of a store, or a text without a byte-order mark and without carriage returns in any written
form of it: with or without a byte-order mark, with either line ending, and with any blank space at
its end. Let the header be unchanged. Then the two stores have the same outcome: the same error or
the same result in all its parts. -/
theorem run_eq_of_recoded (store other : MemoryStore) (options : Options) (cwd : Path)
    (recoded : Bundle.Recoded store other)
    (header : ∀ settings l, options.resolve cwd = .ok settings → settings.header = .file l →
      other.textAt? l = store.textAt? l) :
    (Bundle.run other options cwd).2 = (Bundle.run store options cwd).2 := by
  cases resolved : options.resolve cwd with
  | error e => simp only [Bundle.run, resolved]
  | ok settings =>
    have plans := recoded.plan fun l headed => header settings l resolved headed
    rw [Bundle.run_of_resolve resolved, Bundle.run_of_resolve resolved, Bundle.runSettings_memory,
      Bundle.runSettings_memory, plans]
    cases Bundle.plan store settings with
    | error e => rfl
    | ok p => rfl

namespace Sample

/-- With a byte-order mark, with the longer line ending, and with two empty lines at the end. -/
def foreign : Text.Encoding := ⟨true, .returnLineFeed, "\r\n \t\r\n".toList, rfl⟩

def mainText : Text :=
  "import b = require('./b');\nimport e = require('e');\nimport f = require('f');".toList

def otherText : Text := "import m = require('./m');\ndeclare module 'e' \x7b".toList

/-- The sample with its main file in another form. -/
def recoded : MemoryStore := .ofFiles [(main, foreign.write mainText), (other, otherText)]

theorem recoded_store : Bundle.Recoded store recoded := by
  have bare : mainText.IsBare := ⟨by decide, by decide⟩
  have form : Text.Recodes mainText (foreign.write mainText) := Or.inr ⟨bare, foreign, rfl⟩
  exact (Bundle.Recoded.empty.insert main form).insert other (Or.inl rfl)

end Sample

theorem run_eq_of_recoded_sample :
    Bundle.Recoded Sample.store Sample.recoded ∧
      Sample.recoded.textAt? Sample.main ≠ Sample.store.textAt? Sample.main ∧
      (Bundle.run Sample.recoded Sample.options Sample.root).2 = .ok Sample.result := by
  obtain ⟨after, p, ran, _, _⟩ := Sample.course.exists_run Sample.resolve_options
  refine ⟨Sample.recoded_store, by decide +kernel, ?_⟩
  rw [run_eq_of_recoded Sample.store Sample.recoded Sample.options Sample.root Sample.recoded_store,
    ran]
  · rfl
  · intro settings l resolved headed
    obtain rfl : Sample.settings = settings := Except.ok.inj resolved
    cases headed

end TypingBundle
