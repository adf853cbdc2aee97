import TypingBundle.Proofs.Record.Parse
import TypingBundle.Proofs.Text.Pieces

/-!
What is read from a line is a part of it, and so stays on one line: the paths and names that a file
refers to, the documentation that waits while its lines are read, and the lines themselves.

Main statements: `notMem_of_mem_readings`, and `leads_of_mem_successors`, which gives the few ways
from a file to those that it names.
-/

namespace TypingBundle

/-! ### Parts of a line -/

theorem Indent.suffix_leadingUnits (unit line : Text) : (leadingUnits unit line).2 <:+ line := by
  fun_induction leadingUnits unit line with
  | case1 => exact List.suffix_rfl
  | case2 u unit line rest begins shorter count after counted ih =>
    rw [counted] at ih
    exact ih.trans (Text.suffix_of_dropStart? begins)
  | case3 => exact List.suffix_rfl

/-- A line under another unit of indentation has units and parts of itself. -/
theorem Indent.notMem_exchange {unit replacement line : Text} (plain : '\n' ∉ line)
    (plain' : '\n' ∉ replacement) : '\n' ∉ exchange unit replacement line := by
  rw [exchange, List.mem_append, not_or]
  refine ⟨Text.notMem_times plain' _, ?_⟩
  exact fun feed => plain ((suffix_leadingUnits unit line).subset feed)

namespace Line

variable {line text path : Text}

theorem infix_withSpecifier (q : QuotedSpecifier) (specifier : Text) :
    specifier <:+: q.withSpecifier specifier :=
  ⟨q.lead ++ [q.quote], q.quote :: q.trail, by simp [QuotedSpecifier.withSpecifier]⟩

theorem infix_import? {found : Import} (read : import? line = some found) :
    found.spec.specifier <:+: line := by
  have inside := infix_withSpecifier found.spec found.spec.specifier
  rwa [withSpecifier_import? read] at inside

theorem infix_moduleDeclaration? {found : QuotedSpecifier}
    (read : moduleDeclaration? line = some found) : found.specifier <:+: line := by
  have inside := infix_withSpecifier found found.specifier
  rwa [withSpecifier_moduleDeclaration? read] at inside

/-- A line around another specifier has the same parts beside it. -/
theorem notMem_withSpecifier {q : QuotedSpecifier} {specifier other : Text}
    (plain : '\n' ∉ q.withSpecifier specifier) (named : '\n' ∉ other) :
    '\n' ∉ q.withSpecifier other := by
  simp only [QuotedSpecifier.withSpecifier, List.mem_append, List.mem_cons, not_or] at plain ⊢
  exact ⟨⟨plain.1.1, plain.1.2.1, named⟩, plain.2⟩

theorem dropDeclare_subset (line : Text) : dropDeclare line ⊆ line := by
  unfold dropDeclare
  dsimp only
  split
  · rename_i rest begins
    have whole := optionalStart_append "export ".toList line
    rw [Text.dropStart?_eq_some_iff.1 begins] at whole
    intro c member
    rw [← whole]
    rcases List.mem_append.1 member with exported | later
    · exact List.mem_append_left _ exported
    · exact List.mem_append_right _ (List.mem_append_right _ later)
  · exact List.Subset.refl line

theorem dropPublic_subset (line : Text) : dropPublic line ⊆ line := by
  unfold dropPublic
  dsimp only
  split
  · rename_i rest begins
    split
    · have whole := optionalStart_append "static ".toList (unindented line)
      rw [Text.dropStart?_eq_some_iff.1 begins] at whole
      intro c member
      rw [← indentation_append_unindented line, ← whole]
      simp only [List.mem_append] at member ⊢
      rcases member with (indent | static) | later
      · exact Or.inl indent
      · exact Or.inr (Or.inl static)
      · exact Or.inr (Or.inr (Or.inr later))
    · exact List.Subset.refl line
  · exact List.Subset.refl line

theorem notMem_alignDoc (plain : '\n' ∉ line) : '\n' ∉ alignDoc line := by
  rw [← indentation_append_unindented line, List.mem_append, not_or] at plain
  unfold alignDoc
  dsimp only
  split
  · simp [plain.1, plain.2]
  · rw [← indentation_append_unindented line, List.mem_append, not_or]
    exact plain

theorem prefix_unclosedPath? {run rest : Text} (read : unclosedPath? run rest = some path) :
    path <+: run := by
  induction run generalizing path with
  | nil => cases read
  | cons c run ih =>
    rw [unclosedPath?] at read
    split at read
    · rename_i longer found
      cases read
      exact List.cons_prefix_cons.2 ⟨rfl, ih found⟩
    · split at read
      · cases read
        exact List.nil_prefix
      · cases read

theorem prefix_directivePath? (read : directivePath? text = some path) : path <+: text := by
  have run : text.takeWhile (fun c => !isQuote c) <+: text := List.takeWhile_prefix _
  unfold directivePath? at read
  dsimp only at read
  split at read
  · cases read
    exact run
  · exact (prefix_unclosedPath? read).trans run

theorem suffix_unindented (text : Text) : unindented text <:+ text := List.dropWhile_suffix _

/-- The path of a reference directive stands in its line. -/
theorem infix_reference? (read : reference? line = some path) : path <:+: line := by
  unfold reference? at read
  simp only [Option.bind_eq_bind, Option.bind_eq_some_iff] at read
  obtain ⟨slashed, slashes, referring, keyword, opened, opens, read⟩ := read
  have inside : opened <:+ line :=
    (Text.suffix_of_dropStart? opens).trans <| (suffix_unindented referring).trans <|
      (Text.suffix_of_dropStart? keyword).trans <| (suffix_unindented slashed).trans <|
      (Text.suffix_of_dropStart? slashes).trans (suffix_unindented line)
  split at read
  · rename_i quote rest
    split at read
    · have quoted : rest <:+ line := (List.suffix_cons quote rest).trans inside
      exact (prefix_directivePath? read).isInfix.trans quoted.isInfix
    · cases read
  · cases read

end Line

/-! ### Lines of a text -/

theorem notMem_sourceLines {text line : Text} (member : line ∈ sourceLines text) : '\n' ∉ line := by
  obtain ⟨piece, listed, rfl⟩ := List.mem_map.1 member
  have free : '\n' ∉ piece := Text.mark_notMem_split '\n' text piece listed
  cases ends : Text.dropEnd? ['\r'] piece with
  | none => rwa [Text.dropReturn, ends]
  | some rest =>
    rw [Text.dropEnd?_eq_some_iff.1 ends] at free
    rw [Text.dropReturn, ends]
    exact fun inside => free (List.mem_append_left _ inside)

section

variable {P : Text → Prop} {state : CommentState} {lines : List Text} {line : Text}

/-- Every line of the open comment and of the one that waits is as given. -/
structure CommentState.Holds (P : Text → Prop) (state : CommentState) : Prop where
  block : ∀ line ∈ state.block, P line
  waiting : ∀ line ∈ state.waiting, P line

namespace CommentState.Holds

theorem add (holds : state.Holds P) (new : P line) : (state.add line).Holds P where
  block other member := by
    rcases List.mem_append.1 member with before | last
    · exact holds.block other before
    · rwa [List.mem_singleton.1 last]
  waiting := holds.waiting

theorem close (holds : state.Holds P) : state.close.Holds P where
  block _ member := absurd member List.not_mem_nil
  waiting line member := by
    unfold CommentState.close at member
    dsimp only at member
    split at member
    · exact holds.block line member
    · exact holds.waiting line member

theorem discard (holds : state.Holds P) : CommentState.Holds P { state with waiting := [] } where
  block := holds.block
  waiting _ member := absurd member List.not_mem_nil

/-- A line adds to the comments nothing but itself. -/
theorem after (holds : state.Holds P) (new : P line) (found : Line.Class) :
    (state.after line found).Holds P := by
  have added := holds.add new
  cases found with
  | blockEnd => exact added.close
  | blockStart closes =>
    have opened : CommentState.Holds P { state.add line with inBlock := true } :=
      ⟨added.block, added.waiting⟩
    cases closes with
    | true => exact opened.close
    | false => exact opened
  | blockBody => exact added
  | privateMember => exact holds.discard
  | importing imported => exact holds.discard
  | moduleDeclaration declared => exact holds.discard
  | code => exact holds.discard
  | blank => exact holds
  | reference path => exact holds
  | lineComment => exact holds

end CommentState.Holds

/-- Documentation consists of earlier lines, so what holds of all lines holds of it too. -/
theorem of_mem_scanLines (holds : state.Holds P) (all : ∀ line ∈ lines, P line)
    {scanned : ScannedLine} (member : scanned ∈ scanLines state lines) :
    P scanned.line ∧ ∀ doc ∈ scanned.doc, P doc := by
  induction lines generalizing state with
  | nil => cases member
  | cons line lines ih =>
    have first := all line List.mem_cons_self
    rcases List.mem_cons.1 member with rfl | later
    · refine ⟨first, fun doc inside => ?_⟩
      dsimp only at inside
      split at inside
      · exact holds.waiting doc inside
      · cases inside
    · exact ih (holds.after first _) (fun l listed => all l (List.mem_cons_of_mem _ listed)) later

end

theorem notMem_of_mem_scan {text : Text} {scanned : ScannedLine} (member : scanned ∈ scan text) :
    '\n' ∉ scanned.line ∧ ∀ doc ∈ scanned.doc, '\n' ∉ doc := by
  have initial : CommentState.Holds (fun line => '\n' ∉ line) {} := by
    constructor <;> exact fun line none => absurd none List.not_mem_nil
  exact of_mem_scanLines initial (fun _ => notMem_sourceLines) member

/-! ### Lines of a record -/

theorem ReadLine.reference?_eq_some {r : ReadLine} {target : Location} :
    r.reference? = some target ↔ r.reading = .reference target := by
  obtain ⟨line, doc, reading⟩ := r
  cases reading <;> simp [ReadLine.reference?]

theorem ReadLine.externalImport?_eq_some {r : ReadLine} {name : Text} :
    r.externalImport? = some name ↔ r.reading = .externalImport name := by
  obtain ⟨line, doc, reading⟩ := r
  cases reading <;> simp [ReadLine.externalImport?]

namespace Record

variable {σ : Type} [FileStore σ] {store : σ} {settings : Settings} {sources : Sources}
  {file dir : Path} {record : Record} {line : Text} {reading : Reading} {target : Location}

theorem notMem_of_mem_readings (member : (line, reading) ∈ readings store settings file) :
    '\n' ∉ line := by
  unfold readings at member
  split at member
  · split at member
    · obtain ⟨r, listed, inside⟩ := List.mem_flatMap.1 member
      obtain ⟨scanned, scans, rfl⟩ := List.mem_map.1 listed
      obtain ⟨plain, docs⟩ := notMem_of_mem_scan scans
      rcases List.mem_append.1 inside with documentation | itself
      · obtain ⟨doc, waits, same⟩ := List.mem_map.1 documentation
        cases same
        exact docs line waits
      · dsimp only at itself
        split at itself
        · cases itself
        · cases itself
        · cases List.mem_singleton.1 itself
          exact plain
    · cases member
  · cases member

/-- What a line contributes comes from a class that says something true of the line, and the line is
one line. -/
theorem exists_class_of_mem_readLines {text : Text} {r : ReadLine}
    (listed : r ∈ readLines store settings dir text) :
    ∃ found : Line.Class, found.Reads r.line ∧ readLine store settings dir found = r.reading ∧
      '\n' ∉ r.line := by
  obtain ⟨scanned, scans, rfl⟩ := List.mem_map.1 listed
  exact ⟨scanned.found, reads_of_mem_scanLines scans, rfl, (notMem_of_mem_scan scans).1⟩

/-- The name of an imported module stands in a line. -/
theorem notMem_of_mem_externalImports {name : Text}
    (parsed : parse store settings sources file = .ok record)
    (member : name ∈ record.externalImports) : '\n' ∉ name := by
  rcases parse_cases parsed with ⟨_, rfl⟩ | ⟨text, _, rfl⟩
  · cases member
  rw [ofText, ofLines, List.mem_eraseDups, List.mem_filterMap] at member
  obtain ⟨r, listed, named⟩ := member
  obtain ⟨_, reads, read, plain⟩ := exists_class_of_mem_readLines listed
  rw [ReadLine.externalImport?_eq_some.1 named] at read
  obtain ⟨imported, rfl, rfl⟩ := readLine_eq_externalImport read
  exact fun feed => plain ((Line.infix_import? reads).subset feed)

/-- The paths of a file are read in the directory it stands in. -/
theorem directory_toPath (l : Location) :
    directory l =
      if l.names = [] then ⟨[]⟩ else (⟨l.rooted, l.names.dropLast⟩ : Location).toPath := by
  obtain ⟨rooted, names⟩ := l
  rcases List.eq_nil_or_concat names with rfl | ⟨before, n, rfl⟩
  · cases rooted <;> rfl
  · have parent := Location.parent?_toPath_child ⟨rooted, before⟩ n
    rw [Location.child] at parent
    simp [directory, parent]

/-- The ways from a directory to the files that are named in it: a path as it is, and a path with
the ending of declaration files or as the directory of an index. -/
inductive Leads (dir : Path) : Location → Prop where
  | reference {path : Text} : '\n' ∉ path → Leads dir (dir.locate ⟨path⟩)
  | file {path : Text} : '\n' ∉ path → Leads dir (dir.locate ⟨path⟩).addDeclarationEnding
  | index {path : Text} : '\n' ∉ path →
    Leads dir ((dir.locate ⟨path⟩).child Name.directoryIndex)

theorem leads_resolveSpecifier (store : σ) (dir : Path) {specifier : Text}
    (plain : '\n' ∉ specifier) : Leads dir (resolveSpecifier store dir specifier) := by
  unfold resolveSpecifier
  dsimp only
  split
  · exact .index plain
  · exact .file plain

theorem readLine_eq_reference {found : Line.Class}
    (read : readLine store settings dir found = .reference target) :
    ∃ path, found = .reference path ∧ target = dir.locate ⟨path⟩ := by
  cases found with
  | reference path =>
    cases read
    exact ⟨path, rfl, rfl⟩
  | importing imported =>
    rw [readLine] at read
    rcases readImport_cases store settings dir imported with ext | untyped | rel
    · rw [ext] at read
      cases read
    · rw [untyped] at read
      cases read
    · rw [rel] at read
      cases read
  | _ => cases read

/-- A file that is named is led to by a path that stands in a line. -/
theorem leads_of_mem_successors (parsed : parse store settings sources file = .ok record)
    (member : target ∈ record.successors) : Leads (directory file) target := by
  rcases parse_cases parsed with ⟨_, rfl⟩ | ⟨text, _, rfl⟩
  · cases member
  rw [successors, ofText, ofLines, List.mem_append, List.mem_eraseDups, List.mem_eraseDups,
    List.mem_filterMap, List.mem_filterMap] at member
  rcases member with ⟨r, listed, named⟩ | ⟨r, listed, named⟩
  · obtain ⟨_, reads, read, plain⟩ := exists_class_of_mem_readLines listed
    rw [ReadLine.reference?_eq_some.1 named] at read
    obtain ⟨path, rfl, rfl⟩ := readLine_eq_reference read
    exact .reference fun feed => plain ((Line.infix_reference? reads).subset feed)
  · obtain ⟨_, reads, read, plain⟩ := exists_class_of_mem_readLines listed
    obtain ⟨specifier, renamed, contributes⟩ := ReadLine.relativeImport?_eq_some.1 named
    rw [contributes] at read
    obtain ⟨imported, rfl, rfl, rfl, _⟩ := readLine_eq_relativeImport read
    exact leads_resolveSpecifier store _ fun feed =>
      plain ((Line.infix_import? reads).subset feed)

end Record
end TypingBundle
