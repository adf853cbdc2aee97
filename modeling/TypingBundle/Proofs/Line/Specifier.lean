import TypingBundle.Line.Class

/-!
Lines around a quoted specifier. What is found in a line are its own parts: put together again they
are the line, and only what stands between the quotes is exchanged when the specifier is.

Main statements: `withSpecifier_import?` and `withSpecifier_moduleDeclaration?` for the two kinds of
lines, and `dropDeclare_withSpecifier`.
-/

namespace TypingBundle.Line

variable {allowed : Char → Bool} {lead line text closing : Text} {q found : QuotedSpecifier}

/-! ### Parts of a text -/

theorem indentation_append_unindented (text : Text) : indentation text ++ unindented text = text :=
  List.takeWhile_append_dropWhile

theorem optionalStart_append (word text : Text) :
    (optionalStart word text).1 ++ (optionalStart word text).2 = text := by
  unfold optionalStart
  split
  · rename_i rest begins
    exact (Text.dropStart?_eq_some_iff.1 begins).symm
  · rfl

/-- A quoted specifier is read from the beginning of a text, and the lead is the one given. -/
theorem quotedSpecifier?_eq_some (read : quotedSpecifier? allowed lead text = some q) :
    q.lead = lead ∧ text = q.quote :: q.specifier ++ q.quote :: q.trail := by
  unfold quotedSpecifier? at read
  split at read
  · cases read
  · rename_i quote rest
    dsimp only at read
    split at read
    · cases read
    · rename_i c trail stops
      split at read
      · rename_i closes
        simp only [Bool.and_eq_true, decide_eq_true_eq] at closes
        cases read
        refine ⟨rfl, ?_⟩
        have whole : rest.takeWhile (fun c => c ≠ quote && allowed c) ++ c :: trail = rest := by
          rw [← stops]
          exact List.takeWhile_append_dropWhile
        rw [closes.1.2] at whole
        rw [List.cons_append, whole]
      · cases read

theorem withSpecifier_quotedSpecifier? (read : quotedSpecifier? allowed lead text = some q) :
    q.withSpecifier q.specifier = lead ++ text := by
  obtain ⟨start, rest⟩ := quotedSpecifier?_eq_some read
  rw [QuotedSpecifier.withSpecifier, start, rest]
  simp

theorem followedBy_eq_some (read : followedBy closing q = some found) : found = q := by
  unfold followedBy at read
  split at read
  · cases read
    rfl
  · cases read

/-- The search for a cut cuts the text in two. -/
theorem firstCut?_eq_some {α : Type} {attempt : Option Char → Text → Option α} {passed front : Text}
    {result : α} (cut : firstCut? attempt passed text = some (front, result)) :
    ∃ before rest, passed.reverse ++ text = front ++ rest ∧ attempt before rest = some result := by
  induction text generalizing passed with
  | nil =>
    simp only [firstCut?, Option.map_eq_some_iff, Prod.mk.injEq] at cut
    obtain ⟨_, attempted, rfl, rfl⟩ := cut
    exact ⟨_, [], rfl, attempted⟩
  | cons c text ih =>
    simp only [firstCut?] at cut
    split at cut
    · rename_i attempted
      cases cut
      exact ⟨_, c :: text, rfl, attempted⟩
    · split at cut
      · cases cut
      · obtain ⟨before, rest, whole, attempted⟩ := ih cut
        refine ⟨before, rest, ?_, attempted⟩
        rw [← whole]
        simp

theorem withSpecifier_after (q : QuotedSpecifier) (text specifier : Text) :
    (q.after text).withSpecifier specifier = text ++ q.withSpecifier specifier := by
  simp [QuotedSpecifier.after, QuotedSpecifier.withSpecifier]

/-! ### Imports -/

theorem withSpecifier_requireAt? {before : Option Char} (read : requireAt? before text = some q) :
    q.withSpecifier q.specifier = text := by
  unfold requireAt? at read
  simp only [Option.bind_eq_bind, Option.bind_eq_some_iff] at read
  obtain ⟨rest, begins, inner, quoted, read⟩ := read
  split at read
  · cases read
  · rw [followedBy_eq_some read, withSpecifier_quotedSpecifier? quoted,
      Text.dropStart?_eq_some_iff.1 begins]

theorem withSpecifier_requireImport? (read : requireImport? line = some q) :
    q.withSpecifier q.specifier = line := by
  unfold requireImport? at read
  simp only [Option.bind_eq_bind, Option.bind_eq_some_iff, Option.some.injEq] at read
  obtain ⟨rest, begins, ⟨target, inner⟩, cut, rfl⟩ := read
  obtain ⟨before, tail, whole, attempted⟩ := firstCut?_eq_some cut
  have exported := optionalStart_append "export ".toList (unindented line)
  calc (inner.after (indentation line ++ (optionalStart "export ".toList (unindented line)).1 ++
          "import ".toList ++ target)).withSpecifier inner.specifier
      = indentation line ++ ((optionalStart "export ".toList (unindented line)).1 ++
          ("import ".toList ++ (target ++ tail))) := by
        rw [withSpecifier_after, withSpecifier_requireAt? attempted]
        simp
    _ = indentation line ++ unindented line := by
        rw [← whole, List.reverse_nil, List.nil_append, ← Text.dropStart?_eq_some_iff.1 begins,
          exported]
    _ = line := indentation_append_unindented line

theorem withSpecifier_clauseAt? {before : Option Char} (read : clauseAt? before text = some q) :
    q.withSpecifier q.specifier = text := by
  unfold clauseAt? at read
  simp only [Option.bind_eq_bind, Option.bind_eq_some_iff] at read
  obtain ⟨rest, begins, inner, quoted, read⟩ := read
  split at read
  · cases read
  · rw [followedBy_eq_some read, withSpecifier_quotedSpecifier? quoted, List.append_assoc,
      optionalStart_append, ← Text.dropStart?_eq_some_iff.1 begins]

theorem clauseKeyword?_eq_some {keyword rest : Text}
    (read : clauseKeyword? text = some (keyword, rest)) : text = keyword ++ rest := by
  have one : ∀ word, ((Text.dropStart? word text).bind fun rest =>
      if (rest.head?.map Text.isWord).getD false then none else some (word, rest)) =
        some (keyword, rest) → text = keyword ++ rest := by
    intro word found
    obtain ⟨tail, begins, found⟩ := Option.bind_eq_some_iff.1 found
    split at found
    · cases found
    · cases found
      exact Text.dropStart?_eq_some_iff.1 begins
  unfold clauseKeyword? at read
  simp only [Option.orElse_eq_or, Option.or_eq_some_iff] at read
  rcases read with read | ⟨_, read⟩
  · exact one _ read
  · exact one _ read

theorem withSpecifier_clauseImport? (read : clauseImport? line = some q) :
    q.withSpecifier q.specifier = line := by
  unfold clauseImport? at read
  simp only [Option.bind_eq_bind, Option.bind_eq_some_iff, Option.some.injEq] at read
  obtain ⟨⟨keyword, rest⟩, begins, ⟨names, inner⟩, cut, rfl⟩ := read
  obtain ⟨before, tail, whole, attempted⟩ := firstCut?_eq_some cut
  calc (inner.after (indentation line ++ keyword ++ names)).withSpecifier inner.specifier
      = indentation line ++ (keyword ++ (names ++ tail)) := by
        rw [withSpecifier_after, withSpecifier_clauseAt? attempted]
        simp
    _ = indentation line ++ unindented line := by
        rw [← whole, List.reverse_nil, List.nil_append, ← clauseKeyword?_eq_some begins]
    _ = line := indentation_append_unindented line

theorem withSpecifier_sideEffectImport? (read : sideEffectImport? line = some q) :
    q.withSpecifier q.specifier = line := by
  unfold sideEffectImport? at read
  simp only [Option.bind_eq_bind, Option.bind_eq_some_iff] at read
  obtain ⟨rest, begins, inner, quoted, read⟩ := read
  rw [followedBy_eq_some read, withSpecifier_quotedSpecifier? quoted, List.append_assoc,
    optionalStart_append, List.append_assoc, ← Text.dropStart?_eq_some_iff.1 begins,
    indentation_append_unindented]

/-- An import line is made of the parts that are found in it. -/
theorem withSpecifier_import? {found : Import} (read : import? line = some found) :
    found.spec.withSpecifier found.spec.specifier = line := by
  unfold import? at read
  split at read
  · rename_i spec required
    cases read
    exact withSpecifier_requireImport? required
  · unfold esImport? at read
    split at read
    · rename_i spec clause
      cases read
      exact withSpecifier_clauseImport? clause
    · obtain ⟨spec, effect, rfl⟩ := Option.map_eq_some_iff.1 read
      exact withSpecifier_sideEffectImport? effect

/-! ### Declarations of ambient modules -/

theorem lead_moduleDeclaration? (read : moduleDeclaration? line = some q) :
    q.lead = indentation line ++ "declare module ".toList := by
  unfold moduleDeclaration? at read
  simp only [Option.bind_eq_bind, Option.bind_eq_some_iff] at read
  obtain ⟨rest, begins, inner, quoted, read⟩ := read
  rw [followedBy_eq_some read]
  exact (quotedSpecifier?_eq_some quoted).1

/-- A declaration line is made of the parts that are found in it. -/
theorem withSpecifier_moduleDeclaration? (read : moduleDeclaration? line = some q) :
    q.withSpecifier q.specifier = line := by
  unfold moduleDeclaration? at read
  simp only [Option.bind_eq_bind, Option.bind_eq_some_iff] at read
  obtain ⟨rest, begins, inner, quoted, read⟩ := read
  rw [followedBy_eq_some read, withSpecifier_quotedSpecifier? quoted, List.append_assoc,
    ← Text.dropStart?_eq_some_iff.1 begins, indentation_append_unindented]

/-- A line that declares a module imports nothing: the two begin with different words. -/
theorem import?_of_moduleDeclaration?
    (read : moduleDeclaration? line = some q) : import? line = none := by
  unfold moduleDeclaration? at read
  simp only [Option.bind_eq_bind, Option.bind_eq_some_iff] at read
  obtain ⟨rest, begins, _⟩ := read
  have written := Text.dropStart?_eq_some_iff.1 begins
  have other : ∀ (c : Char) (word : Text), c ≠ 'd' →
      Text.dropStart? (c :: word) (unindented line) = none := by
    intro c word different
    rw [written]
    exact if_neg different
  have exported : Text.dropStart? "export ".toList (unindented line) = none :=
    other 'e' "xport ".toList (by decide)
  have exporting : Text.dropStart? "export".toList (unindented line) = none :=
    other 'e' "xport".toList (by decide)
  have imported : Text.dropStart? "import ".toList (unindented line) = none :=
    other 'i' "mport ".toList (by decide)
  have importing : Text.dropStart? "import".toList (unindented line) = none :=
    other 'i' "mport".toList (by decide)
  simp only [import?, requireImport?, optionalStart, exported, imported, esImport?, clauseImport?,
    clauseKeyword?, exporting, importing, sideEffectImport?, Option.bind_eq_bind, Option.bind_none,
    Option.map_none, Option.orElse_none]

/-- What is found in a line, without a `declare` at the very beginning of the line. -/
def QuotedSpecifier.undeclared (q : QuotedSpecifier) : QuotedSpecifier :=
  { q with lead := dropDeclare q.lead }

theorem dropDeclare_of_indented {c : Char} (indent : isIndent c = true) (text : Text) :
    dropDeclare (c :: text) = c :: text := by
  have other : 'e' ≠ c ∧ 'd' ≠ c := by
    constructor
    · rintro rfl
      cases indent
    · rintro rfl
      cases indent
  simp [dropDeclare, optionalStart, Text.dropStart?, other]

theorem dropDeclare_declare (text : Text) : dropDeclare ("declare ".toList ++ text) = text := by
  have plain : optionalStart "export ".toList ("declare ".toList ++ text) =
      ([], "declare ".toList ++ text) := by
    simp [optionalStart, Text.dropStart?]
  rw [dropDeclare, plain]
  simp only [Text.dropStart?_append, List.nil_append]

/-- A declaration line loses its `declare`, if it does, from the text before its specifier, whatever
the specifier is. -/
theorem dropDeclare_withSpecifier (read : moduleDeclaration? line = some q) (specifier : Text) :
    dropDeclare (q.withSpecifier specifier) = q.undeclared.withSpecifier specifier := by
  have lead := lead_moduleDeclaration? read
  cases indented : indentation line with
  | nil =>
    have start : q.lead = "declare ".toList ++ "module ".toList := by
      rw [lead, indented]
      rfl
    rw [QuotedSpecifier.undeclared, QuotedSpecifier.withSpecifier, QuotedSpecifier.withSpecifier,
      start, dropDeclare_declare, List.append_assoc, List.append_assoc, dropDeclare_declare,
      List.append_assoc]
  | cons c rest =>
    have indent : isIndent c = true := by
      have member : c ∈ indentation line := by
        rw [indented]
        exact List.mem_cons_self
      exact List.all_eq_true.1 List.all_takeWhile c member
    have start : q.lead = c :: (rest ++ "declare module ".toList) := by
      rw [lead, indented, List.cons_append]
    rw [QuotedSpecifier.undeclared, QuotedSpecifier.withSpecifier, QuotedSpecifier.withSpecifier,
      start, dropDeclare_of_indented indent, List.append_assoc, List.cons_append,
      dropDeclare_of_indented indent]

/-! ### Classes -/

/-- What the class of a line says of the line: where the class holds something, the line reads so. -/
def Class.Reads (line : Text) : Class → Prop
  | reference path => reference? line = some path
  | importing found => import? line = some found
  | moduleDeclaration found => moduleDeclaration? line = some found
  | _ => True

theorem reads_classifyCode (line : Text) : (classifyCode line).Reads line := by
  unfold classifyCode
  split
  · trivial
  split
  · rename_i path referred
    exact referred
  split
  · trivial
  split
  · trivial
  split
  · rename_i found imported
    exact imported
  split
  · rename_i found declared
    exact declared
  · trivial

/-- A line inside a block comment is not looked at any further. -/
theorem reads_classify (line : Text) (inBlock : Bool) : (classify line inBlock).Reads line := by
  unfold classify
  split
  · trivial
  split
  · trivial
  split
  · trivial
  · exact reads_classifyCode line

end TypingBundle.Line
