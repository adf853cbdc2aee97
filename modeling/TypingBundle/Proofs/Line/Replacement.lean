import TypingBundle.Proofs.Line.Grammar

/-!
Exchanging the specifier of a line. A line that holds no quote marks but those of its specifier can
be cut around them in one way only, so the line with another specifier is read with the same parts
beside it.

Main statement: `withSpecifier_lens`: what is read from a line is put back by `withSpecifier`, what
is put in is read again, and the last of two specifiers put in stays.
-/

namespace TypingBundle

/-- Whether a text holds neither of the two quote marks. -/
def Text.IsUnquoted (text : Text) : Prop := '\x27' ∉ text ∧ '"' ∉ text

instance (text : Text) : Decidable text.IsUnquoted := inferInstanceAs (Decidable (_ ∧ _))

namespace Line

variable {allowed allowed' : Char → Bool} {line specifier closing closing' : Text}
  {q p : QuotedSpecifier}

theorem countP_isQuote_eq_zero {text : Text} (unquoted : text.IsUnquoted) :
    text.countP isQuote = 0 := by
  rw [List.countP_eq_zero]
  intro c member quote
  rcases isQuote_iff.1 quote with rfl | rfl
  · exact unquoted.1 member
  · exact unquoted.2 member

namespace QuotedSpecifier

/-- The parts of a line with another specifier. -/
def exchange (q : QuotedSpecifier) (specifier : Text) : QuotedSpecifier :=
  { q with specifier := specifier }

/-- Whether a specifier can take the place of that of a line, without a quote mark too many. -/
structure Takes (q : QuotedSpecifier) (specifier : Text) : Prop where
  lead : q.lead.IsUnquoted
  trail : q.trail.IsUnquoted
  nonempty : specifier ≠ []
  unquoted : specifier.IsUnquoted

theorem withSpecifier_exchange (q : QuotedSpecifier) (specifier other : Text) :
    (q.exchange specifier).withSpecifier other = q.withSpecifier other := rfl

theorem countP_withSpecifier (quoted : q.quote = '\x27' ∨ q.quote = '"') (specifier : Text) :
    (q.withSpecifier specifier).countP isQuote =
      q.lead.countP isQuote + specifier.countP isQuote + q.trail.countP isQuote + 2 := by
  have quote : isQuote q.quote = true := isQuote_iff.2 quoted
  simp only [withSpecifier, List.countP_append, List.countP_cons, quote, if_true]
  omega

/-- The first quote mark of a line ends a lead without quote marks. -/
theorem takeWhile_withSpecifier (lead : q.lead.countP isQuote = 0)
    (quoted : q.quote = '\x27' ∨ q.quote = '"') (specifier : Text) :
    (q.withSpecifier specifier).takeWhile (fun c => !isQuote c) = q.lead := by
  have quote : isQuote q.quote = true := isQuote_iff.2 quoted
  have plain : ∀ c ∈ q.lead, (!isQuote c) = true := by
    intro c member
    simpa using List.countP_eq_zero.1 lead c member
  rw [withSpecifier, List.append_assoc, List.takeWhile_append_of_pos plain, List.cons_append,
    List.takeWhile_cons_of_neg (by simp [quote]), List.append_nil]

/-- A line with two quote marks in all is cut around them, whatever is asked of its parts. -/
theorem Takes.eq_exchange (takes : q.Takes specifier)
    (closed : (q.exchange specifier).IsClosed allowed closing)
    (closed' : p.IsClosed allowed' closing')
    (whole : p.withSpecifier p.specifier = q.withSpecifier specifier) :
    p = q.exchange specifier := by
  have quoted : q.quote = '\x27' ∨ q.quote = '"' := closed.quoted
  have plain : q.lead.countP isQuote = 0 := countP_isQuote_eq_zero takes.lead
  have marks : (p.withSpecifier p.specifier).countP isQuote = 2 := by
    rw [whole, countP_withSpecifier quoted, plain, countP_isQuote_eq_zero takes.trail,
      countP_isQuote_eq_zero takes.unquoted]
  have plain' : p.lead.countP isQuote = 0 := by
    rw [countP_withSpecifier closed'.quoted] at marks
    omega
  have lead : p.lead = q.lead := by
    rw [← takeWhile_withSpecifier plain' closed'.quoted p.specifier, whole,
      takeWhile_withSpecifier plain quoted]
  exact closed'.eq_of_lead closed lead whole

/-- A specifier of the characters that are asked for takes the place of another. -/
theorem IsClosed.exchange (closed : q.IsClosed allowed closing) (takes : q.Takes specifier)
    (inside : ∀ c ∈ specifier, allowed' c = true) (closes : closing' <+: q.trail) :
    (q.exchange specifier).IsClosed allowed' closing' where
  quoted := closed.quoted
  nonempty := takes.nonempty
  inside := by
    intro c member
    refine ⟨?_, inside c member⟩
    rintro rfl
    rcases closed.quoted with quote | quote
    · exact takes.unquoted.1 (quote ▸ member)
    · exact takes.unquoted.2 (quote ▸ member)
  closes := closes
  oneLine := closed.oneLine

end QuotedSpecifier

/-! ### Imports -/

namespace ImportStyle

variable {style earlier : ImportStyle}

/-- A line that splits does so with another specifier. -/
theorem Splits.exchange (splits : style.Splits line q) (takes : q.Takes specifier)
    (inside : ∀ c ∈ specifier, style.allows c = true) :
    style.Splits (q.withSpecifier specifier) (q.exchange specifier) where
  whole := by simp [QuotedSpecifier.exchange, QuotedSpecifier.withSpecifier]
  isLead := splits.isLead
  isClosed := splits.isClosed.exchange takes inside splits.isClosed.closes

/-- There is no other way to cut the new line. -/
theorem Splits.eq_exchange (splits : style.Splits line q) (takes : q.Takes specifier)
    (inside : ∀ c ∈ specifier, style.allows c = true)
    (again : earlier.Splits (q.withSpecifier specifier) p) : p = q.exchange specifier :=
  takes.eq_exchange (splits.exchange takes inside).isClosed again.isClosed again.withSpecifier

/-- A line that splits in another style with a new specifier does so with its own, if that style
allows it. -/
theorem Splits.of_exchange (splits : style.Splits line q)
    (allows : ∀ c ∈ q.specifier, earlier.allows c = true)
    (again : earlier.Splits (q.withSpecifier specifier) (q.exchange specifier)) :
    earlier.Splits line q where
  whole := splits.whole
  isLead := again.isLead
  isClosed := ⟨splits.isClosed.quoted, splits.isClosed.nonempty,
    fun c member => ⟨(splits.isClosed.inside c member).1, allows c member⟩,
    again.isClosed.closes, again.isClosed.oneLine⟩

/-- Styles that are looked for earlier do not ask for more of a specifier. -/
theorem allows_of_mem_earlier {c : Char} (member : earlier ∈ style.earlier)
    (allowed : style.allows c = true) : earlier.allows c = true := by
  cases style with
  | require => cases member
  | esModule =>
    obtain rfl := List.mem_singleton.1 member
    rfl
  | sideEffect =>
    rcases List.mem_cons.1 member with rfl | member
    · rfl
    · obtain rfl := List.mem_singleton.1 member
      exact allowed

theorem allows_of_plain (plain : style ≠ require → ' ' ∉ specifier ∧ ',' ∉ specifier) {c : Char}
    (member : c ∈ specifier) : style.allows c = true := by
  have clause : style ≠ require → isClauseChar c = true := by
    intro other
    obtain ⟨space, comma⟩ := plain other
    simp only [isClauseChar, ne_eq, decide_not, Bool.and_eq_true, Bool.not_eq_eq_eq_not,
      Bool.not_true, decide_eq_false_iff_not]
    exact ⟨fun same => space (same ▸ member), fun same => comma (same ▸ member)⟩
  cases style with
  | require => rfl
  | esModule => exact clause (by simp)
  | sideEffect => exact clause (by simp)

end ImportStyle

/-- The line with another specifier is an import of the same style with the same parts. -/
theorem import?_withSpecifier {found : Import} (read : import? line = some found)
    (takes : found.spec.Takes specifier)
    (plain : found.style ≠ .require → ' ' ∉ specifier ∧ ',' ∉ specifier) :
    Line.import? (found.spec.withSpecifier specifier) =
      some ⟨found.style, found.spec.exchange specifier⟩ := by
  obtain ⟨unsplit, splits, _⟩ := import?_eq_some_iff.1 read
  have inside : ∀ c ∈ specifier, found.style.allows c = true :=
    fun c => ImportStyle.allows_of_plain plain
  refine import?_eq_some_iff.2 ⟨?_, splits.exchange takes inside, ?_⟩
  · intro style earlier p again
    obtain rfl := splits.eq_exchange takes inside again
    refine unsplit style earlier found.spec (splits.of_exchange ?_ again)
    intro c member
    exact ImportStyle.allows_of_mem_earlier earlier (splits.isClosed.inside c member).2
  · intro p again
    rw [splits.eq_exchange takes inside again]

/-! ### Declarations of ambient modules -/

theorem moduleDeclaration?_eq_some_iff :
    moduleDeclaration? line = some q ↔
      q.withSpecifier q.specifier = line ∧
        (∃ blanks, (∀ c ∈ blanks, isIndent c = true) ∧
          q.lead = blanks ++ "declare module ".toList) ∧
          q.IsClosed (fun _ => true) [] := by
  constructor
  · intro read
    refine ⟨withSpecifier_moduleDeclaration? read, ⟨indentation line,
      fun _ => isIndent_of_mem_indentation, lead_moduleDeclaration? read⟩, ?_⟩
    simp only [moduleDeclaration?, Option.bind_eq_bind, Option.bind_eq_some_iff] at read
    obtain ⟨rest, begins, read⟩ := read
    exact (closedSpecifier?_eq_some_iff.1 (Option.bind_eq_some_iff.2 read)).2.2
  · rintro ⟨whole, ⟨blanks, indented, lead⟩, closed⟩
    have margin : indentation line = blanks ∧ unindented line = "declare module ".toList ++
        (q.quote :: q.specifier ++ q.quote :: q.trail) := by
      rw [← whole, QuotedSpecifier.withSpecifier, lead, List.append_assoc, List.append_assoc]
      exact indentation_eq indented (by simp [isIndent])
    simp only [moduleDeclaration?, margin, Text.dropStart?_append, Option.bind_eq_bind,
      Option.bind_some]
    exact closedSpecifier?_eq_some_iff.2 ⟨lead, rfl, closed⟩

theorem moduleDeclaration?_withSpecifier (read : moduleDeclaration? line = some q)
    (takes : q.Takes specifier) :
    moduleDeclaration? (q.withSpecifier specifier) = some (q.exchange specifier) := by
  obtain ⟨whole, lead, closed⟩ := moduleDeclaration?_eq_some_iff.1 read
  exact moduleDeclaration?_eq_some_iff.2
    ⟨rfl, lead, closed.exchange takes (fun _ _ => rfl) closed.closes⟩

/-! ### The two kinds of lines -/

/-- The specifier of a line is what can be read from it and put into it: what was read is put back
without a change, and what is put in is read again with everything beside it as it was, so that of
two specifiers put in one after the other the last stays. -/
theorem withSpecifier_lens (line : Text) :
    (∀ found : Import, import? line = some found →
      found.spec.withSpecifier found.spec.specifier = line ∧
        ∀ specifier, found.spec.Takes specifier →
          (found.style ≠ .require → ' ' ∉ specifier ∧ ',' ∉ specifier) →
            Line.import? (found.spec.withSpecifier specifier) =
                some ⟨found.style, { found.spec with specifier := specifier }⟩ ∧
              ∀ other, (import? (found.spec.withSpecifier specifier)).map
                (fun again => again.spec.withSpecifier other) =
                  some (found.spec.withSpecifier other)) ∧
      ∀ found : QuotedSpecifier, moduleDeclaration? line = some found →
        found.withSpecifier found.specifier = line ∧
          ∀ specifier, found.Takes specifier →
            moduleDeclaration? (found.withSpecifier specifier) =
                some { found with specifier := specifier } ∧
              ∀ other, (moduleDeclaration? (found.withSpecifier specifier)).map
                (fun again => again.withSpecifier other) = some (found.withSpecifier other) := by
  constructor
  · intro found read
    refine ⟨withSpecifier_import? read, fun specifier takes plain => ?_⟩
    have again := import?_withSpecifier read takes plain
    refine ⟨again, fun other => ?_⟩
    rw [again, Option.map_some, QuotedSpecifier.withSpecifier_exchange]
  · intro found read
    refine ⟨withSpecifier_moduleDeclaration? read, fun specifier takes => ?_⟩
    have again := moduleDeclaration?_withSpecifier read takes
    refine ⟨again, fun other => ?_⟩
    rw [again, Option.map_some, QuotedSpecifier.withSpecifier_exchange]

namespace Sample

def importLine : Text := "\timport * as b from \"./b\"; // b".toList

def importing : Import :=
  ⟨.esModule, "\timport * as b from ".toList, '"', "./b".toList, "; // b".toList⟩

def declarationLine : Text := "declare module 'b' \x7b".toList

def declaring : QuotedSpecifier := ⟨"declare module ".toList, '\x27', ['b'], " \x7b".toList⟩

end Sample

theorem withSpecifier_lens_sample :
    (import? Sample.importLine = some Sample.importing ∧
      Sample.importing.spec.Takes "__l/b".toList ∧
      (import? "\timport * as b from \"__l/b\"; // b".toList).map (·.spec.withSpecifier ['c']) =
        some "\timport * as b from \"c\"; // b".toList) ∧
      moduleDeclaration? Sample.declarationLine = some Sample.declaring ∧
      Sample.declaring.Takes "a from b, c".toList ∧
      moduleDeclaration? "declare module 'a from b, c' \x7b".toList =
        some { Sample.declaring with specifier := "a from b, c".toList } := by
  have read : import? Sample.importLine = some Sample.importing := by decide
  have takes : Sample.importing.spec.Takes "__l/b".toList :=
    ⟨by decide, by decide, by decide, by decide⟩
  have read' : moduleDeclaration? Sample.declarationLine = some Sample.declaring := by decide
  have takes' : Sample.declaring.Takes "a from b, c".toList :=
    ⟨by decide, by decide, by decide, by decide⟩
  refine ⟨⟨read, takes, ?_⟩, read', takes', ?_⟩
  · exact (((withSpecifier_lens _).1 _ read).2 _ takes (by decide)).2 ['c']
  · exact (((withSpecifier_lens _).2 _ read').2 _ takes').1

end Line
end TypingBundle
