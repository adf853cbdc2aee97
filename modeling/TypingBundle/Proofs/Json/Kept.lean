import Mathlib.Data.List.NodupEquivFin
import TypingBundle.Json.Commented

/-!
What is left of a text with comments. Each character stands in a place: in code, in a string or in a
comment. Comments go and their line feeds stay, so that what is left stands in the places and on the
lines where it stood before, however the text is broken off or its marks run together.

Main statements: `placed_dropComments` says which characters are left and where they stand,
`Text.StaysOnLines.of_sublist` says why they stay on their lines, and `plain_in_place` puts this
together for both passes.
-/

namespace TypingBundle

/-! ### Lines -/

namespace Text

variable {left text : Text}

/-- The number of the line that a position is on: how many line feeds stand before it. -/
def lineAt (text : Text) (i : Nat) : Nat := (text.take i).count '\n'

/-- What is left of a text stays on its lines: its characters are found in the text again in their
order, and wherever they are found so, each is on the line that it is on in what is left. -/
structure StaysOnLines (left text : Text) : Prop where
  found : ∃ place : Fin left.length ↪o Fin text.length, ∀ i, left[i] = text[place i]
  line_eq : ∀ place : Fin left.length ↪o Fin text.length, (∀ i, left[i] = text[place i]) →
    ∀ i : Fin left.length, lineAt left i = lineAt text (place i)

theorem sublist_of_strictMono (place : Fin left.length → Fin text.length)
    (increasing : StrictMono place) (same : ∀ i, left[i] = text[place i]) : left.Sublist text :=
  List.sublist_iff_exists_fin_orderEmbedding_get_eq.2
    ⟨OrderEmbedding.ofStrictMono place increasing, same⟩

section Places

variable (place : Fin left.length ↪o Fin text.length) (same : ∀ i, left[i] = text[place i])
  (i : Fin left.length)

include same

/-- What stands before a character is found before it. -/
theorem take_sublist_take : (left.take i).Sublist (text.take (place i)) := by
  have inside : ∀ j : Fin (left.take i).length, j.val < i.val := by
    intro j
    have bound := lt_of_lt_of_eq j.isLt List.length_take
    omega
  have before : ∀ j : Fin (left.take i).length,
      (place ⟨j, (inside j).trans i.isLt⟩).val < (text.take (place i)).length := by
    intro j
    have earlier : place ⟨j, (inside j).trans i.isLt⟩ < place i := place.lt_iff_lt.2 (inside j)
    rw [List.length_take_of_le (place i).isLt.le]
    exact earlier
  refine sublist_of_strictMono (fun j => ⟨_, before j⟩) ?_ ?_
  · intro j k later
    exact place.lt_iff_lt.2 later
  · intro j
    simpa using same ⟨j, (inside j).trans i.isLt⟩

/-- A character and what stands behind it are found from it on. -/
theorem drop_sublist_drop : (left.drop i).Sublist (text.drop (place i)) := by
  have inside : ∀ j : Fin (left.drop i).length, i.val + j.val < left.length := by
    intro j
    have bound := lt_of_lt_of_eq j.isLt List.length_drop
    omega
  have behind : ∀ j, (place i).val ≤ (place ⟨i.val + j.val, inside j⟩).val :=
    fun j => place.le_iff_le.2 (Nat.le_add_right i.val j.val)
  have within : ∀ j, (place ⟨i.val + j.val, inside j⟩).val - (place i).val <
      (text.drop (place i)).length := by
    intro j
    refine lt_of_lt_of_eq ?_ List.length_drop.symm
    exact Nat.sub_lt_sub_right (behind j) (place _).isLt
  refine sublist_of_strictMono (fun j => ⟨_, within j⟩) ?_ ?_
  · intro j k later
    have apart : place ⟨i.val + j.val, inside j⟩ < place ⟨i.val + k.val, inside k⟩ :=
      place.lt_iff_lt.2 (Nat.add_lt_add_left later i.val)
    exact Nat.sub_lt_sub_right (behind j) apart
  · intro j
    have found := same ⟨i.val + j.val, inside j⟩
    simpa [Nat.add_sub_cancel' (behind j)] using found

end Places

/-- Characters that are left stay on their lines if all line feeds are left. -/
theorem StaysOnLines.of_sublist (inside : left.Sublist text)
    (feeds : left.count '\n' = text.count '\n') : StaysOnLines left text where
  found := List.sublist_iff_exists_fin_orderEmbedding_get_eq.1 inside
  line_eq := by
    intro place same i
    have before := (take_sublist_take place same i).count_le '\n'
    have behind := (drop_sublist_drop place same i).count_le '\n'
    have parts : ∀ (whole : Text) (n : Nat),
        (whole.take n).count '\n' + (whole.drop n).count '\n' = whole.count '\n' := by
      intro whole n
      rw [← List.count_append, List.take_append_drop]
    have both := parts left i
    have both' := parts text (place i)
    unfold lineAt
    omega

end Text

/-! ### Places -/

namespace Json

/-- Whether a place is in a comment. -/
def Place.isComment : Place → Bool
  | .lineComment | .blockComment => true
  | _ => false

/-- The place where a character stands that is left of a comment. -/
def Place.uncommented : Place → Place
  | .code => .code
  | .string => .string
  | .escape => .escape
  | .lineComment => .code
  | .blockComment => .code

/-- The characters of a text, each with the place where it stands. The marks around a comment stand
in the comment, and so does the line feed that ends it. -/
def placed : Place → Text → List (Char × Place)
  | _, [] => []
  | .lineComment, c :: rest =>
    (c, .lineComment) :: placed (if c = '\n' then .code else .lineComment) rest
  | .blockComment, '*' :: '/' :: rest =>
    ('*', .blockComment) :: ('/', .blockComment) :: placed .code rest
  | .blockComment, c :: rest => (c, .blockComment) :: placed .blockComment rest
  | .escape, c :: rest => (c, .escape) :: placed .string rest
  | .string, c :: rest => (c, .string) :: placed (Place.inString c) rest
  | .code, '/' :: '/' :: rest =>
    ('/', .lineComment) :: ('/', .lineComment) :: placed .lineComment rest
  | .code, '/' :: '*' :: rest =>
    ('/', .blockComment) :: ('*', .blockComment) :: placed .blockComment rest
  | .code, c :: rest => (c, .code) :: placed (if c = '"' then .string else .code) rest

/-- Whether a character is left without the comments: outside them, or at the end of a line. -/
def isLeft (c : Char × Place) : Bool := !c.2.isComment || c.1 = '\n'

/-- A character that is left, with the place where it stands then. -/
def uncommented (c : Char × Place) : Char × Place := (c.1, c.2.uncommented)

@[simp]
theorem map_fst_placed (place : Place) (text : Text) : (placed place text).map Prod.fst = text := by
  fun_induction placed place text <;> simp_all

/-- A character stands in code, unless it is a slash that begins a comment. -/
theorem placed_code {c : Char} {text : Text}
    (apart : c = '/' → ∀ d ∈ text.head?, d ≠ '/' ∧ d ≠ '*') :
    placed .code (c :: text) = (c, .code) :: placed (if c = '"' then .string else .code) text := by
  rw [placed.eq_def]
  split <;> simp_all

theorem placed_feed (text : Text) :
    placed .code ('\n' :: text) = ('\n', .code) :: placed .code text :=
  placed_code (by simp)

/-- What begins no comment is left at the beginning. -/
theorem head?_dropComments {text : Text} (apart : ∀ d ∈ text.head?, d ≠ '/') :
    (dropComments .code text).head? = text.head? := by
  cases text with
  | nil => rfl
  | cons c rest => rw [dropComments_code_cons (apart c rfl), List.head?_cons, List.head?_cons]

theorem Place.uncommented_inString (c : Char) :
    (Place.inString c).uncommented = Place.inString c := by
  unfold Place.inString
  split
  · rfl
  · split <;> rfl

@[simp]
theorem Place.isComment_uncommented (place : Place) : place.uncommented.isComment = false := by
  cases place <;> rfl

/-- What is left without the comments are the characters outside them and all line feeds, each in
the place where it stood. -/
theorem placed_dropComments (place : Place) (text : Text) :
    placed place.uncommented (dropComments place text) =
      ((placed place text).filter isLeft).map uncommented := by
  fun_induction dropComments place text with
  | case1 => simp [placed]
  | case2 rest ih =>
    simpa [placed, placed_feed, isLeft, uncommented, Place.uncommented] using ih
  | case3 c rest other ih =>
    simpa [placed, isLeft, Place.uncommented, Place.isComment, other] using ih
  | case4 rest ih => simpa [placed, isLeft, Place.uncommented, Place.isComment] using ih
  | case5 rest goesOn ih =>
    simpa [placed, placed_feed, isLeft, uncommented, Place.uncommented] using ih
  | case6 c rest goesOn other ih =>
    have inside : placed .blockComment (c :: rest) =
        (c, .blockComment) :: placed .blockComment rest := by
      rw [placed]
      exact goesOn
    simpa [inside, isLeft, Place.uncommented, Place.isComment, other] using ih
  | case7 c rest ih =>
    simpa [placed, isLeft, uncommented, Place.uncommented, Place.isComment] using ih
  | case8 c rest ih =>
    rw [Place.uncommented_inString] at ih
    simpa [placed, isLeft, uncommented, Place.uncommented, Place.isComment] using ih
  | case9 rest ih => simpa [placed, isLeft, Place.uncommented, Place.isComment] using ih
  | case10 rest ih => simpa [placed, isLeft, Place.uncommented, Place.isComment] using ih
  | case11 c rest line block ih =>
    have apart : c = '/' → ∀ d ∈ rest.head?, d ≠ '/' ∧ d ≠ '*' := by
      intro slash d first
      obtain ⟨tail, rfl⟩ := List.head?_eq_some_iff.1 first
      constructor
      · rintro rfl
        exact line tail slash rfl
      · rintro rfl
        exact block tail slash rfl
    -- What followed a slash follows it still, because it begins no comment itself.
    have apart' : c = '/' → ∀ d ∈ (dropComments (if c = '"' then .string else .code) rest).head?,
        d ≠ '/' ∧ d ≠ '*' := by
      rintro rfl d first
      rw [if_neg (by decide), head?_dropComments fun d first => (apart rfl d first).1] at first
      exact apart rfl d first
    have after : (if c = '"' then Place.string else .code).uncommented =
        if c = '"' then .string else .code := by
      split <;> rfl
    rw [after] at ih
    simp [Place.uncommented, placed_code apart, placed_code apart', ih, isLeft, uncommented,
      Place.isComment]

/-- So exactly these characters are left. -/
theorem dropComments_eq (place : Place) (text : Text) :
    dropComments place text = ((placed place text).filter isLeft).map Prod.fst := by
  have characters := congrArg (List.map Prod.fst) (placed_dropComments place text)
  rw [map_fst_placed, List.map_map] at characters
  exact characters

/-- In what is left there are no comments. -/
theorem filter_placed_dropComments (place : Place) (text : Text) :
    (placed place.uncommented (dropComments place text)).filter isLeft =
      placed place.uncommented (dropComments place text) := by
  rw [List.filter_eq_self, placed_dropComments]
  intro c member
  obtain ⟨d, _, rfl⟩ := List.mem_map.1 member
  simp [isLeft, uncommented]

/-- Comments are dropped once and for all. -/
theorem dropComments_dropComments (place : Place) (text : Text) :
    dropComments place.uncommented (dropComments place text) = dropComments place text := by
  rw [dropComments_eq place.uncommented, filter_placed_dropComments, map_fst_placed]

-- Marks that run together, and a string that is never closed.
example : dropComments .code "/*/**//\"//*\n*/".toList = "/\"//*\n*/".toList := by decide

/-! ### Both passes -/

theorem sublist_dropComments (place : Place) (text : Text) :
    (dropComments place text).Sublist text := by
  have characters : (dropComments place text).Sublist ((placed place text).map Prod.fst) := by
    rw [dropComments_eq]
    exact List.filter_sublist.map Prod.fst
  rwa [map_fst_placed] at characters

theorem count_dropComments (place : Place) (text : Text) :
    (dropComments place text).count '\n' = text.count '\n' := by
  have feeds : ∀ c ∈ placed place text,
      (c.1 == '\n' && isLeft c) = (c.1 == '\n') := by
    intro c _
    by_cases feed : c.1 = '\n' <;> simp [isLeft, feed]
  calc (dropComments place text).count '\n'
    _ = (placed place text).countP fun c => c.1 == '\n' && isLeft c := by
      rw [dropComments_eq, List.count, List.countP_map, List.countP_filter]
      rfl
    _ = (placed place text).countP fun c => c.1 == '\n' := List.countP_congr (by simpa using feeds)
    _ = ((placed place text).map Prod.fst).count '\n' := by
      rw [List.count, List.countP_map]
      rfl
    _ = text.count '\n' := by rw [map_fst_placed]

theorem sublist_dropTrailingCommas (place : Place) (text : Text) :
    (dropTrailingCommas place text).Sublist text := by
  fun_induction dropTrailingCommas place text with
  | case1 => exact List.Sublist.slnil
  | case2 c rest ih => exact ih.cons_cons c
  | case3 c rest ih => exact ih.cons_cons c
  | case4 place c rest _ _ trailing ih => exact ih.cons c
  | case5 place c rest _ _ stays ih => exact ih.cons_cons c

/-- A comma is no line feed. -/
theorem count_dropTrailingCommas (place : Place) (text : Text) :
    (dropTrailingCommas place text).count '\n' = text.count '\n' := by
  fun_induction dropTrailingCommas place text with
  | case1 => rfl
  | case2 c rest ih => simp only [List.count_cons, ih]
  | case3 c rest ih => simp only [List.count_cons, ih]
  | case4 place c rest _ _ trailing ih => simp [ih, trailing.1]
  | case5 place c rest _ _ stays ih => simp only [List.count_cons, ih]

/-- Comments are dropped once and for all: what is left has none, and its characters are those of
the text outside comments and all line feeds, each in the place where it stood. No line feed is lost
by dropping comments, nor by dropping trailing commas then, and what is left by either stays on its
lines. -/
theorem plain_in_place (text : Text) :
    let bare := dropComments .code text
    let tidy := dropTrailingCommas .code bare
    dropComments .code bare = bare ∧
      placed .code bare = ((placed .code text).filter isLeft).map uncommented ∧
      bare.count '\n' = text.count '\n' ∧ tidy.count '\n' = text.count '\n' ∧
      bare.StaysOnLines text ∧ tidy.StaysOnLines bare ∧ tidy.StaysOnLines text := by
  intro bare tidy
  have inside : bare.Sublist text := sublist_dropComments .code text
  have inside' : tidy.Sublist bare := sublist_dropTrailingCommas .code bare
  have feeds : bare.count '\n' = text.count '\n' := count_dropComments .code text
  have feeds' : tidy.count '\n' = bare.count '\n' := count_dropTrailingCommas .code bare
  refine ⟨dropComments_dropComments .code text, placed_dropComments .code text, feeds,
    feeds'.trans feeds, .of_sublist inside feeds, .of_sublist inside' feeds', ?_⟩
  exact .of_sublist (inside'.trans inside) (feeds'.trans feeds)

end Json
end TypingBundle
