import Mathlib.Data.List.Find
import TypingBundle.OptionFile
import TypingBundle.Proofs.Json.Members

/-!
What option files are accepted and what they give. The check of texts goes through a table of keys,
and the members are read by the options themselves; both know the same keys, so that a member that
passed the check is always read.

Main statement: `parse_exact`: which files are refused and in which words, and that the others give
for each option what is written under its key.
-/

namespace TypingBundle.OptionFile

open Json (member?)

variable {members : Members} {file : OptionFile} {source : Text}

/-! ### Options one by one -/

/-- What a file has for an option. -/
def TextOption.get (file : OptionFile) : TextOption → Option Text
  | main => file.main.map Path.text
  | name => file.name
  | baseDir => file.baseDir.map Path.text
  | out => file.out
  | newline => file.newline
  | indent => file.indent
  | namePrefix => file.namePrefix
  | separator => file.separator
  | exclude => file.exclude
  | headerPath => file.headerPath.map Path.text
  | headerText => file.headerText

/-- What a file has for an option. -/
def FlagOption.get (file : OptionFile) : FlagOption → Option Bool
  | externals => file.externals
  | referenceExternals => file.referenceExternals
  | removeSource => file.removeSource
  | verbose => file.verbose
  | emitIfIncludedMissing => file.emitIfIncludedMissing
  | emitIfOtherMissing => file.emitIfOtherMissing

theorem TextOption.get_set (o p : TextOption) (text : Option Text) (file : OptionFile) :
    o.get (p.set text file) = if o = p then text else o.get file := by
  cases p <;> cases o <;> simp [TextOption.get, TextOption.set, Function.comp_def]

theorem FlagOption.get_set (o p : FlagOption) (flag : Option Bool) (file : OptionFile) :
    o.get (p.set flag file) = if o = p then flag else o.get file := by
  cases p <;> cases o <;> rfl

theorem TextOption.get_setFlag (o : TextOption) (p : FlagOption) (flag : Option Bool)
    (file : OptionFile) : o.get (p.set flag file) = o.get file := by
  cases p <;> cases o <;> rfl

theorem FlagOption.get_setText (o : FlagOption) (p : TextOption) (text : Option Text)
    (file : OptionFile) : o.get (p.set text file) = o.get file := by
  cases p <;> cases o <;> rfl

/-- The options are all that a file has. -/
theorem eq_of_get {other : OptionFile} (texts : ∀ o : TextOption, o.get file = o.get other)
    (flags : ∀ o : FlagOption, o.get file = o.get other) : file = other := by
  have paths : ∀ {p q : Option Path}, p.map Path.text = q.map Path.text → p = q := by
    intro p q same
    exact Option.map_injective (fun a b text => by cases a; cases b; cases text; rfl) same
  obtain ⟨main, name, baseDir, out, newline, indent, namePrefix, separator, exclude, externals,
    referenceExternals, removeSource, verbose, included, others, headerPath, headerText⟩ := file
  obtain ⟨main', name', baseDir', out', newline', indent', namePrefix', separator', exclude',
    externals', referenceExternals', removeSource', verbose', included', others', headerPath',
    headerText'⟩ := other
  rw [mk.injEq]
  exact ⟨paths (texts .main), texts .name, paths (texts .baseDir), texts .out, texts .newline,
    texts .indent, texts .namePrefix, texts .separator, texts .exclude, flags .externals,
    flags .referenceExternals, flags .removeSource, flags .verbose, flags .emitIfIncludedMissing,
    flags .emitIfOtherMissing, paths (texts .headerPath), texts .headerText⟩

/-! ### Keys -/

/-- The check of texts knows the keys of all texts, and no others. -/
theorem mem_textKeys {key : String} : key ∈ textKeys ↔ ∃ o : TextOption, o.key = key := by
  constructor
  · intro member
    have known : textKeys = TextOption.all.map TextOption.key := by decide
    rw [known] at member
    obtain ⟨o, -, written⟩ := List.mem_map.1 member
    exact ⟨o, written⟩
  · rintro ⟨o, rfl⟩
    cases o <;> decide

theorem TextOption.find?_key (o : TextOption) :
    TextOption.all.find? (fun p => p.key.toList = o.key.toList) = some o := by
  cases o <;> decide

theorem FlagOption.find?_key (o : FlagOption) :
    TextOption.all.find? (fun p => p.key.toList = o.key.toList) = none ∧
      FlagOption.all.find? (fun p => p.key.toList = o.key.toList) = some o := by
  cases o <;> decide

theorem TextOption.key_inj {o p : TextOption} : o.key.toList = p.key.toList ↔ o = p := by
  refine ⟨fun same => ?_, fun same => same ▸ rfl⟩
  have found := o.find?_key
  rw [same, p.find?_key] at found
  exact (Option.some.inj found).symm

theorem FlagOption.key_inj {o p : FlagOption} : o.key.toList = p.key.toList ↔ o = p := by
  refine ⟨fun same => ?_, fun same => same ▸ rfl⟩
  have found := o.find?_key.2
  rw [same, p.find?_key.2] at found
  exact (Option.some.inj found).symm

theorem TextOption.key_ne (o : TextOption) (p : FlagOption) : o.key.toList ≠ p.key.toList := by
  intro same
  have found := o.find?_key
  rw [same, p.find?_key.1] at found
  cases found

/-- A key is that of a text, that of a flag, or that of no option. -/
theorem key_cases (key : Text) :
    (∃ o : TextOption, key = o.key.toList) ∨ (∃ o : FlagOption, key = o.key.toList) ∨
      (∀ o : TextOption, key ≠ o.key.toList) ∧ ∀ o : FlagOption, key ≠ o.key.toList := by
  by_cases text : ∃ o : TextOption, key = o.key.toList
  · exact .inl text
  · by_cases flag : ∃ o : FlagOption, key = o.key.toList
    · exact .inr (.inl flag)
    · exact .inr (.inr ⟨not_exists.1 text, not_exists.1 flag⟩)

theorem readMember_text (file : OptionFile) (o : TextOption) (value : Json.Value) :
    readMember file (o.key.toList, value) = readText file o value := by
  simp only [readMember, o.find?_key]

theorem readMember_flag (file : OptionFile) (o : FlagOption) (value : Json.Value) :
    readMember file (o.key.toList, value) = readFlag file o value := by
  simp only [readMember, o.find?_key]

theorem readMember_other {key : Text} (text : ∀ o : TextOption, key ≠ o.key.toList)
    (flag : ∀ o : FlagOption, key ≠ o.key.toList) (file : OptionFile) (value : Json.Value) :
    readMember file (key, value) = .ok file := by
  have none : TextOption.all.find? (fun o => o.key.toList = key) = .none :=
    List.find?_eq_none.2 fun o _ => by simpa using Ne.symm (text o)
  have none' : FlagOption.all.find? (fun o => o.key.toList = key) = .none :=
    List.find?_eq_none.2 fun o _ => by simpa using Ne.symm (flag o)
  simp only [readMember, none, none']

/-! ### Values -/

/-- The words for yes and those for no. -/
def words : Bool → List String
  | true => ["true", "1", "yes", "on"]
  | false => ["false", "0", "no", "off"]

/-- Whether a value says yes or says no: as such, or by a word without regard to case and to blank
space around it. -/
inductive Says : Json.Value → Bool → Prop where
  | bool (b : Bool) : Says (.bool b) b
  | word {text : Text} {b : Bool}
      (known : String.ofList (Text.lowerAscii (Text.trim text)) ∈ words b) : Says (.string text) b

theorem flagOfWord?_eq_some_iff {word : Text} {b : Bool} :
    flagOfWord? word = some b ↔ String.ofList (Text.lowerAscii (Text.trim word)) ∈ words b := by
  unfold flagOfWord?
  generalize String.ofList (Text.lowerAscii (Text.trim word)) = plain
  split <;> cases b <;> simp_all [words]

theorem flagOf_eq_ok_none_iff {value : Json.Value} : flagOf value = .ok none ↔ value = .null := by
  cases value with
  | string word => cases found : flagOfWord? word <;> simp [flagOf, found]
  | _ => simp [flagOf]

theorem flagOf_eq_ok_some_iff {value : Json.Value} {b : Bool} :
    flagOf value = .ok (some b) ↔ Says value b := by
  constructor
  · intro said
    cases value with
    | bool other =>
      cases said
      exact .bool b
    | string word =>
      cases found : flagOfWord? word with
      | none => simp [flagOf, found] at said
      | some other =>
        simp only [flagOf, found, Except.ok.injEq, Option.some.injEq] at said
        exact .word (flagOfWord?_eq_some_iff.1 (said ▸ found))
    | _ => cases said
  · rintro (_ | known)
    · rfl
    · simp [flagOf, flagOfWord?_eq_some_iff.2 known]

/-- Whether a key is given something other than a text, be it the empty value. -/
def IsWrongText (members : Members) (key : String) : Prop :=
  ∃ value, member? key.toList members = some value ∧ ∀ text, value ≠ .string text

/-- Whether a key is the first in the table that is given something other than a text. -/
def IsFirstWrongText (members : Members) (key : String) : Prop :=
  ∃ before after, textKeys = before ++ key :: after ∧ IsWrongText members key ∧
    ∀ earlier ∈ before, ¬ IsWrongText members earlier

/-- Whether an option is given something that says neither yes nor no, and that is not the empty
value. -/
def IsWrongFlag (members : Members) (o : FlagOption) : Prop :=
  ∃ value, member? o.key.toList members = some value ∧ value ≠ .null ∧ ∀ b, ¬ Says value b

theorem isWrongText_iff {key : String} :
    isWrongText members key = true ↔ IsWrongText members key := by
  unfold isWrongText IsWrongText
  cases found : member? key.toList members with
  | none => simp
  | some value => cases value <;> simp

theorem isFirstWrongText_iff {key : String} :
    IsFirstWrongText members key ↔ textKeys.find? (isWrongText members) = some key := by
  simp only [List.find?_eq_some_iff_append, IsFirstWrongText, isWrongText_iff,
    Bool.not_eq_eq_eq_not, Bool.not_true, ← Bool.not_eq_true]
  constructor
  · rintro ⟨before, after, table, wrong, earlier⟩
    exact ⟨wrong, before, after, table, earlier⟩
  · rintro ⟨wrong, before, after, table, earlier⟩
    exact ⟨before, after, table, wrong, earlier⟩

theorem exists_flagOf_error_iff {value : Json.Value} :
    (∃ cause, flagOf value = .error cause) ↔ value ≠ .null ∧ ∀ b, ¬ Says value b := by
  simp only [← flagOf_eq_ok_some_iff, ne_eq, ← flagOf_eq_ok_none_iff]
  cases said : flagOf value with
  | error cause => simp
  | ok flag => cases flag <;> simp

/-! ### Reading all members -/

/-- Whether a file has for each option what is written under its key. -/
structure Gives (members : Members) (file : OptionFile) : Prop where
  texts : ∀ (o : TextOption) (text : Text),
    o.get file = some text ↔ member? o.key.toList members = some (.string text)
  flags : ∀ (o : FlagOption) (b : Bool),
    o.get file = some b ↔ ∃ value, member? o.key.toList members = some value ∧ Says value b

theorem Gives.unique {other : OptionFile} (gives : Gives members file)
    (gives' : Gives members other) : file = other := by
  refine eq_of_get (fun o => Option.ext fun text => ?_) fun o => Option.ext fun b => ?_
  · rw [gives.texts, gives'.texts]
  · rw [gives.flags, gives'.flags]

/-- Whether members change a file to a result: the options that they give have their values, and the
others are left. -/
structure ReadsTo (members : Members) (file result : OptionFile) : Prop where
  texts : ∀ o : TextOption, o.get result =
    match member? o.key.toList members with
    | some value => (textOf? value).join
    | none => o.get file
  flags : ∀ o : FlagOption,
    match member? o.key.toList members with
    | some value => flagOf value = .ok (o.get result)
    | none => o.get result = o.get file

namespace ReadsTo

variable {rest : Members} {result : OptionFile} {key : Text} {value : Json.Value}

theorem consText {p : TextOption} {text : Text} (new : p.key.toList ∉ rest.map Prod.fst)
    (reads : ReadsTo rest (p.set (some text) file) result) :
    ReadsTo ((p.key.toList, .string text) :: rest) file result where
  texts o := by
    have read := reads.texts o
    rw [Json.member?_cons]
    by_cases same : p = o
    · subst same
      rw [Json.member?_eq_none new] at read
      simpa [TextOption.get_set, textOf?] using read
    · rw [if_neg fun keys => same (TextOption.key_inj.1 keys), read, TextOption.get_set,
        if_neg (Ne.symm same)]
  flags o := by
    have read := reads.flags o
    rw [Json.member?_cons, if_neg (p.key_ne o)]
    rwa [FlagOption.get_setText] at read

theorem consFlag {p : FlagOption} {flag : Option Bool} (new : p.key.toList ∉ rest.map Prod.fst)
    (said : flagOf value = .ok flag) (reads : ReadsTo rest (p.set flag file) result) :
    ReadsTo ((p.key.toList, value) :: rest) file result where
  texts o := by
    have read := reads.texts o
    rw [Json.member?_cons, if_neg (Ne.symm (o.key_ne p))]
    rwa [TextOption.get_setFlag] at read
  flags o := by
    have read := reads.flags o
    rw [Json.member?_cons]
    by_cases same : p = o
    · subst same
      rw [Json.member?_eq_none new] at read
      simpa [FlagOption.get_set, said] using read.symm
    · rw [if_neg fun keys => same (FlagOption.key_inj.1 keys)]
      rwa [FlagOption.get_set, if_neg (Ne.symm same)] at read

theorem consOther (text : ∀ o : TextOption, key ≠ o.key.toList)
    (flag : ∀ o : FlagOption, key ≠ o.key.toList) (reads : ReadsTo rest file result) :
    ReadsTo ((key, value) :: rest) file result where
  texts o := by
    rw [Json.member?_cons, if_neg (text o)]
    exact reads.texts o
  flags o := by
    rw [Json.member?_cons, if_neg (flag o)]
    exact reads.flags o

end ReadsTo

/-- One member: it is read, whatever is read after it under other keys, or it is no flag. -/
theorem readMember_cases {key : Text} {value : Json.Value}
    (text : ∀ o : TextOption, key = o.key.toList → ∃ text, value = .string text)
    (file : OptionFile) :
    (∃ next, readMember file (key, value) = .ok next ∧ ∀ rest result,
      key ∉ rest.map Prod.fst → ReadsTo rest next result →
        ReadsTo ((key, value) :: rest) file result) ∨
      ∃ cause, readMember file (key, value) = .error (.notFlag cause) ∧
        ∃ o : FlagOption, key = o.key.toList ∧ flagOf value = .error cause := by
  rcases key_cases key with ⟨o, rfl⟩ | ⟨o, rfl⟩ | ⟨noText, noFlag⟩
  · obtain ⟨written, rfl⟩ := text o rfl
    refine .inl ⟨o.set (some written) file, ?_, fun _ _ => ReadsTo.consText⟩
    rw [readMember_text]
    rfl
  · rw [readMember_flag, readFlag]
    cases said : flagOf value with
    | ok flag => exact .inl ⟨o.set flag file, rfl, fun _ _ new => ReadsTo.consFlag new said⟩
    | error cause => exact .inr ⟨cause, rfl, o, rfl, rfl⟩
  · exact .inl ⟨file, readMember_other noText noFlag file value,
      fun _ _ _ => ReadsTo.consOther noText noFlag⟩

/-- Members of which each key is there once, and each text is one, are all read, or one of them
is no flag. -/
theorem foldlM_readMember (unique : (members.map Prod.fst).Nodup)
    (texts : ∀ (o : TextOption) (value : Json.Value), (o.key.toList, value) ∈ members →
      ∃ text, value = .string text) (file : OptionFile) :
    (∃ result, members.foldlM readMember file = .ok result ∧ ReadsTo members file result) ∨
      ∃ cause, members.foldlM readMember file = .error (.notFlag cause) ∧
        ∃ (o : FlagOption) (value : Json.Value), (o.key.toList, value) ∈ members ∧
          flagOf value = .error cause := by
  induction members generalizing file with
  | nil => exact .inl ⟨file, rfl, fun o => rfl, fun o => rfl⟩
  | cons head rest ih =>
    obtain ⟨key, value⟩ := head
    obtain ⟨new, unique⟩ := List.nodup_cons.1 unique
    have text : ∀ o : TextOption, key = o.key.toList → ∃ text, value = .string text :=
      fun o same => texts o value (same ▸ List.mem_cons_self)
    have later := ih unique fun o value member => texts o value (List.mem_cons_of_mem _ member)
    rw [List.foldlM_cons]
    rcases readMember_cases text file with ⟨next, first, reads⟩ | ⟨cause, first, o, rfl, wrong⟩
    · rw [first]
      rcases later next with ⟨result, read, rest⟩ | ⟨cause, read, o, wrong, member, said⟩
      · exact .inl ⟨result, read, reads _ _ new rest⟩
      · exact .inr ⟨cause, read, o, wrong, List.mem_cons_of_mem _ member, said⟩
    · rw [first]
      exact .inr ⟨cause, rfl, o, value, List.mem_cons_self, wrong⟩

/-! ### What is wrong with a file -/

/-- Whether every key that asks for a text is given one, if it is given anything. -/
def TextsPass (members : Members) : Prop := ∀ key ∈ textKeys, ¬ IsWrongText members key

/-- Whether every option that is switched on or off says so, or says nothing. -/
def FlagsPass (members : Members) : Prop := ∀ o : FlagOption, ¬ IsWrongFlag members o

theorem TextsPass.exists_text (pass : TextsPass members) {o : TextOption} {value : Json.Value}
    (found : member? o.key.toList members = some value) : ∃ text, value = .string text := by
  refine Classical.byContradiction fun wrong => ?_
  exact pass o.key (mem_textKeys.2 ⟨o, rfl⟩) ⟨value, found, not_exists.1 wrong⟩

theorem textsPass_iff : TextsPass members ↔ ∀ key, ¬ IsFirstWrongText members key := by
  simp only [isFirstWrongText_iff, TextsPass, ← isWrongText_iff, ← List.find?_eq_none,
    ← Option.eq_none_iff_forall_ne_some]

theorem IsFirstWrongText.not_textsPass {key : String} (first : IsFirstWrongText members key) :
    ¬ TextsPass members :=
  fun pass => textsPass_iff.1 pass key first

theorem gives_of_readsTo (pass : TextsPass members) (reads : ReadsTo members {} file) :
    Gives members file where
  texts o text := by
    have read := reads.texts o
    cases found : member? o.key.toList members with
    | none =>
      have nothing : o.get {} = none := by cases o <;> rfl
      rw [found] at read
      simp [read, nothing]
    | some value =>
      obtain ⟨written, rfl⟩ := pass.exists_text found
      rw [found] at read
      simp [read, textOf?]
  flags o b := by
    have read := reads.flags o
    cases found : member? o.key.toList members with
    | none =>
      have nothing : o.get {} = none := by cases o <;> rfl
      rw [found] at read
      simp [read, nothing]
    | some value =>
      rw [found] at read
      simp [← flagOf_eq_ok_some_iff, read]

theorem flagsPass_of_readsTo {result : OptionFile} (reads : ReadsTo members file result) :
    FlagsPass members := by
  rintro o ⟨value, found, wrong⟩
  obtain ⟨cause, said⟩ := exists_flagOf_error_iff.2 wrong
  have read := reads.flags o
  simp only [found, said] at read
  cases read

/-- The three ways that the reading of an object can end, and when. -/
theorem ofValue_object_cases (unique : (members.map Prod.fst).Nodup) :
    (∃ key, ofValue (.object members) = .error (.notText key) ∧ IsFirstWrongText members key) ∨
      (∃ cause, ofValue (.object members) = .error (.notFlag cause) ∧ TextsPass members ∧
        ¬ FlagsPass members) ∨
      ∃ file, ofValue (.object members) = .ok file ∧ TextsPass members ∧ FlagsPass members ∧
        Gives members file := by
  rw [ofValue]
  cases checked : textKeys.find? (isWrongText members) with
  | some key => exact .inl ⟨key, rfl, isFirstWrongText_iff.2 checked⟩
  | none =>
    have pass : TextsPass members := by
      simpa only [TextsPass, ← isWrongText_iff, ← List.find?_eq_none] using checked
    have texts : ∀ (o : TextOption) (value : Json.Value), (o.key.toList, value) ∈ members →
        ∃ text, value = .string text := fun o value member =>
      pass.exists_text ((Json.member?_eq_some_iff unique).2 member)
    refine .inr ?_
    rcases foldlM_readMember unique texts {} with
      ⟨result, read, reads⟩ | ⟨cause, read, o, value, member, said⟩
    · exact .inr ⟨result, read, pass, flagsPass_of_readsTo reads, gives_of_readsTo pass reads⟩
    · have found := (Json.member?_eq_some_iff unique).2 member
      have wrong : IsWrongFlag members o :=
        ⟨value, found, exists_flagOf_error_iff.1 ⟨cause, said⟩⟩
      exact .inl ⟨cause, read, pass, fun pass => pass o wrong⟩

/-! ### Words -/

/-- What a file is refused with. -/
def complaint? (source : Text) : Option Text :=
  match parse source with
  | .ok _ => none
  | .error error => some error.message

/-- The eighth character of a message tells what kind of error it is about. -/
theorem message_getElem?_seven (error : Error) : error.message[7]? =
    match error with
    | .notText _ => some '"'
    | .notObject => some 'f'
    | _ => some 't' := by
  cases error <;> rfl

theorem message_notText_inj {error : Error} {key : String} :
    error.message = (Error.notText key).message ↔ error = .notText key := by
  refine ⟨fun same => ?_, fun same => same ▸ rfl⟩
  have mark := message_getElem?_seven error
  rw [same, message_getElem?_seven] at mark
  cases error with
  | notText other =>
    have written := List.append_cancel_left (List.append_cancel_right same)
    rw [String.toList_inj.1 written]
  | _ => simp at mark

theorem message_ne_notObject {error : Error} (other : error ≠ .notObject) :
    error.message ≠ Error.notObject.message := by
  intro same
  have mark := message_getElem?_seven error
  rw [same, message_getElem?_seven] at mark
  cases error with
  | notObject => exact other rfl
  | _ => simp at mark

theorem parse_of_valid {value : Json.Value}
    (valid : Json.Value.parse? (Json.plain source) = some value) :
    parse source = ofValue value := by
  rw [parse, valid]

section Object

variable (valid : Json.Value.parse? (Json.plain source) = some (.object members))

include valid

theorem parse_object_cases :
    (∃ key, parse source = .error (.notText key) ∧ IsFirstWrongText members key) ∨
      (∃ cause, parse source = .error (.notFlag cause) ∧ TextsPass members ∧
        ¬ FlagsPass members) ∨
      ∃ file, parse source = .ok file ∧ TextsPass members ∧ FlagsPass members ∧
        Gives members file := by
  rw [parse_of_valid valid]
  exact ofValue_object_cases (Json.nodup_keys_of_parse? valid)

theorem parse_eq_ok_iff :
    parse source = .ok file ↔ TextsPass members ∧ FlagsPass members ∧ Gives members file := by
  rcases parse_object_cases valid with
    ⟨key, read, first⟩ | ⟨cause, read, texts, flags⟩ | ⟨result, read, texts, flags, gives⟩
  · simp [read, first.not_textsPass]
  · simp [read, flags]
  · rw [read]
    constructor
    · rintro ⟨⟩
      exact ⟨texts, flags, gives⟩
    · rintro ⟨-, -, other⟩
      rw [gives.unique other]

/-- An object is refused for the first wrong text in the table or else for a wrong flag. -/
theorem complaint?_object {message : Text} :
    complaint? source = some message ↔
      (∃ key, IsFirstWrongText members key ∧ message = (Error.notText key).message) ∨
        TextsPass members ∧ ¬ FlagsPass members ∧
          message = "failed to read option file".toList := by
  rcases parse_object_cases valid with
    ⟨key, read, first⟩ | ⟨cause, read, texts, flags⟩ | ⟨result, read, texts, flags, gives⟩
  · have only : ∀ other, IsFirstWrongText members other ↔ other = key := by
      intro other
      rw [isFirstWrongText_iff, isFirstWrongText_iff.1 first, Option.some.injEq, eq_comm]
    simp only [complaint?, read, only, first.not_textsPass, exists_eq_left, false_and, or_false,
      Option.some.injEq]
    exact eq_comm
  · have fine := textsPass_iff.1 texts
    simp only [complaint?, read, fine, texts, flags, false_and, exists_false, false_or, true_and,
      not_false_eq_true, Option.some.injEq]
    exact eq_comm
  · have fine := textsPass_iff.1 texts
    simp [complaint?, read, fine, flags]

theorem complaint?_eq_notText_iff {key : String} :
    complaint? source = some (Error.notText key).message ↔ IsFirstWrongText members key := by
  rw [complaint?_object valid]
  constructor
  · rintro (⟨other, first, same⟩ | ⟨-, -, same⟩)
    · cases message_notText_inj.1 same
      exact first
    · have apart : Error.notFlag .wrongKind = .notText key := message_notText_inj.1 same.symm
      cases apart
  · exact fun first => .inl ⟨key, first, rfl⟩

theorem complaint?_eq_notFlag_iff :
    complaint? source = some "failed to read option file".toList ↔
      TextsPass members ∧ ¬ FlagsPass members := by
  rw [complaint?_object valid]
  constructor
  · rintro (⟨key, -, same⟩ | ⟨texts, flags, -⟩)
    · have apart : Error.notFlag .wrongKind = .notText key := message_notText_inj.1 same
      cases apart
    · exact ⟨texts, flags⟩
  · rintro ⟨texts, flags⟩
    exact .inr ⟨texts, flags, rfl⟩

theorem complaint?_eq_none_iff :
    complaint? source = none ↔ TextsPass members ∧ FlagsPass members := by
  rcases parse_object_cases valid with
    ⟨key, read, first⟩ | ⟨cause, read, texts, flags⟩ | ⟨result, read, texts, flags, gives⟩
  · simp [complaint?, read, first.not_textsPass]
  · simp [complaint?, read, flags]
  · simp [complaint?, read, texts, flags]

/-- A text that passed the check is one when it is read. -/
theorem parse_ne_unreadable (key : Text) : parse source ≠ .error (.unreadable key) := by
  rcases parse_object_cases valid with ⟨_, read, -⟩ | ⟨_, read, -⟩ | ⟨_, read, -⟩
  · simp [read]
  · simp [read]
  · simp [read]

end Object

theorem complaint?_eq_notObject_iff {value : Json.Value}
    (valid : Json.Value.parse? (Json.plain source) = some value) :
    complaint? source = some Error.notObject.message ↔ ∀ members, value ≠ .object members := by
  cases value with
  | object members =>
    have apart : complaint? source ≠ some Error.notObject.message := by
      intro refused
      rcases (complaint?_object valid).1 refused with ⟨key, -, same⟩ | ⟨-, -, same⟩
      · exact message_ne_notObject (by simp) same.symm
      · exact message_ne_notObject (by simp : Error.notFlag .wrongKind ≠ .notObject) same.symm
    simp [apart]
  | _ => simp [complaint?, parse_of_valid valid, ofValue]

/-! ### Keys of no option -/

/-- Whether two objects have the same under the keys of the options. -/
structure SameOptions (members others : Members) : Prop where
  texts : ∀ o : TextOption, member? o.key.toList members = member? o.key.toList others
  flags : ∀ o : FlagOption, member? o.key.toList members = member? o.key.toList others

namespace SameOptions

variable {others : Members} (same : SameOptions members others)

include same

theorem isFirstWrongText_iff {key : String} :
    IsFirstWrongText members key ↔ IsFirstWrongText others key := by
  rw [OptionFile.isFirstWrongText_iff, OptionFile.isFirstWrongText_iff]
  have table : textKeys.find? (isWrongText members) = textKeys.find? (isWrongText others) := by
    refine List.find?_congr fun key member => ?_
    obtain ⟨o, rfl⟩ := mem_textKeys.1 member
    rw [isWrongText, isWrongText, same.texts]
  rw [table]

theorem textsPass_iff : TextsPass members ↔ TextsPass others := by
  simp only [OptionFile.textsPass_iff, same.isFirstWrongText_iff]

theorem flagsPass_iff : FlagsPass members ↔ FlagsPass others := by
  simp only [FlagsPass, IsWrongFlag, same.flags]

theorem gives_iff : Gives members file ↔ Gives others file := by
  constructor
  · rintro ⟨texts, flags⟩
    exact ⟨by simpa only [same.texts] using texts, by simpa only [same.flags] using flags⟩
  · rintro ⟨texts, flags⟩
    exact ⟨by simpa only [same.texts] using texts, by simpa only [same.flags] using flags⟩

end SameOptions

/-- Which files are refused, in which words, and what the others give. Of a file that holds JSON
nothing but an object is read; a text that is none is named, the first in the table of keys; a flag
that is none is not; and then each option has what is written under its key, and nothing where
nothing is written. A text never fails when it is read, and keys of no option change nothing. -/
theorem parse_exact {value : Json.Value}
    (valid : Json.Value.parse? (Json.plain source) = some value) :
    (complaint? source = some "option file must contain a JSON object".toList ↔
      ∀ members, value ≠ .object members) ∧
    ∀ members, value = .object members →
      (∀ key : String,
        complaint? source =
            some ("option \"".toList ++ key.toList ++ "\" must be a string".toList) ↔
          IsFirstWrongText members key) ∧
      (complaint? source = some "failed to read option file".toList ↔
        TextsPass members ∧ ∃ o, IsWrongFlag members o) ∧
      (complaint? source = none ↔ TextsPass members ∧ FlagsPass members) ∧
      (∀ file, parse source = .ok file ↔
        TextsPass members ∧ FlagsPass members ∧ Gives members file) ∧
      (∀ key, parse source ≠ .error (.unreadable key)) ∧
      ∀ other others, Json.Value.parse? (Json.plain other) = some (.object others) →
        SameOptions members others →
        complaint? other = complaint? source ∧
          ∀ file, parse other = .ok file ↔ parse source = .ok file := by
  refine ⟨complaint?_eq_notObject_iff valid, ?_⟩
  rintro members rfl
  refine ⟨fun key => complaint?_eq_notText_iff valid, ?_, complaint?_eq_none_iff valid,
    fun file => parse_eq_ok_iff valid, parse_ne_unreadable valid, ?_⟩
  · rw [complaint?_eq_notFlag_iff valid, FlagsPass, not_forall_not]
  · intro other others valid' same
    constructor
    · refine Option.ext fun message => ?_
      simp only [complaint?_object valid, complaint?_object valid', same.isFirstWrongText_iff,
        same.textsPass_iff, same.flagsPass_iff]
    · intro file
      rw [parse_eq_ok_iff valid, parse_eq_ok_iff valid', same.textsPass_iff, same.flagsPass_iff,
        same.gives_iff]

/-! A file with comments, a comma at the end, a key of no option and a key that is there twice. -/

namespace Written

def text : Text :=
  "\x7b\"verbose\": false, \"x\": [], \"verbose\": \" Yes \", \"out\": \"o\",/**/\x7d // end".toList

def entries : Members :=
  [("verbose".toList, .string " Yes ".toList), (['x'], .array []), ("out".toList, .string ['o'])]

def options : OptionFile := { verbose := some true, out := some ['o'] }

end Written

theorem parse_exact_written :
    Json.Value.parse? (Json.plain Written.text) = some (.object Written.entries) ∧
      complaint? Written.text = none ∧ Gives Written.entries Written.options := by
  have valid : Json.Value.parse? (Json.plain Written.text) = some (.object Written.entries) := by
    cbv
  have read : parse Written.text = .ok Written.options := by
    rw [parse_of_valid valid]
    rfl
  obtain ⟨-, -, -, given, -⟩ := (parse_exact valid).2 Written.entries rfl
  obtain ⟨-, -, gives⟩ := (given Written.options).1 read
  exact ⟨valid, by rw [complaint?, read], gives⟩

end TypingBundle.OptionFile
