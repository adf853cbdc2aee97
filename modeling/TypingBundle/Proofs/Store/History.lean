import Mathlib.Data.List.Induction
import TypingBundle.Proofs.Path.Position
import TypingBundle.Proofs.Store.Memory

/-!
Files in memory after any sequence of calls. Paths that lead to the same location name the same
file, however they are spelled in the calls and in the questions asked afterwards.

Main statements: `textAt?_after`: there is the text that was put there last, unless it was taken
away since; and `after_commands`, which says how every question is answered.
-/

namespace TypingBundle

/-! ### The order of components -/

namespace Component

/-- The kinds of components in their order. -/
def rank : Component → Nat
  | root => 0
  | here => 1
  | up => 2
  | name _ => 3

/-- The order of components: by kind, and names by their texts. -/
def Before (a b : Component) : Prop :=
  a.rank < b.rank ∨ ∃ n m, a = name n ∧ b = name m ∧ Text.before n.text m.text = true

theorem before_name {n m : Name} :
    Before (name n) (name m) ↔ Text.before n.text m.text = true := by
  simp [Before, rank]

theorem root_before (n : Name) : Before root (name n) := Or.inl (Nat.zero_lt_succ 2)

theorem not_before_root (a : Component) : ¬ Before a root := by
  rintro (less | ⟨n, m, _, same, _⟩)
  · exact absurd less (Nat.not_lt_zero _)
  · cases same

end Component

namespace Location

theorem keyBefore_texts_iff (names names' : List Name) :
    keyBefore (names.map Name.text) (names'.map Name.text) = true ↔
      List.Lex Component.Before (names.map .name) (names'.map .name) := by
  induction names generalizing names' with
  | nil =>
    cases names' with
    | nil => simp [keyBefore]
    | cons m names' => simp [keyBefore]
  | cons n names ih =>
    cases names' with
    | nil => simp [keyBefore]
    | cons m names' =>
      have same : n.text = m.text ↔ n = m := by
        cases n
        cases m
        simp
      simp only [List.map_cons, keyBefore, List.cons_lex_cons_iff, Component.before_name,
        Bool.or_eq_true, Bool.and_eq_true, decide_eq_true_eq, ih, same, Component.name.injEq]

/-- Locations are sorted by their components from the first on. -/
theorem sortsBefore_iff_lex {l m : Location} :
    l.sortsBefore m = true ↔ List.Lex Component.Before l.components m.components := by
  obtain ⟨rooted, names⟩ := l
  obtain ⟨rooted', names'⟩ := m
  have below := keyBefore_texts_iff names names'
  -- The root is sorted by the empty text, which comes before every name because no name is empty.
  cases rooted with
  | false =>
    cases rooted' with
    | false => simpa [sortsBefore, sortKey, components] using below
    | true =>
      cases names with
      | nil => simp [sortsBefore, sortKey, components, keyBefore]
      | cons n names =>
        have later : ¬ List.Lex Component.Before (.name n :: names.map .name)
            (.root :: names'.map .name) := by
          simp [List.cons_lex_cons_iff, Component.not_before_root]
        simpa [sortsBefore, sortKey, components, keyBefore, Text.before, n.ne_nil] using later
  | true =>
    cases rooted' with
    | false =>
      cases names' with
      | nil => simp [sortsBefore, sortKey, components, keyBefore]
      | cons m names' =>
        obtain ⟨c, rest, written⟩ := List.exists_cons_of_ne_nil m.ne_nil
        have first : List.Lex Component.Before (.root :: names.map .name)
            (.name m :: names'.map .name) := List.Lex.rel (Component.root_before m)
        simpa [sortsBefore, sortKey, components, keyBefore, written, Text.before] using first
    | true =>
      simp only [sortsBefore, sortKey, components, if_true, List.singleton_append, keyBefore,
        List.cons_lex_cons_iff, Component.not_before_root, false_or, true_and]
      simpa [Text.before] using below

end Location

theorem Text.endsWith_iff {ending text : Text} : endsWith ending text = true ↔ ending <:+ text := by
  rw [endsWith, Option.isSome_iff_exists]
  constructor
  · rintro ⟨rest, found⟩
    exact ⟨rest, (dropEnd?_eq_some_iff.1 found).symm⟩
  · rintro ⟨rest, rfl⟩
    exact ⟨rest, dropEnd?_eq_some_iff.2 rfl⟩

theorem Path.isDeclarationFile_iff {p : Path} :
    p.isDeclarationFile = true ↔ ∃ name, p.fileName? = some name ∧ declarationEnding <:+ name := by
  simp only [isDeclarationFile, Option.any_eq_true, Text.endsWith_iff]

/-! ### Sequences of calls -/

namespace MemoryStore

/-- The calls that can change the files in memory. -/
inductive Command where
  | insert (path : Path) (text : Text)
  | write (path : Path) (text : Text)
  | remove (path : Path)
  | makeDirectories (path : Path)

variable {store : MemoryStore} {l : Location} {text : Text} {path : Path} {c : Command}
  {commands : List Command}

/-- The store that a call leaves, and why the call failed if it did. -/
def outcome (store : MemoryStore) :
    Except Store.Cause MemoryStore → MemoryStore × Option Store.Cause
  | .ok store => (store, none)
  | .error cause => (store, some cause)

/-- The store after a call, and why the call failed if it did. -/
def perform (store : MemoryStore) : Command → MemoryStore × Option Store.Cause
  | .insert path text => (store.insert path text, none)
  | .write path text => store.outcome (FileStore.write store path text)
  | .remove path => store.outcome (FileStore.remove store path)
  | .makeDirectories path => FileStore.makeDirectories store path

/-- The store after a sequence of calls, the first of which finds it without files. -/
def after (commands : List Command) : MemoryStore :=
  commands.foldl (fun store c => (store.perform c).1) empty

/-- The text that a call puts at a location. -/
def Command.puts? (l : Location) : Command → Option Text
  | .insert path text => if path.normalize = l then some text else none
  | .write path text => if path.normalize = l then some text else none
  | .remove _ => none
  | .makeDirectories _ => none

/-- Whether a call takes the file at a location away: it removes a path that leads there, and this
does not fail. -/
def Command.Takes (store : MemoryStore) (l : Location) : Command → Prop
  | .remove path => path.normalize = l ∧ (store.perform (.remove path)).2 = none
  | _ => False

/-- A text that was put at a location last and not taken away since. -/
def LastPut (commands : List Command) (l : Location) (text : Text) : Prop :=
  ∃ before c later, commands = before ++ c :: later ∧ c.puts? l = some text ∧
    (∀ d ∈ later, d.puts? l = none) ∧
    ∀ passed d rest, later = passed ++ d :: rest → ¬ d.Takes (after (before ++ c :: passed)) l

/-! ### One call -/

theorem remove_of_get? (found : store.get? path = some text) :
    FileStore.remove store path = .ok (store.erase path) := by
  simp [FileStore.remove, found]

theorem remove_of_get?_eq_none (absent : store.get? path = none) :
    FileStore.remove store path = .error (.noSuchFile path) := by
  simp [FileStore.remove, absent]

/-- Taking away what is not there changes nothing. -/
theorem erase_of_get?_eq_none (absent : store.get? path = none) : store.erase path = store := by
  have kept : store.entries.filter (fun entry => entry.1 ≠ path.normalize) = store.entries := by
    rw [List.filter_eq_self]
    rw [get?, textAt?, Option.map_eq_none_iff, List.find?_eq_none] at absent
    intro entry member
    simpa using absent entry member
  obtain ⟨entries, sorted⟩ := store
  simp only [erase, kept]

theorem textAt?_of_puts? (puts : c.puts? l = some text) :
    ((store.perform c).1).textAt? l = some text := by
  cases c with
  | insert path text' =>
    simp only [Command.puts?] at puts
    split at puts
    next same =>
      cases puts
      simp [perform, same]
    next => cases puts
  | write path text' =>
    simp only [Command.puts?] at puts
    split at puts
    next same =>
      cases puts
      simp [perform, outcome, FileStore.write, same]
    next => cases puts
  | remove path => cases puts
  | makeDirectories path => cases puts

theorem textAt?_of_takes (takes : c.Takes store l) : ((store.perform c).1).textAt? l = none := by
  cases c with
  | remove path =>
    obtain ⟨rfl, succeeds⟩ := takes
    cases found : store.get? path with
    | none =>
      rw [perform, remove_of_get?_eq_none found] at succeeds
      cases succeeds
    | some text =>
      rw [perform, remove_of_get? found]
      simp [outcome]
  | insert path text => cases takes
  | write path text => cases takes
  | makeDirectories path => cases takes

/-- A call that neither puts a text at a location nor takes it away leaves what is there. -/
theorem textAt?_of_leaves (puts : c.puts? l = none) (takes : ¬ c.Takes store l) :
    ((store.perform c).1).textAt? l = store.textAt? l := by
  cases c with
  | insert path text =>
    have other : ¬ l = path.normalize := by
      rintro rfl
      simp [Command.puts?] at puts
    simp [perform, other]
  | write path text =>
    have other : ¬ l = path.normalize := by
      rintro rfl
      simp [Command.puts?] at puts
    simp [perform, outcome, FileStore.write, other]
  | remove path =>
    cases found : store.get? path with
    | none => rw [perform, remove_of_get?_eq_none found, outcome]
    | some text =>
      have other : ¬ l = path.normalize := by
        rintro rfl
        apply takes
        refine ⟨rfl, ?_⟩
        rw [perform, remove_of_get? found, outcome]
      rw [perform, remove_of_get? found]
      simp [outcome, other]
  | makeDirectories path => rfl

/-! ### All calls -/

theorem after_concat (commands : List Command) (c : Command) :
    after (commands ++ [c]) = ((after commands).perform c).1 := by
  rw [after, List.foldl_append]
  rfl

/-- A sequence is cut at its last element or before. -/
theorem concat_eq_append_cons {d : Command} {before later : List Command}
    (split : commands ++ [c] = before ++ d :: later) :
    (later = [] ∧ before = commands ∧ d = c) ∨
      ∃ front, later = front ++ [c] ∧ commands = before ++ d :: front := by
  rcases List.eq_nil_or_concat later with rfl | ⟨front, last, rfl⟩
  · obtain ⟨rfl, rfl⟩ := List.append_singleton_inj.1 split
    exact Or.inl ⟨rfl, rfl, rfl⟩
  · rw [List.concat_eq_append, ← List.cons_append, ← List.append_assoc] at split
    rw [List.concat_eq_append]
    obtain ⟨rfl, rfl⟩ := List.append_singleton_inj.1 split
    exact Or.inr ⟨front, rfl, rfl⟩

/-- What was put last, from the calls before the last one. -/
theorem lastPut_concat :
    LastPut (commands ++ [c]) l text ↔ c.puts? l = some text ∨
      (c.puts? l = none ∧ ¬ c.Takes (after commands) l ∧ LastPut commands l text) := by
  constructor
  · rintro ⟨before, d, later, split, puts, unput, untaken⟩
    -- The last call is the one that put the text, or it comes after that one.
    rcases concat_eq_append_cons split with ⟨_, _, rfl⟩ | ⟨front, rfl, rfl⟩
    · exact Or.inl puts
    · refine Or.inr ⟨unput c (by simp), untaken front c [] rfl, before, d, front, rfl, puts, ?_, ?_⟩
      · intro e member
        exact unput e (List.mem_append_left _ member)
      · intro passed e rest same
        exact untaken passed e (rest ++ [c]) (by simp [same])
  · rintro (puts | ⟨unput, untaken, before, d, later, rfl, puts, unput', untaken'⟩)
    · refine ⟨commands, c, [], rfl, puts, ?_, ?_⟩
      · intro e member
        cases member
      · intro passed e rest empty
        simp at empty
    · refine ⟨before, d, later ++ [c], by simp, puts, ?_, ?_⟩
      · intro e member
        rcases List.mem_append.1 member with earlier | last
        · exact unput' e earlier
        · rwa [List.mem_singleton.1 last]
      · intro passed e rest split
        rcases concat_eq_append_cons split with ⟨_, rfl, rfl⟩ | ⟨front, rfl, rfl⟩
        · exact untaken
        · exact untaken' passed e front rfl

/-- At a location there is the text that was put there last, unless it was taken away since. -/
theorem textAt?_after (commands : List Command) (l : Location) (text : Text) :
    (after commands).textAt? l = some text ↔ LastPut commands l text := by
  induction commands using List.reverseRecOn with
  | nil =>
    constructor
    · intro found
      cases found
    · rintro ⟨before, c, later, split, _⟩
      simp at split
  | append_singleton commands c ih =>
    rw [after_concat, lastPut_concat]
    cases puts : c.puts? l with
    | some new =>
      rw [textAt?_of_puts? puts]
      simp
    | none =>
      by_cases takes : c.Takes (after commands) l
      · rw [textAt?_of_takes takes]
        simp [takes]
      · rw [textAt?_of_leaves puts takes, ih]
        simp [takes]

/-! ### Questions -/

/-- The paths under which files are stored, in order. -/
def paths (store : MemoryStore) : List Path := (FileStore.files store).map Location.toPath

theorem mem_paths {q : Path} :
    q ∈ store.paths ↔ ∃ l, (store.textAt? l).isSome = true ∧ l.toPath = q := by
  rw [paths, List.mem_map]
  exact exists_congr fun l => and_congr_left fun _ => mem_locations

theorem pairwise_paths (store : MemoryStore) :
    store.paths.Pairwise fun p q => List.Lex Component.Before p.components q.components := by
  have sorted : store.locations.Pairwise fun l m => l.sortsBefore m = true :=
    List.pairwise_map.2 store.sorted
  refine List.pairwise_map.2 (sorted.imp ?_)
  intro l m before
  rw [Location.components_toPath, Location.components_toPath]
  exact Location.sortsBefore_iff_lex.1 before

theorem toPath_normalize_of_mem {q : Path} (stored : q ∈ store.paths) :
    q.normalize.toPath = q := by
  obtain ⟨l, -, rfl⟩ := mem_paths.1 stored
  rw [Location.normalize_toPath]

theorem read_eq_ok_iff : FileStore.read store path = .ok text ↔ store.get? path = some text := by
  cases found : store.get? path with
  | none => simp [FileStore.read, found]
  | some other => simp [FileStore.read, found]

theorem read_eq_error_iff :
    FileStore.read store path = .error (.noSuchFile path) ↔ store.get? path = none := by
  cases found : store.get? path with
  | none => simp [FileStore.read, found]
  | some other => simp [FileStore.read, found]

/-- Only what is not there can not be removed. -/
theorem get?_of_remove {cause : Store.Cause} (fails : FileStore.remove store path = .error cause) :
    store.get? path = none := by
  cases found : store.get? path with
  | none => rfl
  | some text =>
    rw [remove_of_get? found] at fails
    cases fails

theorem isPresent_iff :
    FileStore.isPresent store path = true ↔
      ∃ q ∈ store.paths, path.normalize.components <+: q.components := by
  simp [FileStore.isPresent, paths, FileStore.files, Location.isUnder]

/-- The declaration files are picked from the stored paths. -/
theorem declarationFiles_eq_filter :
    (FileStore.declarationFiles store path).map Location.toPath =
      store.paths.filter fun q =>
        path.normalize.components.isPrefixOf q.components && q.isDeclarationFile := by
  rw [paths, List.filter_map]
  congr 1
  refine List.filter_congr fun l _ => ?_
  simp [Location.isUnder]

/-- Files in memory after any sequence of calls, the first of which finds none. The stored paths
are strictly in the order of their components, and each is written as it is normalized. A path is
answered by the text that was put last at its location and not taken away since, and there is a file
where there is such a text; reading fails where there is none. Removing fails only there, and then
nothing changes. A path is present exactly if the components of its location begin those of a stored
path. The declaration files at or below a directory are, in their order, the stored paths that begin
with the components of its location and end in a name with the ending of declaration files. -/
theorem after_commands (commands : List Command) :
    let store := after commands
    (store.paths.Pairwise fun p q => List.Lex Component.Before p.components q.components) ∧
      (∀ q ∈ store.paths, q.normalize.toPath = q) ∧
      ∀ p : Path,
        (∀ text, store.get? p = some text ↔ LastPut commands p.normalize text) ∧
        (∀ text, FileStore.read store p = .ok text ↔ LastPut commands p.normalize text) ∧
        (FileStore.read store p = .error (.noSuchFile p) ↔
          ¬ ∃ text, LastPut commands p.normalize text) ∧
        (FileStore.isFile store p = true ↔ ∃ text, LastPut commands p.normalize text) ∧
        (∀ cause, FileStore.remove store p = .error cause →
          (¬ ∃ text, LastPut commands p.normalize text) ∧ store.erase p = store ∧
            after (commands ++ [.remove p]) = store) ∧
        (FileStore.isPresent store p = true ↔
          ∃ q ∈ store.paths, p.normalize.components <+: q.components) ∧
        ((FileStore.declarationFiles store p).map Location.toPath).Sublist store.paths ∧
        ∀ q, q ∈ (FileStore.declarationFiles store p).map Location.toPath ↔
          q ∈ store.paths ∧ p.normalize.components <+: q.components ∧
            ∃ name, q.fileName? = some name ∧ Path.declarationEnding <:+ name := by
  intro store
  refine ⟨pairwise_paths store, fun q => toPath_normalize_of_mem, ?_⟩
  intro p
  have last (text : Text) : store.get? p = some text ↔ LastPut commands p.normalize text :=
    textAt?_after commands p.normalize text
  have absent : store.get? p = none ↔ ¬ ∃ text, LastPut commands p.normalize text := by
    rw [Option.eq_none_iff_forall_ne_some, not_exists]
    exact forall_congr' fun text => not_congr (last text)
  refine ⟨last, ?_, ?_, ?_, ?_, isPresent_iff, ?_, ?_⟩
  · intro text
    rw [read_eq_ok_iff, last]
  · rw [read_eq_error_iff, absent]
  · refine Option.isSome_iff_exists.trans ?_
    exact exists_congr last
  · intro cause fails
    have none := get?_of_remove fails
    refine ⟨absent.1 none, erase_of_get?_eq_none none, ?_⟩
    rw [after_concat, perform, remove_of_get?_eq_none none, outcome]
  · rw [declarationFiles_eq_filter]
    exact List.filter_sublist
  · intro q
    rw [declarationFiles_eq_filter, List.mem_filter, Bool.and_eq_true, List.isPrefixOf_iff_prefix,
      Path.isDeclarationFile_iff]

namespace Sample

/-- One file is put in twice under different spellings, and another is put in and taken away. -/
def calls : List Command := [
  .insert (.ofString "/a/./b.d.ts") ['x'],
  .write (.ofString "/a-c") ['z'],
  .makeDirectories (.ofString "/d"),
  .write (.ofString "/a/c/../b.d.ts") ['y'],
  .insert (.ofString "e") ['w'],
  .remove (.ofString "./e/"),
  .remove (.ofString "/a/c")]

end Sample

theorem after_commands_spellings :
    (after Sample.calls).paths = [.ofString "/a/b.d.ts", .ofString "/a-c"] ∧
      (Path.ofString "/a/b.d.ts").normalize.toPath = .ofString "/a/b.d.ts" ∧
      (after Sample.calls).get? (.ofString "/d/..//a/b.d.ts") = some ['y'] ∧
      LastPut Sample.calls (Path.ofString "/d/..//a/b.d.ts").normalize ['y'] ∧
      FileStore.remove (after Sample.calls) (.ofString "e") =
        .error (.noSuchFile (.ofString "e")) ∧
      after (Sample.calls ++ [.remove (.ofString "e")]) = after Sample.calls := by
  obtain ⟨_, normal, each⟩ := after_commands Sample.calls
  have stored : (after Sample.calls).paths = [.ofString "/a/b.d.ts", .ofString "/a-c"] := by decide
  have found : (after Sample.calls).get? (.ofString "/d/..//a/b.d.ts") = some ['y'] := by decide
  have fails : FileStore.remove (after Sample.calls) (.ofString "e") =
      .error (.noSuchFile (.ofString "e")) := remove_of_get?_eq_none (by decide)
  obtain ⟨_, _, _, _, unchanged, _⟩ := each (.ofString "e")
  refine ⟨stored, normal _ ?_, found, ((each _).1 _).1 found, fails, (unchanged _ fails).2.2⟩
  simp [stored]

end MemoryStore
end TypingBundle
