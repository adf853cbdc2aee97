import TypingBundle.Json.Value

/-!
The members of objects. A key that is read again gets the new value in its old place, so every
object that is read has each key once.

Main statement: `nodup_keys_of_parse?`.
-/

namespace TypingBundle.Json

variable {members : List (Text × Value)} {key : Text} {value : Value}

theorem nodup_keys_setMember (unique : (members.map Prod.fst).Nodup) (key : Text) (value : Value) :
    ((setMember key value members).map Prod.fst).Nodup := by
  rw [keys_setMember]
  split
  · exact unique
  · rename_i new
    rw [List.nodup_append]
    refine ⟨unique, by simp, ?_⟩
    rintro k known _ member rfl
    obtain rfl := List.mem_singleton.1 member
    exact new known

/-- With each key once, a member is found under its key. -/
theorem member?_eq_some_iff (unique : (members.map Prod.fst).Nodup) :
    member? key members = some value ↔ (key, value) ∈ members := by
  unfold member?
  induction members with
  | nil => simp
  | cons head rest ih =>
    obtain ⟨k, v⟩ := head
    rw [List.map_cons, List.nodup_cons] at unique
    by_cases same : k = key
    · subst same
      have absent : (k, value) ∉ rest := fun member => unique.1 (List.mem_map.2 ⟨_, member, rfl⟩)
      simp [absent, eq_comm]
    · rw [List.find?_cons_of_neg (by simpa using same), ih unique.2]
      simp [Ne.symm same]

theorem member?_eq_none (absent : key ∉ members.map Prod.fst) : member? key members = none := by
  rw [member?, Option.map_eq_none_iff, List.find?_eq_none]
  intro entry member found
  exact absent (List.mem_map.2 ⟨entry, member, by simpa using found⟩)

theorem member?_cons (k : Text) (v : Value) (rest : List (Text × Value)) :
    member? key ((k, v) :: rest) = if k = key then some v else member? key rest := by
  by_cases same : k = key <;> simp [member?, same]

/-! ### Reading -/

/-- Whether a value, if it is an object, has each key once. -/
def Value.HasUniqueKeys : Value → Prop
  | .object members => (members.map Prod.fst).Nodup
  | _ => True

/-- Whether what is read so far of an object has each key once. -/
def Frame.HasUniqueKeys : Frame → Prop
  | .array _ => True
  | .object members | .pending members _ => (members.map Prod.fst).Nodup

namespace Progress

/-- Whether all objects that are open, or the value that is read, have each key once. -/
def HasUniqueKeys : Progress → Prop
  | .done value => value.HasUniqueKeys
  | .awaiting _ frames => ∀ frame ∈ frames, frame.HasUniqueKeys

variable {frames : List Frame} {token : Token} {p next : Progress}

theorem HasUniqueKeys.deliver (read : deliver value frames = some next)
    (unique : ∀ frame ∈ frames, frame.HasUniqueKeys) (complete : value.HasUniqueKeys) :
    next.HasUniqueKeys := by
  unfold Progress.deliver at read
  split at read
  · cases read
    exact complete
  · cases read
    rw [List.forall_mem_cons] at unique
    exact List.forall_mem_cons.2 ⟨trivial, unique.2⟩
  · cases read
    rw [List.forall_mem_cons] at unique
    exact List.forall_mem_cons.2 ⟨nodup_keys_setMember unique.1 _ _, unique.2⟩
  · cases read

theorem HasUniqueKeys.enter {awaited : Awaited} {frame : Frame}
    (read : enter awaited frame frames = some next)
    (unique : ∀ frame ∈ frames, frame.HasUniqueKeys) (first : frame.HasUniqueKeys) :
    next.HasUniqueKeys := by
  unfold Progress.enter at read
  split at read
  · cases read
    exact List.forall_mem_cons.2 ⟨first, unique⟩
  · cases read

theorem HasUniqueKeys.beginValue (unique : ∀ frame ∈ frames, frame.HasUniqueKeys)
    (read : beginValue frames token = some next) : next.HasUniqueKeys := by
  cases token with
  | null => exact deliver read unique trivial
  | bool b => exact deliver read unique trivial
  | number n => exact deliver read unique trivial
  | string s => exact deliver read unique trivial
  | openBracket => exact enter read unique trivial
  | openBrace => exact enter read unique List.nodup_nil
  | _ => cases read

theorem HasUniqueKeys.beginMember (unique : ∀ frame ∈ frames, frame.HasUniqueKeys)
    (read : beginMember frames token = some next) : next.HasUniqueKeys := by
  unfold Progress.beginMember at read
  split at read
  · cases read
    rw [List.forall_mem_cons] at unique
    exact List.forall_mem_cons.2 unique
  · cases read

theorem HasUniqueKeys.close (unique : ∀ frame ∈ frames, frame.HasUniqueKeys)
    (read : close frames token = some next) : next.HasUniqueKeys := by
  unfold Progress.close at read
  split at read
  · rw [List.forall_mem_cons] at unique
    exact deliver read unique.2 trivial
  · rw [List.forall_mem_cons] at unique
    exact deliver read unique.2 unique.1
  · cases read

theorem HasUniqueKeys.afterValue (unique : ∀ frame ∈ frames, frame.HasUniqueKeys)
    (read : afterValue frames token = some next) : next.HasUniqueKeys := by
  unfold Progress.afterValue at read
  split at read
  · cases read
    exact unique
  · cases read
    exact unique
  · exact close unique read

/-- A word keeps keys unique. -/
theorem HasUniqueKeys.step (unique : p.HasUniqueKeys) (read : p.step token = some next) :
    next.HasUniqueKeys := by
  unfold Progress.step at read
  split at read
  · cases read
  · exact beginValue unique read
  · exact close unique read
  · exact beginValue unique read
  · exact close unique read
  · exact beginMember unique read
  · exact beginMember unique read
  · cases read
    exact unique
  · cases read
  · exact afterValue unique read

theorem HasUniqueKeys.foldlM {tokens : List Token} (unique : p.HasUniqueKeys)
    (read : tokens.foldlM Progress.step p = some next) : next.HasUniqueKeys := by
  induction tokens generalizing p with
  | nil =>
    cases read
    exact unique
  | cons token tokens ih =>
    rw [List.foldlM_cons] at read
    obtain ⟨q, first, rest⟩ := Option.bind_eq_some_iff.1 read
    exact ih (unique.step first) rest

end Progress

/-- An object that is read has each key once. -/
theorem nodup_keys_of_parse? {text : Text} (read : Value.parse? text = some (.object members)) :
    (members.map Prod.fst).Nodup := by
  obtain ⟨tokens, -, read⟩ := Option.bind_eq_some_iff.1 read
  unfold Value.ofTokens? at read
  split at read
  · rename_i value done
    cases read
    have start : (Progress.awaiting .value []).HasUniqueKeys := by simp [Progress.HasUniqueKeys]
    exact start.foldlM done
  · cases read

end TypingBundle.Json
