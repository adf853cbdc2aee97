import TypingBundle.Store.Memory

/-!
What is looked up in memory after a file was written or removed.
-/

namespace TypingBundle

namespace Store

variable {l m : Location} {text : Text} {entries : List (Location × Text)}

/-- An entry that is put in is found, and nothing else changes. -/
theorem find?_insertEntry :
    ((insertEntry m text entries).find? fun entry => entry.1 = l).map Prod.snd =
      if l = m then some text else (entries.find? fun entry => entry.1 = l).map Prod.snd := by
  induction entries with
  | nil =>
    by_cases same : l = m
    · simp [insertEntry, same]
    · simp [insertEntry, same, Ne.symm same]
  | cons head rest ih =>
    obtain ⟨first, other⟩ := head
    simp only [insertEntry]
    by_cases same : l = m
    · subst same
      rw [if_pos rfl] at ih ⊢
      split
      · simp
      · split
        · simp
        · rename_i different
          rw [List.find?_cons_of_neg (by simpa using Ne.symm different), ih]
    · rw [if_neg same] at ih ⊢
      split
      · rw [List.find?_cons_of_neg (by simpa using Ne.symm same)]
      · split
        · rename_i equal
          subst equal
          rw [List.find?_cons_of_neg (by simpa using Ne.symm same),
            List.find?_cons_of_neg (by simpa using Ne.symm same)]
        · by_cases here : first = l
          · rw [List.find?_cons_of_pos (by simpa using here),
              List.find?_cons_of_pos (by simpa using here)]
          · rw [List.find?_cons_of_neg (by simpa using here),
              List.find?_cons_of_neg (by simpa using here), ih]

/-- Putting an entry in twice is putting it in once. -/
theorem insertEntry_insertEntry :
    insertEntry l text (insertEntry l text entries) = insertEntry l text entries := by
  induction entries with
  | nil => simp [insertEntry]
  | cons head rest ih =>
    obtain ⟨m, other⟩ := head
    simp only [insertEntry]
    split
    · simp [insertEntry]
    · split
      · simp [insertEntry]
      · rename_i later different
        simp [insertEntry, later, different, ih]

end Store

namespace MemoryStore

variable {store : MemoryStore} {l : Location} {text : Text} {path : Path}

@[simp]
theorem textAt?_insert :
    (store.insert path text).textAt? l =
      if l = path.normalize then some text else store.textAt? l :=
  Store.find?_insertEntry

@[simp]
theorem textAt?_erase :
    (store.erase path).textAt? l = if l = path.normalize then none else store.textAt? l := by
  unfold textAt? erase
  rw [List.find?_filter]
  by_cases same : l = path.normalize
  · rw [if_pos same, Option.map_eq_none_iff, List.find?_eq_none]
    intro entry _
    simp [same]
  · rw [if_neg same]
    congr 2
    funext entry
    by_cases here : entry.1 = l
    · simp [here, same]
    · simp [here]

theorem insert_insert : (store.insert path text).insert path text = store.insert path text := by
  simp only [insert, Store.insertEntry_insertEntry]

theorem mem_locations : l ∈ store.locations ↔ (store.textAt? l).isSome = true := by
  constructor
  · intro member
    obtain ⟨entry, listed, rfl⟩ := List.mem_map.1 member
    rw [textAt?, Option.isSome_map, List.find?_isSome]
    exact ⟨entry, listed, by simp⟩
  · exact mem_locations_of_isSome

end MemoryStore
end TypingBundle
