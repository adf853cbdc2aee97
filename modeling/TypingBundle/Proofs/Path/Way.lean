import TypingBundle.Proofs.Path.Canonical

/-!
Ways: the steps of a path without a leading `.`. A relative path goes on with its own way from where
it is read, and so a path that is written as seen from one directory can be followed from another.

Main statements: `way_join` says how the way of a continued path is put together,
`locate_relative_iff` says from which directories the path of a location leads to the location, and
`exists_parent?` says what is left of a path, however it is spelled, without its last name.
-/

namespace TypingBundle

/-- A mark cuts a text in two that are split on their own. -/
theorem Text.split_append (mark : Char) (first second : Text) :
    split mark (first ++ mark :: second) = split mark first ++ split mark second := by
  induction first with
  | nil => simp [split]
  | cons c first ih =>
    by_cases cut : c = mark
    · simp [split, cut, ih]
    · rw [List.cons_append, split, if_neg cut, split, if_neg cut, ih]
      cases pieces : split mark first with
      | nil => exact absurd pieces (split_ne_nil mark first)
      | cons piece rest => rfl

namespace Path

variable {p q : Path} {steps : List Component}

@[simp]
theorem ofPiece?_nil : Component.ofPiece? [] = none := by decide

theorem ofPiece?_ne_here (piece : Text) : Component.ofPiece? piece ≠ some .here := by
  unfold Component.ofPiece?
  split
  · simp
  · split <;> simp

theorem filter_filterMap_ofPiece? (pieces : List Text) :
    (pieces.filterMap Component.ofPiece?).filter (· ≠ .here) =
      pieces.filterMap Component.ofPiece? := by
  rw [List.filter_eq_self]
  intro step member
  obtain ⟨piece, _, read⟩ := List.mem_filterMap.1 member
  have other : step ≠ .here := by
    rintro rfl
    exact ofPiece?_ne_here piece read
  simpa using other

/-- The way of a path is what stands between its slashes, behind the root if it begins there. -/
theorem way_eq (p : Path) :
    p.way = (if p.isAbsolute then [.root] else []) ++
      (Text.split '/' p.text).filterMap Component.ofPiece? := by
  obtain ⟨text⟩ := p
  unfold way components isAbsolute
  dsimp only
  split
  · rename_i rest
    have root : Text.split '/' ('/' :: rest) = [] :: Text.split '/' rest := by simp [Text.split]
    rw [List.filter_cons_of_pos (by simp), filter_filterMap_ofPiece?, root]
    simp
  · rename_i relative
    have other : text.head? ≠ some '/' := by
      intro slash
      obtain ⟨rest, written⟩ := List.head?_eq_some_iff.1 slash
      exact relative rest written
    have nothing : Component.ofPiece? ['.'] = none := by decide
    split
    · rename_i rest pieces
      rw [List.filter_cons_of_neg (by simp), filter_filterMap_ofPiece?, pieces,
        List.filterMap_cons, nothing]
      simp [other]
    · rw [filter_filterMap_ofPiece?]
      simp [other]

/-- A path leads where its way leads. -/
theorem normalize_eq_foldl_way (p : Path) : p.normalize = p.way.foldl Location.step .empty := by
  rw [normalize, way, List.foldl_filter]
  congr 1
  funext l step
  cases step <;> simp [Location.step]

/-- Pieces of a path that is continued by a relative one: a slash between the two adds none. -/
theorem pieces_join (p : Path) (relative : q.isAbsolute = false) :
    (Text.split '/' (p.join q).text).filterMap Component.ofPiece? =
      (Text.split '/' p.text).filterMap Component.ofPiece? ++
        (Text.split '/' q.text).filterMap Component.ofPiece? := by
  rw [join, relative, if_neg (by decide)]
  split
  · rename_i ended
    rcases ended with empty | slash
    · simp [empty, Text.split]
    · obtain ⟨front, written⟩ := List.getLast?_eq_some_iff.1 slash
      simp [written, Text.split_append, Text.split]
  · simp [Text.split_append]

/-- A relative path goes on with its own way. -/
theorem way_join (p : Path) (relative : q.isAbsolute = false) :
    (p.join q).way = p.way ++ q.way := by
  rw [way_eq, isAbsolute_join, pieces_join p relative, way_eq p, way_eq q, relative]
  simp

/-- Where a relative path leads from a directory. -/
theorem locate_of_relative (dir : Path) (relative : q.isAbsolute = false) :
    dir.locate q = q.way.foldl Location.step dir.normalize := by
  rw [locate, relative, if_neg (by decide), normalize_eq_foldl_way, way_join dir relative,
    List.foldl_append, ← normalize_eq_foldl_way]

/-! ### Steps written as a path -/

theorem way_of_up : (⟨Component.up.text⟩ : Path).way = [.up] := by decide

theorem way_of_name (n : Name) : (⟨n.text⟩ : Path).way = [.name n] := by
  rw [way_eq, n.isAbsolute_text, Text.split_of_notMem n.notMem_slash]
  simp

/-- Steps that do not begin again are written as a path that goes on with them. -/
theorem way_foldl_join (noRoot : .root ∉ steps) (noHere : .here ∉ steps) (p : Path) :
    (steps.foldl (fun p step => p.join ⟨step.text⟩) p).way = p.way ++ steps ∧
      (steps.foldl (fun p step => p.join ⟨step.text⟩) p).isAbsolute = p.isAbsolute := by
  induction steps generalizing p with
  | nil => simp
  | cons step steps ih =>
    simp only [List.mem_cons, not_or] at noRoot noHere
    have one : (⟨step.text⟩ : Path).way = [step] ∧ (⟨step.text⟩ : Path).isAbsolute = false := by
      cases step with
      | root => exact absurd rfl noRoot.1
      | here => exact absurd rfl noHere.1
      | up => exact ⟨way_of_up, rfl⟩
      | name n => exact ⟨way_of_name n, n.isAbsolute_text⟩
    obtain ⟨onwards, absolute⟩ := ih noRoot.2 noHere.2 (p.join ⟨step.text⟩)
    rw [List.foldl_cons, onwards, absolute, way_join p one.2, one.1, isAbsolute_join, one.2]
    simp

theorem way_ofComponents (noRoot : .root ∉ steps) (noHere : .here ∉ steps) :
    (ofComponents steps).way = steps ∧ (ofComponents steps).isAbsolute = false := by
  obtain ⟨way, absolute⟩ := way_foldl_join noRoot noHere ⟨[]⟩
  exact ⟨way, absolute⟩

/-- A step to the root forgets the steps before it. -/
theorem ofComponents_root (steps : List Component) (names : List Name) :
    ofComponents (steps ++ .root :: names.map .name) = (⟨true, names⟩ : Location).toPath := by
  have root : ∀ p : Path, p.join ⟨Component.root.text⟩ = (⟨true, []⟩ : Location).toPath := by
    intro p
    rfl
  rw [ofComponents, List.foldl_append, List.foldl_cons, root, Location.foldl_join_names]
  simp

end Path

/-! ### Going up -/

namespace Location

/-- The location some levels further up, but never above the root. -/
def above (l : Location) (n : Nat) : Location := ⟨l.rooted, l.names.take (l.names.length - n)⟩

@[simp]
theorem above_zero (l : Location) : l.above 0 = l := by simp [above]

theorem foldl_step_up (l : Location) (n : Nat) :
    (List.replicate n Component.up).foldl step l = l.above n := by
  induction n generalizing l with
  | zero => simp
  | succ n ih =>
    rw [List.replicate_succ, List.foldl_cons, ih]
    have names : l.names.dropLast.take (l.names.length - 1 - n) =
        l.names.take (l.names.length - (n + 1)) := by
      rw [List.dropLast_eq_take, List.take_take]
      congr 1
      omega
    simp [above, step, names]

theorem foldl_step_climb (l : Location) (n : Nat) (names : List Name) :
    (List.replicate n Component.up ++ names.map Component.name).foldl step l =
      ⟨l.rooted, (l.above n).names ++ names⟩ := by
  rw [List.foldl_append, foldl_step_up, foldl_step_names]
  rfl

end Location

/-! ### From a directory to a location -/

namespace Path

variable {base : Path} {target : Location}

theorem way_of_rooted (rooted : target.rooted = true) :
    target.toPath.way = .root :: target.names.map .name := by
  rw [way_toPath, Location.components, rooted]
  rfl

/-- A canonical path has the way of its location, however it is spelled. -/
theorem way_of_isCanonical (canonical : base.IsCanonical) :
    base.way = base.normalize.components := by
  rw [← way_toPath, way, way, canonical.components_eq, Location.components_toPath]

/-- The steps to a path are made of what the two ways do not share. -/
theorem relativeSteps_eq (base p : Path) :
    relativeSteps base p = List.replicate (dropCommon base.way p.way).1.length .up ++
      (dropCommon base.way p.way).2 := rfl

/-- So two spellings of a path are seen alike. -/
theorem relative_congr (base : Path) {p q : Path} (same : p.way = q.way) :
    base.relative p = base.relative q := by
  rw [relative, relative, relativeSteps_eq, relativeSteps_eq, same]

/-- A canonical path is seen as its location is. -/
theorem relative_of_isCanonical (base : Path) {p : Path} (canonical : p.IsCanonical) :
    base.relative p = base.relative p.normalize := by
  apply relative_congr
  rw [way_of_isCanonical canonical, way_toPath]

/-- From an absolute directory the steps lead up out of what is not shared, and then down names
that are left of the location. -/
theorem relativeSteps_of_isAbsolute (absolute : base.isAbsolute = true)
    (rooted : target.rooted = true) :
    ∃ (shared : List Name) (out : List Component) (down : List Name),
      base.way = .root :: shared.map .name ++ out ∧ target.names = shared ++ down ∧
      relativeSteps base target = List.replicate out.length .up ++ down.map .name := by
  obtain ⟨inside, begins⟩ : ∃ inside, base.way = .root :: inside := by
    rw [way_eq, absolute]
    exact ⟨_, rfl⟩
  -- Both begin at the root, and behind it the location has only names.
  obtain ⟨common, source, names⟩ := dropCommon_spec inside (target.names.map .name)
  obtain ⟨shared, down, split, rfl, left⟩ := List.map_eq_append_iff.1 names
  refine ⟨shared, (dropCommon inside (target.names.map .name)).1, down, ?_, split, ?_⟩
  · rw [begins, List.cons_append, ← source]
  · rw [relativeSteps_eq, begins, way_of_rooted rooted, dropCommon, if_pos rfl, left]

/-- From a relative directory no step is shared with a location from the root, and the path of the
location is written in full. -/
theorem relative_of_not_isAbsolute (relative : base.isAbsolute = false)
    (rooted : target.rooted = true) : base.relative target = target.toPath := by
  have noRoot : .root ∉ base.way := by
    intro member
    have absolute := root_mem_components.1 (List.mem_filter.1 member).1
    rw [relative] at absolute
    cases absolute
  have apart : dropCommon base.way target.toPath.way = (base.way, target.toPath.way) := by
    rw [way_of_rooted rooted]
    cases begins : base.way with
    | nil => rfl
    | cons step rest =>
      have other : step ≠ .root := by
        rintro rfl
        exact noRoot (begins ▸ List.mem_cons_self)
      rw [dropCommon, if_neg other]
  rw [Path.relative, relativeSteps_eq, apart, way_of_rooted rooted, ofComponents_root, ← rooted]

/-- How many steps lead up on the way from a directory to a path. -/
def climb (base p : Path) : Nat := (relativeSteps base p).count .up

/-- How many steps lead down on the way from a directory to a path. -/
def descent (base p : Path) : Nat := (relativeSteps base p).countP (· ≠ .up)

theorem count_up (n : Nat) (names : List Name) :
    (List.replicate n Component.up ++ names.map Component.name).count .up = n := by
  have none : (names.map Component.name).count .up = 0 := List.count_eq_zero.2 (by simp)
  rw [List.count_append, List.count_replicate_self, none, Nat.add_zero]

theorem countP_down (n : Nat) (names : List Name) :
    (List.replicate n Component.up ++ names.map Component.name).countP (· ≠ .up) =
      names.length := by
  rw [List.countP_append, List.countP_map]
  simp [List.countP_replicate]

/-- Where the path of a location from an absolute directory leads to the location: from every
directory that comes to the same place by as many steps up. -/
theorem locate_relative_iff (absolute : base.isAbsolute = true) (rooted : target.rooted = true)
    (dir : Path) :
    dir.locate (base.relative target) = target ↔
      dir.normalize.above (base.climb target) = target.above (base.descent target) := by
  obtain ⟨shared, out, down, _, reached, steps⟩ := relativeSteps_of_isAbsolute absolute rooted
  have noRoot : .root ∉ relativeSteps base target := by simp [steps]
  have noHere : .here ∉ relativeSteps base target := by simp [steps]
  obtain ⟨way, relative⟩ := way_ofComponents noRoot noHere
  have place : dir.locate (base.relative target) =
      ⟨dir.normalize.rooted, (dir.normalize.above out.length).names ++ down⟩ := by
    rw [Path.relative, locate_of_relative dir relative, way, steps, Location.foldl_step_climb]
  have start : target.above down.length = ⟨true, shared⟩ := by
    simp [Location.above, rooted, reached]
  have whole : target = ⟨true, shared ++ down⟩ := by rw [← rooted, ← reached]
  rw [place, climb, descent, steps, count_up, countP_down, start, whole]
  simp [Location.above]

/-- Up out of a canonical directory the way leads to the place from which it leads down. -/
theorem above_climb (canonical : base.IsCanonical) (rooted : target.rooted = true) :
    base.normalize.above (base.climb target) = target.above (base.descent target) := by
  obtain ⟨shared, out, down, source, reached, steps⟩ :=
    relativeSteps_of_isAbsolute canonical.isAbsolute rooted
  have parts : base.normalize.names.map Component.name = shared.map .name ++ out := by
    rw [way_of_isCanonical canonical, ← way_toPath, way_of_rooted canonical.rooted] at source
    exact (List.cons.inj source).2
  -- What is left of the directory are names too.
  obtain ⟨first, left, split, begins, rfl⟩ := List.map_eq_append_iff.1 parts
  have same : first = shared := (List.map_inj_right fun _ _ => Component.name.inj).1 begins
  rw [climb, descent, steps, count_up, countP_down]
  simp [Location.above, canonical.isAbsolute, rooted, reached, split, same]

/-- From a canonical directory, the path of a location leads to the location. -/
theorem locate_relative (canonical : base.IsCanonical) (rooted : target.rooted = true) :
    base.locate (base.relative target) = target :=
  (locate_relative_iff canonical.isAbsolute rooted base).2 (above_climb canonical rooted)

theorem dropCommon_append (common a : List Component) :
    dropCommon common (common ++ a) = ([], a) := by
  induction common with
  | nil => cases a <;> rfl
  | cons step common ih => rw [List.cons_append, dropCommon, if_pos rfl, ih]

/-- Nothing leads up on the way to a location below the directory. -/
theorem climb_of_isUnder (canonical : base.IsCanonical)
    (below : target.isUnder base.normalize = true) : base.climb target = 0 := by
  obtain ⟨down, continued⟩ := List.isPrefixOf_iff_prefix.1 below
  have beside : dropCommon base.way target.toPath.way = ([], down) := by
    rw [way_of_isCanonical canonical, way_toPath, ← continued, dropCommon_append]
  have names : .up ∉ down := by
    intro member
    exact target.up_notMem_components (continued ▸ List.mem_append_right _ member)
  rw [climb, relativeSteps_eq, beside]
  exact List.count_eq_zero.2 (by simpa using names)

/-! ### Parents -/

/-- What is trimmed off pieces are no steps. -/
theorem filterMap_trimPieces (pieces : List Text) :
    (trimPieces pieces).filterMap Component.ofPiece? = pieces.filterMap Component.ofPiece? := by
  have trimmed : pieces = trimPieces pieces ++
      (pieces.reverse.takeWhile fun piece => piece = [] || piece = ['.']).reverse := by
    rw [trimPieces, ← List.reverse_append, List.takeWhile_append_dropWhile, List.reverse_reverse]
  have nothing : (pieces.reverse.takeWhile fun piece =>
      piece = [] || piece = ['.']).reverse.filterMap Component.ofPiece? = [] := by
    rw [List.filterMap_eq_nil_iff]
    intro piece member
    have empty := List.all_eq_true.1 List.all_takeWhile piece (List.mem_reverse.1 member)
    simp only [Bool.or_eq_true, decide_eq_true_eq] at empty
    rcases empty with rfl | rfl <;> decide
  calc (trimPieces pieces).filterMap Component.ofPiece?
    _ = (trimPieces pieces ++ (pieces.reverse.takeWhile fun piece =>
          piece = [] || piece = ['.']).reverse).filterMap Component.ofPiece? := by
      rw [List.filterMap_append, nothing, List.append_nil]
    _ = pieces.filterMap Component.ofPiece? := by rw [← trimmed]

theorem last_of_trimPieces {pieces front : List Text} {last : Text}
    (trimmed : trimPieces pieces = front ++ [last]) : last ≠ [] ∧ last ≠ ['.'] := by
  have first : (pieces.reverse.dropWhile fun piece => piece = [] || piece = ['.']) =
      last :: front.reverse := by
    rw [← List.reverse_reverse (List.dropWhile _ _), ← trimPieces, trimmed]
    simp
  have kept := List.head?_dropWhile_not (fun piece : Text => piece = [] || piece = ['.'])
    pieces.reverse
  rw [first] at kept
  simpa using kept

theorem mem_of_mem_trimPieces {pieces : List Text} {piece : Text}
    (member : piece ∈ trimPieces pieces) : piece ∈ pieces := by
  rw [trimPieces, List.mem_reverse] at member
  exact List.mem_reverse.1 ((List.dropWhile_sublist _).subset member)

/-- The way of trimmed pieces behind the root. -/
theorem way_of_trimPieces {pieces : List Text} (free : ∀ piece ∈ pieces, '/' ∉ piece) :
    (⟨'/' :: Text.join ['/'] (trimPieces pieces)⟩ : Path).way =
      .root :: pieces.filterMap Component.ofPiece? := by
  rw [← filterMap_trimPieces, way_eq, isAbsolute]
  cases trimmed : trimPieces pieces with
  | nil => simp [Text.join, Text.split]
  | cons piece rest =>
    have found : Text.split '/' (Text.join ['/'] (piece :: rest)) = piece :: rest := by
      apply Text.split_join (by simp)
      intro other member
      exact free other (mem_of_mem_trimPieces (trimmed ▸ member))
    simp [Text.split, found]

theorem exists_ofPiece? {piece : Text} (slashless : '/' ∉ piece) (nonempty : piece ≠ [])
    (moves : piece ≠ ['.']) : ∃ step, Component.ofPiece? piece = some step := by
  unfold Component.ofPiece?
  split
  · exact ⟨_, rfl⟩
  · rename_i other
    have valid : isName piece = true := by simp [isName, slashless, nonempty, moves, other]
    exact ⟨_, dif_pos valid⟩

/-- The parent of an absolute path that ends in a name has the way of the path up to that name. -/
theorem exists_parent? {p : Path} {before : List Component} {n : Name}
    (absolute : p.isAbsolute = true) (ends : p.way = before ++ [.name n]) :
    ∃ dir, p.parent? = some dir ∧ dir.way = before := by
  obtain ⟨text⟩ := p
  obtain ⟨rest, rfl⟩ : ∃ rest, text = '/' :: rest := by
    rw [isAbsolute, decide_eq_true_eq] at absolute
    exact List.head?_eq_some_iff.1 absolute
  have free := Text.mark_notMem_split '/' rest
  have way : (⟨'/' :: rest⟩ : Path).way =
      .root :: (trimPieces (Text.split '/' rest)).filterMap Component.ofPiece? := by
    rw [way_eq, isAbsolute, filterMap_trimPieces]
    simp [Text.split]
  rcases List.eq_nil_or_concat (trimPieces (Text.split '/' rest)) with
    empty | ⟨front, last, trimmed⟩
  · rw [way, empty] at ends
    have last := congrArg List.getLast? ends
    simp at last
  · rw [List.concat_eq_append] at trimmed
    obtain ⟨nonempty, moves⟩ := last_of_trimPieces trimmed
    have inside : ∀ piece ∈ front ++ [last], '/' ∉ piece := fun piece member =>
      free piece (mem_of_mem_trimPieces (trimmed ▸ member))
    obtain ⟨step, read⟩ := exists_ofPiece? (inside last (by simp)) nonempty moves
    refine ⟨⟨'/' :: Text.join ['/'] (trimPieces front)⟩, ?_, ?_⟩
    · simp [parent?, trimmed]
    · rw [way_of_trimPieces fun piece member => inside piece (by simp [member])]
      rw [way, trimmed] at ends
      have parts : (.root :: front.filterMap Component.ofPiece?) ++ [step] =
          before ++ [.name n] := by
        simpa [read] using ends
      exact (List.append_inj' parts rfl).1

end Path
end TypingBundle
