import TypingBundle.Proofs.Bundle.Turns
import TypingBundle.Proofs.Options.Resolve
import TypingBundle.Proofs.Path.Canonical
import TypingBundle.Proofs.Record.Lines

/-!
The identities of files. All places that settings give and all files that a walk comes upon are
canonical paths, and so no file is parsed twice under two names.

Main statement: `isCanonical_of_resolve`.
-/

namespace TypingBundle

/-! ### Settings -/

/-- The places that settings give. -/
def Settings.places (settings : Settings) : List Path :=
  [settings.mainFile.toPath, settings.baseDir, settings.outFile.toPath] ++
    match settings.header with
    | .file l => [l.toPath]
    | _ => []

namespace Options.Resolved

variable {options : Options} {cwd : Path} {settings : Settings}

theorem rooted_mainFile (resolved : Resolved options cwd settings) (absolute : cwd.isAbsolute = true) :
    settings.mainFile.rooted = true := by
  obtain ⟨main, _, located⟩ := resolved.mainFile
  rw [located, Path.rooted_locate, absolute, Bool.true_or]

theorem isCanonical_baseDir (resolved : Resolved options cwd settings)
    (canonical : cwd.IsCanonical) : settings.baseDir.IsCanonical := by
  have rooted := resolved.rooted_mainFile canonical.isAbsolute
  rw [resolved.baseDir, Options.baseDirOf.eq_def]
  split
  · apply Location.isCanonical_toPath
    rw [Path.rooted_locate, canonical.isAbsolute, Bool.true_or]
  · cases inside : settings.mainFile.parent? with
    | none => exact canonical
    | some dir =>
      apply Location.isCanonical_toPath
      rw [Location.rooted_of_parent? inside, rooted]

theorem rooted_outFile (resolved : Resolved options cwd settings) (canonical : cwd.IsCanonical) :
    settings.outFile.rooted = true := by
  have base := (resolved.isCanonical_baseDir canonical).isAbsolute
  obtain ⟨out, written⟩ := resolved.outFile
  rw [written, Options.outFile]
  split
  · rw [Path.rooted_locate, canonical.isAbsolute, Bool.true_or]
  · rw [Path.rooted_normalize, Path.isAbsolute_join, base, Bool.true_or]

theorem rooted_header (resolved : Resolved options cwd settings) (canonical : cwd.IsCanonical)
    {l : Location} (header : settings.header = .file l) : l.rooted = true := by
  rw [resolved.header] at header
  unfold Header.ofOptions at header
  split at header
  · split at header
    · cases header
    · cases header
      rw [Path.rooted_locate, canonical.isAbsolute, Bool.true_or]
  · cases header
  · cases header

theorem isCanonical_places (resolved : Resolved options cwd settings) (canonical : cwd.IsCanonical) :
    ∀ place ∈ settings.places, place.IsCanonical := by
  intro place member
  rcases List.mem_append.1 member with required | header
  · simp only [List.mem_cons, List.not_mem_nil, or_false] at required
    rcases required with rfl | rfl | rfl
    · exact Location.isCanonical_toPath (resolved.rooted_mainFile canonical.isAbsolute)
    · exact resolved.isCanonical_baseDir canonical
    · exact Location.isCanonical_toPath (resolved.rooted_outFile canonical)
  · split at header
    · rename_i l given
      rw [List.mem_singleton.1 header]
      exact Location.isCanonical_toPath (resolved.rooted_header canonical given)
    · cases header

end Options.Resolved

/-! ### Walks -/

/-- The places of a registry: its files and all that they name. -/
def Registry.places (registry : Registry) : List Path :=
  registry.records.flatMap fun entry =>
    [entry.1.toPath, entry.2.path] ++ entry.2.successors.map Location.toPath

theorem Record.Leads.rooted {dir : Path} {target : Location} (leads : Record.Leads dir target)
    (absolute : dir.isAbsolute = true) : target.rooted = true := by
  cases leads with
  | reference => rw [Path.rooted_locate, absolute, Bool.true_or]
  | file => rw [Location.rooted_addDeclarationEnding, Path.rooted_locate, absolute, Bool.true_or]
  | index => rw [Location.child, Path.rooted_locate, absolute, Bool.true_or]

namespace Registry

variable {σ : Type} [FileStore σ] {store : σ} {settings : Settings} {sources : Sources}
  {l m : Location} {n : Nat}

/-- A location that names another one has a file. -/
theorem mem_files_of_names (names : Names store settings sources l m) :
    l ∈ FileStore.files store := by
  by_contra absent
  rw [← edgeOf_successors, Graph.edgeOf, successors_of_notMem absent] at names
  cases names

/-- One step of a walk: from a file that is not the root itself, names lead to places from the
root. -/
theorem rooted_of_names (noRoot : (⟨true, []⟩ : Location) ∉ FileStore.files store)
    (names : Names store settings sources l m) (rooted : l.rooted = true) : m.rooted = true := by
  have present := mem_files_of_names names
  have named : l.names ≠ [] := by
    intro none
    have same : l = ⟨true, []⟩ := by
      rw [← rooted, ← none]
    exact noRoot (same ▸ present)
  obtain ⟨record, parsed, listed⟩ := names
  have leads := Record.leads_of_mem_successors parsed (List.mem_append.2 listed)
  apply leads.rooted
  rw [Record.directory_toPath, if_neg named, Location.isAbsolute_toPath, rooted]

theorem rooted_of_reaches (noRoot : (⟨true, []⟩ : Location) ∉ FileStore.files store)
    (rooted : settings.mainFile.rooted = true)
    (reached : Graph.Reaches (Names store settings sources) settings.mainFile n l) :
    l.rooted = true := by
  induction reached with
  | start => exact rooted
  | step _ names ih => exact rooted_of_names noRoot names ih

/-- All places of a walk begin at the root, if the main file does. -/
theorem Walked.isCanonical_places {registry : Registry}
    (walked : Walked store settings sources registry)
    (noRoot : (⟨true, []⟩ : Location) ∉ FileStore.files store)
    (rooted : settings.mainFile.rooted = true) : ∀ place ∈ registry.places, place.IsCanonical := by
  intro place member
  obtain ⟨⟨l, record⟩, listed, member⟩ := List.mem_flatMap.1 member
  have parsed := walked.parsed _ listed
  have found : l ∈ registry.locations := List.mem_map_of_mem listed
  obtain ⟨n, reached⟩ := (walked.breadthFirst.mem_iff l).1 found
  rw [walked.main] at reached
  have key : l.rooted = true := rooted_of_reaches noRoot rooted reached
  rcases List.mem_append.1 member with own | named
  · rw [Record.path_of_parse parsed, List.mem_pair] at own
    rcases own with rfl | rfl <;> exact Location.isCanonical_toPath key
  · obtain ⟨m, successor, rfl⟩ := List.mem_map.1 named
    exact Location.isCanonical_toPath
      (rooted_of_names noRoot ⟨record, parsed, List.mem_append.1 successor⟩ key)

end Registry

/-- From a canonical working directory, all places that options come down to and all files that a
walk through memory comes upon are canonical: from the root, and without a step that stays or goes
up. No two records are of the same file in memory. -/
theorem isCanonical_of_resolve {options : Options} {cwd : Path} {settings : Settings}
    (store : MemoryStore) (sources : Sources) (canonical : cwd.IsCanonical)
    (resolved : options.resolve cwd = .ok settings) (noRoot : store.textAt? ⟨true, []⟩ = none) :
    ∃ registry, Registry.walk store settings sources = .ok registry ∧
      (∀ place ∈ settings.places ++ registry.places,
        place.IsCanonical ∧ .here ∉ place.components ∧ .up ∉ place.components) ∧
      (registry.records.map fun entry => entry.2.path.normalize).Nodup := by
  obtain ⟨registry, walks⟩ := store.exists_walk settings sources
  have walked := Registry.walked_of_walk walks
  have parts := Options.resolved_of_resolve resolved
  have noFile : (⟨true, []⟩ : Location) ∉ FileStore.files store := by
    intro member
    have present := MemoryStore.mem_locations.1 member
    rw [noRoot] at present
    cases present
  refine ⟨registry, walks, ?_, ?_⟩
  · intro place member
    have found : place.IsCanonical := by
      rcases List.mem_append.1 member with given | walkedTo
      · exact parts.isCanonical_places canonical place given
      · exact walked.isCanonical_places noFile (parts.rooted_mainFile canonical.isAbsolute) place
          walkedTo
    obtain ⟨names, steps⟩ := Path.isCanonical_iff.1 found
    exact ⟨found, by simp [steps], by simp [steps]⟩
  · have keys : registry.records.map (fun entry => entry.2.path.normalize) = registry.locations := by
      apply List.map_congr_left
      intro entry listed
      rw [Record.path_of_parse (walked.parsed entry listed), Location.normalize_toPath]
    rw [keys]
    exact walked.breadthFirst.nodup

/-! ### Files by winding paths -/

namespace Winding

def cwd : Path := Path.ofString "/w/"

def options : Options where
  main := some (Path.ofString "./v/../v//j.d.ts")
  name := some ['l']
  out := some "~/../o.d.ts".toList
  headerPath := some (Path.ofString "../h")

def main : Location := ⟨true, [⟨['w'], rfl⟩, ⟨['v'], rfl⟩, ⟨"j.d.ts".toList, rfl⟩]⟩

/-- A file that is named twice, by two spellings of its path. -/
def other : Location := ⟨true, [⟨['w'], rfl⟩, ⟨['v'], rfl⟩, ⟨"y.d.ts".toList, rfl⟩]⟩

/-- A location that is named by a path which climbs above the root. -/
def above : Location := ⟨true, [⟨"x.d.ts".toList, rfl⟩]⟩

def settings : Settings :=
  { Sample.bareSettings with
    mainFile := main
    baseDir := Path.ofString "/w/v"
    outFile := ⟨true, [⟨"o.d.ts".toList, rfl⟩]⟩
    header := .file ⟨true, [⟨['h'], rfl⟩]⟩ }

theorem resolve_options : options.resolve cwd = .ok settings := rfl

def store : MemoryStore :=
  MemoryStore.ofFiles [
    (main.toPath, Sample.text [
      "/// <reference path=\"../../../../x.d.ts\" />",
      "import a = require('../v/./y');", "import b = require('/w/../w/v/y');"]),
    (other.toPath, [])]

end Winding

theorem isCanonical_of_resolve_winding :
    Winding.cwd.IsCanonical ∧ Winding.store.textAt? ⟨true, []⟩ = none ∧
      Winding.options.resolve Winding.cwd = .ok Winding.settings ∧
      ∃ registry,
        Registry.walk Winding.store Winding.settings
          (Bundle.sources Winding.store Winding.settings) = .ok registry ∧
        registry.locations = [Winding.main, Winding.above, Winding.other] ∧
        (∀ place ∈ Winding.settings.places ++ registry.places, place.IsCanonical) ∧
        (registry.records.map fun entry => entry.2.path.normalize).Nodup := by
  have canonical : Winding.cwd.IsCanonical := ⟨by decide, by decide⟩
  have noRoot : Winding.store.textAt? ⟨true, []⟩ = none := by decide +kernel
  have ends : Registry.turns Winding.store Winding.settings
      (Bundle.sources Winding.store Winding.settings) 3 =
        ([Winding.main, Winding.above, Winding.other], []) := by decide +kernel
  obtain ⟨registry, walks, places, files⟩ := isCanonical_of_resolve Winding.store
    (Bundle.sources Winding.store Winding.settings) canonical Winding.resolve_options noRoot
  refine ⟨canonical, noRoot, Winding.resolve_options, registry, walks, ?_, ?_, files⟩
  · rw [(Registry.walked_of_walk walks).locations, Registry.discovered_of_turns ends]
  · exact fun place member => (places place member).1

end TypingBundle
