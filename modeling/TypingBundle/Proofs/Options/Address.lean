import TypingBundle.Proofs.Inclusion
import TypingBundle.Proofs.Options.Naming
import TypingBundle.Proofs.Path.OneLine
import TypingBundle.Proofs.Path.Way

/-!
Names by position as addresses. The name of a file by its position is its path from the base
directory without the ending of declaration files. Read in that directory, and with the ending put
behind it, the name leads to the file again, wherever the file is.

Main statement: `moduleName_addresses`.
-/

namespace TypingBundle

/-- A file whose name by position is an address: a declaration file, given by a canonical path
without backslashes, with something before the ending of its name that is neither `.` nor `..`. -/
structure Path.IsAddressable (file : Path) : Prop where
  canonical : file.IsCanonical
  straight : '\\' ∉ file.text
  stem : ∃ stem, file.fileName? = some (stem ++ declarationEnding) ∧
    stem ≠ [] ∧ stem ≠ ['.'] ∧ stem ≠ ['.', '.']

/-- Behind a written location, the ending of declaration files ends its last name. -/
theorem Location.addDeclarationEnding_toPath_child (dir : Location) (n : Name) :
    (dir.child n).toPath.addDeclarationEnding = (dir.child n.addDeclarationEnding).toPath := by
  rw [← join_toPath, ← join_toPath]
  simp only [Path.join, Path.addDeclarationEnding, Name.isAbsolute_text, Bool.false_eq_true,
    if_false]
  split <;> simp [Name.addDeclarationEnding]

theorem Location.fileName?_toPath (l : Location) :
    l.toPath.fileName? = l.names.getLast?.map Name.text := by
  obtain ⟨rooted, names⟩ := l
  rcases List.eq_nil_or_concat names with rfl | ⟨before, n, rfl⟩
  · cases rooted <;> rfl
  · simp [Path.fileName?, components]

theorem Location.components_child (dir : Location) (n : Name) :
    (dir.child n).components = dir.components ++ [.name n] := by
  obtain ⟨rooted, names⟩ := dir
  cases rooted <;> simp [components, child]

namespace Path

variable {file : Path}

/-- What an addressable file is without its ending: a name in the same directory. -/
theorem IsAddressable.exists_stem (addressable : file.IsAddressable) :
    ∃ (dir : Location) (n : Name), dir.rooted = true ∧
      file.normalize = dir.child n.addDeclarationEnding ∧
      file.dropDeclarationEnding.way = (dir.child n).components ∧ '\\' ∉ (dir.child n).text := by
  obtain ⟨canonical, straight, stem, named, nonempty, undotted, notUp⟩ := addressable
  have last : file.normalize.names.getLast?.map Name.text = some (stem ++ declarationEnding) := by
    rw [← Location.fileName?_toPath, ← named, fileName?, fileName?, Location.components_toPath,
      canonical.components_eq]
  obtain ⟨m, ends, written⟩ := Option.map_eq_some_iff.1 last
  have slashless : '/' ∉ stem := fun slash =>
    m.notMem_slash (written ▸ List.mem_append_left _ slash)
  have valid : isName stem = true := by simp [isName, slashless, nonempty, undotted, notUp]
  have whole : m = Name.addDeclarationEnding ⟨stem, valid⟩ := by
    cases m
    simpa [Name.addDeclarationEnding] using written
  have child := Location.eq_child_of_getLast? ends
  rw [whole] at child
  generalize (⟨file.normalize.rooted, file.normalize.names.dropLast⟩ : Location) = dir at child
  refine ⟨dir, ⟨stem, valid⟩, ?_, child, ?_, ?_⟩
  · have rooted := canonical.rooted
    rwa [child] at rooted
  · have way : file.way = dir.components ++ [.name (Name.addDeclarationEnding ⟨stem, valid⟩)] := by
      rw [way_of_isCanonical canonical, child, Location.components_child]
    obtain ⟨parent, found, onwards⟩ := exists_parent? canonical.isAbsolute way
    have dropped : Text.dropEnd? declarationEnding (stem ++ declarationEnding) = some stem :=
      Text.dropEnd?_eq_some_iff.2 rfl
    rw [dropDeclarationEnding, named, Option.bind_some, dropped]
    simp only [withFileName, named, found, Option.isSome_some, if_true, Option.getD_some]
    rw [way_join parent (Name.isAbsolute_text ⟨stem, valid⟩), way_of_name ⟨stem, valid⟩, onwards,
      Location.components_child]
  · have free : ∀ n ∈ file.normalize.names, '\\' ∉ n.text := by
      intro n member slash
      have listed : .name n ∈ file.components := by
        rw [canonical.components_eq, Location.components]
        exact List.mem_append_right _ (List.mem_map_of_mem member)
      exact straight ((infix_of_mem_components listed).subset slash)
    rw [child] at free
    rw [Location.notMem_text_iff (by decide)]
    intro n member
    rcases List.mem_append.1 member with before | final
    · exact free n (List.mem_append_left _ before)
    · have old := free (Name.addDeclarationEnding ⟨stem, valid⟩)
        (List.mem_append_right _ List.mem_cons_self)
      rw [List.mem_singleton.1 final]
      exact fun slash => old (List.mem_append_left _ slash)

/-- A path without backslashes is seen with the slashes that it has. -/
theorem slashed_relative (base : Path) (straight : '\\' ∉ file.text) :
    (base.relative file).slashed = (base.relative file).text :=
  Text.replaceChar_of_notMem (notMem_relative (by decide) base straight)

end Path

/-- Read in the base directory, the name of a file by its position leads to its stem, and with the
ending of declaration files to the file. -/
theorem Settings.addDeclarationEnding_locate_moduleName {s : Settings}
    (base : s.baseDir.IsCanonical) {file : Path} (addressable : file.IsAddressable) :
    (s.baseDir.locate ⟨s.moduleName file⟩).toPath.addDeclarationEnding = file.normalize.toPath := by
  obtain ⟨dir, n, rooted, child, way, straight⟩ := addressable.exists_stem
  have seen : s.baseDir.relative file.dropDeclarationEnding = s.baseDir.relative (dir.child n) :=
    Path.relative_congr _ (way.trans (Path.way_toPath _).symm)
  have unslashed : '\\' ∉ (dir.child n).toPath.text := straight
  have named : s.moduleName file = (s.baseDir.relative (dir.child n)).text := by
    rw [moduleName, seen, Path.slashed_relative s.baseDir unslashed]
  have stem : s.baseDir.locate (s.baseDir.relative (dir.child n)) = dir.child n :=
    Path.locate_relative base rooted
  rw [named, stem, Location.addDeclarationEnding_toPath_child, child]

/-- The name of a file by its position is its address: from the base directory it leads, with the
ending of declaration files behind it, to the file. So no two such files have one name. -/
theorem moduleName_addresses (s : Settings) (base : s.baseDir.IsCanonical) (file : Path)
    (addressable : file.IsAddressable) :
    (s.baseDir.locate ⟨s.moduleName file⟩).toPath.addDeclarationEnding.same file = true ∧
      ∀ other : Path, other.IsAddressable → s.moduleName other = s.moduleName file →
        other.same file = true := by
  have leads := Settings.addDeclarationEnding_locate_moduleName base addressable
  refine ⟨?_, ?_⟩
  · rw [leads, Path.same, Location.components_toPath, addressable.canonical.components_eq]
    exact decide_eq_true rfl
  · intro other addressable' same
    have leads' := Settings.addDeclarationEnding_locate_moduleName base addressable'
    have places : file.normalize.toPath = other.normalize.toPath := by rw [← leads, ← leads', same]
    rw [Path.same, addressable.canonical.components_eq, addressable'.canonical.components_eq,
      ← Location.components_toPath, ← Location.components_toPath, places]
    exact decide_eq_true rfl

/-! ### Files beside and outside the base directory -/

namespace Addressed

def settings : Settings := { Sample.settings with baseDir := Path.ofString "/p/s/" }

/-- A file whose stem is the base directory. -/
def beside : Path := Path.ofString "/p/s.d.ts"

/-- A file outside, in an unusual spelling. -/
def outside : Path := Path.ofString "/q//.../a.b.d.ts"

theorem isCanonical_baseDir : settings.baseDir.IsCanonical := ⟨by decide, by decide⟩

theorem isAddressable_beside : beside.IsAddressable :=
  ⟨⟨by decide, by decide⟩, by decide, ['s'], by decide⟩

theorem isAddressable_outside : outside.IsAddressable :=
  ⟨⟨by decide, by decide⟩, by decide, "a.b".toList, by decide⟩

end Addressed

theorem moduleName_addresses_sample :
    Addressed.settings.baseDir.IsCanonical ∧ Addressed.beside.IsAddressable ∧
      Addressed.outside.IsAddressable ∧
      Addressed.settings.moduleName Addressed.beside = [] ∧
      Addressed.settings.moduleName Addressed.outside = "../../q/.../a.b".toList ∧
      (Addressed.settings.baseDir.locate ⟨[]⟩).toPath.addDeclarationEnding.same
        Addressed.beside = true ∧
      (Addressed.settings.baseDir.locate
        ⟨"../../q/.../a.b".toList⟩).toPath.addDeclarationEnding.same Addressed.outside = true := by
  have empty : Addressed.settings.moduleName Addressed.beside = [] := by decide
  have climbs : Addressed.settings.moduleName Addressed.outside = "../../q/.../a.b".toList := by
    decide
  have inside := moduleName_addresses Addressed.settings Addressed.isCanonical_baseDir
    Addressed.beside Addressed.isAddressable_beside
  have out := moduleName_addresses Addressed.settings Addressed.isCanonical_baseDir
    Addressed.outside Addressed.isAddressable_outside
  rw [empty] at inside
  rw [climbs] at out
  exact ⟨Addressed.isCanonical_baseDir, Addressed.isAddressable_beside,
    Addressed.isAddressable_outside, empty, climbs, inside.1, out.1⟩

end TypingBundle
