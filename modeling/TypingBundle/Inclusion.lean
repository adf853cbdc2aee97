import TypingBundle.Exports

/-!
Which of the parsed files make up the bundle. From the main file on, relative imports are followed,
and imports by name where externals are taken in, unless the filter leaves the target out.
-/

namespace TypingBundle

/-- Something a bundle depends on without containing it. -/
inductive Dependency where
  /-- The file that declares an imported module. -/
  | file (path : Path)
  /-- A module that no parsed file declares. -/
  | unresolved (name : Text)
deriving DecidableEq

namespace Dependency

/-- The dependency as it is listed. -/
def display (settings : Settings) : Dependency → Text
  | file path => settings.displayPath path
  | unresolved name => name

end Dependency

/-- What becomes of an import of a file in the bundle. -/
inductive Edge where
  /-- An import by name that is left out because externals are. -/
  | externalOmitted (name : Text) (dependency : Dependency)
  /-- An import by name that no file declares. -/
  | externalUndeclared (name : Text)
  | externalExcluded (name : Text) (owner : Location)
  | externalFollowed (name : Text) (owner : Location)
  | relativeExcluded (file : Location)
  | relativeFollowed (file : Location)
deriving DecidableEq

namespace Edge

/-- The file that comes into the bundle by an edge. -/
def followed? : Edge → Option Location
  | externalFollowed _ owner => some owner
  | relativeFollowed file => some file
  | _ => none

/-- The file that is kept out by the filter. -/
def excluded? : Edge → Option Location
  | externalExcluded _ owner => some owner
  | relativeExcluded file => some file
  | _ => none

/-- The dependency that an edge leaves. -/
def dependency? : Edge → Option Dependency
  | externalOmitted _ dependency => some dependency
  | externalUndeclared name => some (.unresolved name)
  | _ => none

/-- The edge of an import by name. -/
def ofExternal (settings : Settings) (exports : Exports) (name : Text) : Edge :=
  match settings.externals, exports.owner? name with
  | false, some owner => externalOmitted name (.file owner)
  | false, none => externalOmitted name (.unresolved name)
  | true, none => externalUndeclared name
  | true, some owner =>
    if settings.exclude.leavesOut (settings.displayPath owner) true then externalExcluded name owner
    else externalFollowed name owner

/-- The edge of a relative import. -/
def ofRelative (settings : Settings) (file : Location) : Edge :=
  if settings.exclude.leavesOut (settings.displayPath file) false then relativeExcluded file
  else relativeFollowed file

/-- The edges of a file, imports by name first. -/
def ofRecord (settings : Settings) (exports : Exports) (record : Record) : List Edge :=
  record.externalImports.map (ofExternal settings exports) ++
    record.relativeImports.map (ofRelative settings)

end Edge

/-- The make-up of a bundle. -/
structure Inclusion where
  /-- The files of the bundle in their order. -/
  used : List Location
  /-- Files kept out by the filter. -/
  excluded : List Location
  dependencies : List Dependency

namespace Inclusion

/-- Whether a file is in the bundle. -/
def isUsed (i : Inclusion) (l : Location) : Bool := l ∈ i.used

/-- The edges out of a parsed file. -/
def edgesAt (settings : Settings) (registry : Registry) (exports : Exports) (l : Location) :
    List Edge :=
  match registry.get? l with
  | some record => Edge.ofRecord settings exports record
  | none => []

/-- The files of the bundle. -/
def usedFiles (settings : Settings) (registry : Registry) (exports : Exports) : List Location :=
  (Graph.traverse registry.locations
    (fun l => (edgesAt settings registry exports l).filterMap Edge.followed?)
    Graph.enqueueAll [] [registry.main]).filter fun l => (registry.get? l).isSome

/-- The make-up of a bundle with the given files. -/
def ofUsed (settings : Settings) (registry : Registry) (exports : Exports)
    (used : List Location) : Inclusion :=
  let edges := used.flatMap (edgesAt settings registry exports)
  ⟨used, (edges.filterMap Edge.excluded?).eraseDups, (edges.filterMap Edge.dependency?).eraseDups⟩

/-- The make-up of the bundle of a registry. -/
def resolve (settings : Settings) (registry : Registry) (exports : Exports) : Inclusion :=
  ofUsed settings registry exports (usedFiles settings registry exports)

end Inclusion
end TypingBundle
