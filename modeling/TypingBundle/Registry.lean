import TypingBundle.Graph.Traversal
import TypingBundle.Record.Parse

/-!
All files that the main file leads to, through reference directives and relative imports, with
their records in the order of discovery.
-/

namespace TypingBundle

/-- The parsed files of a run. -/
structure Registry where
  main : Location
  /-- The files in the order of discovery, the main file first. -/
  records : List (Location × Record)
  /-- Files named by reference directives that are not sources. -/
  externalTypings : List Location

namespace Registry

/-- The record of a file. -/
def get? (r : Registry) (l : Location) : Option Record :=
  (r.records.find? fun entry => entry.1 = l).map Prod.snd

/-- The files of the registry. -/
def locations (r : Registry) : List Location := r.records.map Prod.fst

/-- The reference targets of records that are not sources. -/
def externalTypingsOf (sources : Sources) (records : List (Location × Record)) : List Location :=
  (records.flatMap fun entry =>
    entry.2.references.filter fun l => !sources.contains l).eraseDups

/-- Every module that a record declares or imports by name, once and in the order of texts. -/
def moduleNames (r : Registry) : List Text :=
  ((r.records.flatMap fun entry => entry.2.declaredModules ++ entry.2.externalImports).eraseDups)
    |>.mergeSort fun a b => !Text.before b a

variable {σ : Type} [FileStore σ]

/-- The files that a file names; a file that can not be read names none. -/
def successors (store : σ) (settings : Settings) (sources : Sources) (l : Location) :
    List Location :=
  match Record.parse store settings sources l with
  | .ok record => record.successors
  | .error _ => []

/-- The files that the main file leads to, in the order of discovery. -/
def discovered (store : σ) (settings : Settings) (sources : Sources) : List Location :=
  Graph.traverse (FileStore.files store) (successors store settings sources) Graph.enqueueNew []
    [settings.mainFile]

/-- A file with its record. -/
def parseAt (store : σ) (settings : Settings) (sources : Sources) (l : Location) :
    Except BundleError (Location × Record) :=
  (Record.parse store settings sources l).map fun record => (l, record)

/-- The registry of the given files. The first file that can not be read ends the run. -/
def ofFiles (store : σ) (settings : Settings) (sources : Sources) (files : List Location) :
    Except BundleError Registry := do
  let records ← files.mapM (parseAt store settings sources)
  return ⟨settings.mainFile, records, externalTypingsOf sources records⟩

/-- Parses the main file and all it leads to. -/
def walk (store : σ) (settings : Settings) (sources : Sources) : Except BundleError Registry :=
  ofFiles store settings sources (discovered store settings sources)

end Registry
end TypingBundle
