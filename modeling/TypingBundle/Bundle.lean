import TypingBundle.Output

/-!
A run: from options and a store of files to the bundle, and to the store after it was written. All
reading comes first. A run that fails before it writes leaves the store as it is.
-/

namespace TypingBundle

/-- What a run gives. -/
structure Result where
  /-- Whether the bundle was written. -/
  emitted : Bool
  outputPath : Location
  /-- The bundle, also where it was not written. -/
  content : Text
  usedFiles : List Location
  excludedFiles : List Location
  /-- What the bundle depends on, as listed. -/
  externalDependencies : List Text
  /-- Files that are named and do not exist. -/
  missingFiles : List Location
deriving DecidableEq

/-- Everything that is decided before a run writes. -/
structure Plan where
  settings : Settings
  sources : Sources
  registry : Registry
  exports : Exports
  inclusion : Inclusion
  /-- The registry after renaming. -/
  renamed : Registry
  content : Text

namespace Plan

/-- The files of a registry that do not exist. -/
def missing (registry : Registry) : List Location :=
  (registry.records.filter fun (_, record) => !record.fileExists).map Prod.fst

/-- Whether to write: files that are missing may forbid it, those of the bundle and others each
by a setting of their own. -/
def emits (p : Plan) : Bool :=
  let missing := missing p.registry
  !((missing.any p.inclusion.isUsed && !p.settings.emitIfIncludedMissing) ||
    (missing.any (fun l => !p.inclusion.isUsed l) && !p.settings.emitIfOtherMissing))

/-- The result of a plan. -/
def result (p : Plan) : Result where
  emitted := p.emits
  outputPath := p.settings.outFile
  content := p.content
  usedFiles := p.inclusion.used
  excludedFiles := p.inclusion.excluded
  externalDependencies := p.inclusion.dependencies.map (·.display p.settings)
  missingFiles := missing p.registry

end Plan

namespace Bundle

variable {σ : Type} [FileStore σ]

/-- The header of a bundle, if it has one. -/
def header (store : σ) (settings : Settings) : Except BundleError (Option Text) :=
  match settings.header with
  | .generated => .ok (some Header.generatedText)
  | .suppressed => .ok none
  | .text text => .ok (some (Header.comment text))
  | .file l =>
    match FileStore.read store l with
    | .ok text => .ok (some (Header.comment text))
    | .error cause => .error (.header l cause)

/-- The declaration files at or below the base directory. -/
def sources (store : σ) (settings : Settings) : Sources :=
  ⟨(FileStore.declarationFiles store settings.baseDir).map Location.toPath⟩

/-- The plan of a run. -/
def plan (store : σ) (settings : Settings) : Except BundleError Plan := do
  if !FileStore.isFile store settings.mainFile then throw (.mainNotFound settings.mainFile)
  let header ← header store settings
  let sources := sources store settings
  let registry ← Registry.walk store settings sources
  let exports ← Exports.build registry
  let inclusion := Inclusion.resolve settings registry exports
  let renamed := Rename.registry settings exports inclusion registry
  return {
    settings, sources, registry, exports, inclusion, renamed
    content := Output.content settings renamed inclusion header }

/-- The store with the directory of a file, if the file is in one, and the error that stopped it, if
one did. -/
def makeParent (store : σ) (file : Location) : σ × Option BundleError :=
  match file.parent? with
  | none => (store, none)
  | some dir =>
    if FileStore.isPresent store dir then (store, none)
    else
      let (store, stopped) := FileStore.makeDirectories store dir
      (store, stopped.map (.io dir))

/-- Whether a source is to be deleted: the output and what is no file stay. -/
def isRemovable (store : σ) (settings : Settings) (source : Path) : Bool :=
  !source.same settings.outFile && source.isDeclarationFile && FileStore.isFile store source

/-- Deletes sources one after the other. The store comes back also where a deletion fails. -/
def removeSources (settings : Settings) (store : σ) : List Path → σ × Option BundleError
  | [] => (store, none)
  | source :: sources =>
    if isRemovable store settings source then
      match FileStore.remove store source with
      | .ok store => removeSources settings store sources
      | .error cause => (store, some (.io source cause))
    else removeSources settings store sources

/-- Carries out a plan: the store after it, and the error that stopped it, if one did. -/
def commit (store : σ) (p : Plan) : σ × Option BundleError :=
  if !p.emits then (store, none)
  else match makeParent store p.settings.outFile with
    | (prepared, some e) => (prepared, some e)
    | (prepared, none) =>
      match FileStore.write prepared p.settings.outFile p.content with
      | .error cause => (prepared, some (.io p.settings.outFile cause))
      | .ok written =>
        if p.settings.removeSource then removeSources p.settings written p.sources.files
        else (written, none)

/-- A run with settings. -/
def runSettings (store : σ) (settings : Settings) : σ × Except BundleError Result :=
  match plan store settings with
  | .error e => (store, .error e)
  | .ok p =>
    match commit store p with
    | (store, some e) => (store, .error e)
    | (store, none) => (store, .ok p.result)

/-- A run with options, in a working directory. -/
def run (store : σ) (options : Options) (cwd : Path) : σ × Except BundleError Result :=
  match options.resolve cwd with
  | .error e => (store, .error e)
  | .ok settings => runSettings store settings

end Bundle
end TypingBundle
