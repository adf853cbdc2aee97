import TypingBundle.Bundle
import TypingBundle.Log.Event
import TypingBundle.Options.Shown

/-!
What a run reports. The events are read off the same values that the result is made of, so they can
not disagree with it; where a run fails they end with what led to the failure.
-/

namespace TypingBundle.Log

/-- A field with a text. -/
def field (name : String) (text : Text) : String × Value := (name, .text text)

/-- A field with a number. -/
def count (name : String) (n : Nat) : String × Value := (name, .number n)

/-- An event of a part of the library. -/
def event (level : Level) (module message : String) (fields : List (String × Value)) : Event :=
  ⟨level, "dtsb_core::" ++ module, message, fields⟩

variable {σ : Type} [FileStore σ]

/-! ### Parsing -/

/-- The event of a line, if it is reported. -/
def readingEvents (settings : Settings) (sources : Sources) : Reading → List Event
  | .reference target =>
    let kind := if sources.contains target then "reference source typing"
      else "reference external typing"
    [event .trace "parser" kind [field "reference" target.text]]
  | .externalImport specifier =>
    [event .trace "parser" "import external" [field "specifier" specifier]]
  | .untypedImport specifier =>
    [event .trace "parser" "side-effect import without typings" [field "specifier" specifier]]
  | .relativeImport specifier target _ =>
    [event .trace "parser" "import relative"
      [field "specifier" specifier, field "target" target.text,
        field "exported_name" (settings.exportedName target)]]
  | .moduleDeclaration name => [event .trace "parser" "declare" [field "module" name]]
  | _ => []

/-- The events of a file. -/
def fileEvents (store : σ) (settings : Settings) (sources : Sources) (l : Location) : List Event :=
  event .debug "parser" "parse"
    [field "module" (settings.moduleName l), field "file" l.text] ::
  if FileStore.isFile store l then
    match Store.readDeclarations store l with
    | .ok text =>
      (readLines store settings (Record.directory l) text).flatMap fun r =>
        readingEvents settings sources r.reading
    | .error _ => []
  else [event .debug "parser" "file not found" [field "file" l.text]]

/-- The files up to the first one that can not be read. -/
def filesRead (store : σ) (settings : Settings) (sources : Sources) : List Location → List Location
  | [] => []
  | l :: rest =>
    match Record.parse store settings sources l with
    | .ok _ => l :: filesRead store settings sources rest
    | .error _ => [l]

/-- The events of parsing all files. -/
def walkEvents (store : σ) (settings : Settings) (sources : Sources) : List Event :=
  event .debug "graph" "### parse files ###" [] ::
    (filesRead store settings sources (Registry.discovered store settings sources)).flatMap
      (fileEvents store settings sources)

/-! ### Decisions -/

/-- The events of the table of ambient modules, up to the first conflict. -/
def declarationEvents (e : Exports) : List (Text × Location) → List Event
  | [] => []
  | (name, owner) :: rest =>
    match e.add (name, owner) with
    | .error _ => []
    | .ok next =>
      (if (e.owner? name).isNone then
        [event .debug "graph" "export" [field "name" name, field "file" owner.text]] else []) ++
        declarationEvents next rest

/-- The events of building the table. -/
def exportEvents (registry : Registry) : List Event :=
  event .debug "graph" "### map exports ###" [] ::
    declarationEvents ⟨[]⟩ (Exports.declarations registry)

/-- The event of an edge out of a file. -/
def edgeEvent (importer : Location) : Edge → Event
  | .externalOmitted name _ => event .debug "inclusion" "exclude external" [field "name" name]
  | .externalUndeclared name =>
    event .warn "inclusion" "no declaration found for external module"
      [field "name" name, field "importer" importer.text]
  | .externalExcluded name _ =>
    event .debug "inclusion" "exclude external filter" [field "name" name]
  | .externalFollowed name _ => event .debug "inclusion" "include external" [field "name" name]
  | .relativeExcluded file =>
    event .debug "inclusion" "exclude internal filter" [field "file" file.text]
  | .relativeFollowed file => event .debug "inclusion" "import relative" [field "file" file.text]

/-- The events of a file of the bundle. -/
def includeEvents (p : Plan) (l : Location) : List Event :=
  match p.registry.get? l with
  | none => []
  | some record =>
    event .debug "inclusion" "include"
      [field "module" record.moduleName, field "file" l.text] ::
      (Edge.ofRecord p.settings p.exports record).map (edgeEvent l)

/-- The events of finding the make-up of the bundle. -/
def inclusionEvents (p : Plan) : List Event :=
  event .debug "inclusion" "### determine typings to include ###" [] ::
    p.inclusion.used.flatMap (includeEvents p)

/-- The event of a line that was changed. -/
def changeEvent (message : String) (line renamed : Text) : Event :=
  event .trace "rewriter" message [field "original" line, field "rewritten" renamed]

/-- The events of the declarations of a file. -/
def renamedDeclarations (p : Plan) (record : Record) : List Event :=
  (record.entries.filter fun e => e.role = .moduleDeclaration).flatMap fun e =>
    match Rename.declaration? p.settings record.isSource e.line with
    | some renamed => [changeEvent "declaration" e.line renamed]
    | none => []

/-- The events of the imports by name of a file. -/
def renamedImports (p : Plan) (record : Record) : List Event :=
  (record.entries.filter fun e => e.role = .externalImport).flatMap fun e =>
    match Rename.importOutcome? p.settings p.exports p.inclusion e.line with
    | some (.renamed renamed) => [changeEvent "import" e.line renamed]
    | some (.leftAsIs specifier) =>
      [event .trace "rewriter" "import left as is" [field "specifier" specifier]]
    | none => []

/-- The events of renaming. -/
def renameEvents (p : Plan) : List Event :=
  event .debug "rewriter" "### rewrite global external modules ###" [] ::
    (p.inclusion.used.filterMap p.registry.get?).flatMap fun record =>
      event .debug "rewriter" "rewrite" [field "module" record.moduleName] ::
        (renamedDeclarations p record ++ renamedImports p record)

/-- The events of files that do not exist. -/
def missingEvents (p : Plan) : List Event :=
  (Plan.missing p.registry).map fun l =>
    if p.inclusion.isUsed l then event .warn "bundle" "included file not found" [field "file" l.text]
    else event .trace "bundle" "unused file not found" [field "file" l.text]

/-! ### Writing -/

/-- The events of deleting sources, up to the first failure. -/
def removalEvents (settings : Settings) (store : σ) : List Path → List Event
  | [] => []
  | source :: sources =>
    if Bundle.isRemovable store settings source then
      event .trace "bundle" "remove" [field "file" source.text] ::
        match FileStore.remove store source with
        | .ok store => removalEvents settings store sources
        | .error _ => []
    else removalEvents settings store sources

/-- The events of carrying out a plan. -/
def commitEvents (store : σ) (p : Plan) : List Event :=
  let out := field "out" p.settings.outFile.text
  if !p.emits then
    [event .warn "bundle" "not emitting output: a referenced file was not found" [out]]
  else
    event .debug "bundle" "### write output ###" [out] ::
    match Bundle.makeParent store p.settings.outFile with
    | (_, some _) => []
    | (prepared, none) =>
      match FileStore.write prepared p.settings.outFile p.content with
      | .ok written =>
        if p.settings.removeSource then
          event .debug "bundle" "### remove source typings ###" [] ::
            removalEvents p.settings written p.sources.files
        else []
      | .error _ => []

/-- Whether a file is used, in words. -/
def useEvent (p : Plan) (kind : String) (path : Path) : Event :=
  let used := if p.inclusion.used.any (fun l => l.toPath.same path) then "used " else "unused "
  event .info "bundle" (used ++ kind) [field "file" (p.settings.displayPath path)]

/-- The summary of a verbose run. -/
def statistics (p : Plan) : List Event :=
  p.sources.files.map (useEvent p "source typing") ++
  p.inclusion.excluded.map (fun (l : Location) =>
    event .info "bundle" "excluded typing" [field "file" (p.settings.displayPath l)]) ++
  p.registry.externalTypings.map (fun (l : Location) => useEvent p "external typing" l) ++
  p.inclusion.dependencies.map (fun d =>
    event .info "bundle" "external dependency" [field "dependency" (d.display p.settings)]) ++
  [event .info "bundle" "bundle statistics"
    [count "parsed" p.registry.records.length, count "used" p.inclusion.used.length,
      count "excluded" p.inclusion.excluded.length,
      count "external_dependencies" p.inclusion.dependencies.length]]

/-- The events of a plan from the decisions on. -/
def planEvents (store : σ) (p : Plan) : List Event :=
  inclusionEvents p ++ renameEvents p ++ [event .debug "emitter" "### build output ###" []] ++
    missingEvents p ++ commitEvents store p ++
    (if (Bundle.commit store p).2.isSome then []
     else (if p.settings.verbose then statistics p else []) ++
      [event .debug "bundle" "### done ###" []])

/-- The events of a run with settings. -/
def settingsEvents (store : σ) (settings : Settings) : List Event :=
  let sources := Bundle.sources store settings
  event .debug "bundle" "resolved options" [field "options" settings.shown] ::
  if !FileStore.isFile store settings.mainFile then []
  else match Bundle.header store settings with
    | .error _ => []
    | .ok _ =>
      event .debug "bundle" "source typings"
        [count "count" sources.files.length, field "base_dir" settings.baseDir.text] ::
      (walkEvents store settings sources ++
        match Registry.walk store settings sources with
        | .error _ => []
        | .ok registry =>
          exportEvents registry ++
          match Bundle.plan store settings with
          | .error _ => []
          | .ok p => planEvents store p)

/-- The events of a run. -/
def runEvents (store : σ) (options : Options) (cwd : Path) : List Event :=
  match options.resolve cwd with
  | .error _ => []
  | .ok settings => settingsEvents store settings

end TypingBundle.Log
