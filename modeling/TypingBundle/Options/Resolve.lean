import TypingBundle.Error
import TypingBundle.Options.Basic

/-!
From options to settings: what is required is checked, the rest gets its default, and paths become
locations.
-/

namespace TypingBundle

/-- An option that is given and not empty. -/
def Options.required (option : String) (value : Option Text) : Except BundleError Text :=
  match value with
  | some (c :: rest) => .ok (c :: rest)
  | _ => .error (.missingOption option.toList)

/-- The header that the two header options ask for. A path wins over a text, and the path `none`
asks for no header. -/
def Header.ofOptions (path : Option Path) (text : Option Text) (cwd : Path) : Header :=
  match path, text with
  | some path, _ =>
    if path.same (Path.ofString "none") then .suppressed else .file (cwd.locate path)
  | none, some text => .text text
  | none, none => .generated

/-- Where the output goes: from the base directory, or from the working directory after `~/`. -/
def Options.outFile (out : Text) (baseDir cwd : Path) : Location :=
  match Text.dropStart? ['~', '/'] out with
  | some rest => cwd.locate ⟨rest⟩
  | none => (baseDir.join ⟨out⟩).normalize

/-- The base directory: as given, else the directory of the main file. -/
def Options.baseDirOf (given : Option Path) (mainFile : Location) (cwd : Path) : Path :=
  match given with
  | some dir => cwd.locate dir
  | none => (mainFile.parent?.map Location.toPath).getD cwd

/-- The settings that options come down to. Relative paths are read in `cwd`. Of several faults,
that of the main file comes first, then that of the name, then that of the separator. -/
def Options.resolve (options : Options) (cwd : Path) : Except BundleError Settings := do
  let main ← Options.required "main" (options.main.map Path.text)
  let name ← Options.required "name" options.name
  let separator := options.separator.getD ['/']
  if separator = [] then
    throw (.invalidOption "separator".toList "must have non-zero length".toList)
  let mainFile := cwd.locate ⟨main⟩
  let baseDir := Options.baseDirOf options.baseDir mainFile cwd
  let out := options.out.getD (name ++ Path.declarationEnding)
  return {
    mainFile
    name
    baseDir
    outFile := Options.outFile out baseDir cwd
    newline := options.newline.getD NewLine.platform.text
    indent := options.indent.getD (List.replicate 4 ' ')
    namePrefix := options.namePrefix.getD ['_', '_']
    separator
    externals := options.externals.getD false
    exclude := options.exclude
    removeSource := options.removeSource.getD false
    referenceExternals := options.referenceExternals.getD false
    verbose := options.verbose.getD false
    emitIfIncludedMissing := options.emitIfIncludedMissing.getD true
    emitIfOtherMissing := options.emitIfOtherMissing.getD true
    header := Header.ofOptions options.headerPath options.headerText cwd
    bodyHook := options.bodyHook
  }

namespace Settings

/-- The name of a file by its position: its path from the base directory without the ending of
declaration files. -/
def moduleName (s : Settings) (file : Path) : Text :=
  (s.baseDir.relative file.dropDeclarationEnding).slashed

/-- The position of a file in the form in which it is part of a generated name. -/
def foldedPosition (s : Settings) (file : Path) : Text :=
  Text.replaceChar '/' s.separator (Text.replacePair '.' ['-', '-'] (s.moduleName file))

/-- The generated name of a file: its position with `--` for each `..` and with the separator of
the settings. -/
def positionName (s : Settings) (file : Path) : Text :=
  s.namePrefix ++ s.name ++ s.separator ++ s.foldedPosition file

/-- The name by which a file is addressed in the bundle. -/
def exportedName (s : Settings) (file : Path) : Text :=
  if file.same s.mainFile then s.name else s.positionName file

/-- The generated name of an ambient module that is taken into the bundle. -/
def libraryName (s : Settings) (identifier : Text) : Text :=
  s.namePrefix ++ s.name ++ s.separator ++ s.namePrefix ++ s.separator ++ identifier

/-- The path of a file from the base directory, as filters see it and headers show it. -/
def displayPath (s : Settings) (file : Path) : Text := (s.baseDir.relative file).slashed

end Settings
end TypingBundle
