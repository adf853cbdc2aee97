import TypingBundle.CommandLine.Arguments
import TypingBundle.Log.Event
import TypingBundle.OptionFile
import TypingBundle.Options.Shown

/-!
The options of a run from the command line and an option file. What the command line says wins, and
a switch that is not given leaves the file's word.
-/

namespace TypingBundle.Arguments

/-- A pattern of files to leave out that can not be read. -/
structure InvalidExclude where
  pattern : Text
deriving DecidableEq

/-- The error in words. -/
def InvalidExclude.message (e : InvalidExclude) : Text :=
  "invalid exclude pattern: ".toList ++ e.pattern

/-- A switch of the command line over a file's word. -/
def switched (given : Bool) (file : Option Bool) : Option Bool :=
  if given then some true else file

/-- The filter that a pattern stands for. -/
def excludeOf (pattern : Option Text) : Except InvalidExclude Exclude :=
  match pattern with
  | none => .ok .nothing
  | some pattern =>
    match Exclude.ofRegex? pattern with
    | some exclude => .ok exclude
    | none => .error ⟨pattern⟩

/-- The options of a run. -/
def merge (a : Arguments) (file : OptionFile) : Except InvalidExclude Options := do
  let exclude ← excludeOf (a.exclude.or file.exclude)
  return {
    main := a.main.or file.main
    name := a.name.or file.name
    baseDir := a.baseDir.or file.baseDir
    out := a.out.or file.out
    newline := (a.newline.map fun style => style.newLine.text).or file.newline
    indent := a.indent.or file.indent
    namePrefix := a.namePrefix.or file.namePrefix
    separator := a.separator.or file.separator
    externals := switched a.externals file.externals
    exclude
    removeSource := switched a.removeSource file.removeSource
    referenceExternals := switched a.referenceExternals file.referenceExternals
    verbose := switched a.verbose file.verbose
    emitIfIncludedMissing := a.emitIfIncludedMissing.or file.emitIfIncludedMissing
    emitIfOtherMissing := a.emitIfOtherMissing.or file.emitIfOtherMissing
    headerPath := a.headerPath.or file.headerPath
    headerText := a.headerText.or file.headerText
    bodyHook := none
  }

/-- What merging reports. -/
def mergeEvents (a : Arguments) (file : OptionFile) : List Log.Event :=
  (if a.outputAsModuleFolder then
    [⟨.warn, "dtsb_cli::config", "--outputAsModuleFolder has no effect", []⟩] else []) ++
  match a.merge file with
  | .ok options =>
    [⟨.debug, "dtsb_cli::config", "merged command-line options",
      [("options", .text options.shown)]⟩]
  | .error _ => []

end TypingBundle.Arguments
