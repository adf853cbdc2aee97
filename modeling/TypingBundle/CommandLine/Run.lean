import TypingBundle.CommandLine.Help
import TypingBundle.CommandLine.Merge
import TypingBundle.Log.Bundle
import TypingBundle.Log.Filter

/-!
The program as a function: from the words of a command line, a working directory and a store of
files to an exit code, what is printed, what is reported, and the store afterwards.
-/

namespace TypingBundle.CommandLine

/-- What the program is started with. -/
structure Invocation where
  /-- The words after the name of the program. -/
  words : List Text
  cwd : Path
  /-- Which events to write, for this program and, where that is not said, for all programs. -/
  logFilter : Option Text := none
  sharedLogFilter : Option Text := none

/-- Why the program ends early once its arguments are read. -/
inductive Failure where
  | optionFileUnread (path : Path) (cause : Store.Cause)
  | optionFileInvalid (path : Path) (error : OptionFile.Error)
  | exclude (error : Arguments.InvalidExclude)
  | bundle (error : BundleError)

/-- What the program leaves behind. -/
structure Outcome (σ : Type) where
  exitCode : Nat
  /-- What is printed as the answer. -/
  output : Text
  /-- What is said to the user, line by line. -/
  report : List Text
  /-- The events that are written. -/
  events : List Log.Event
  store : σ

namespace Failure

/-- The failure in words. -/
def message : Failure → Text
  | optionFileUnread path _ => "failed to read option file: ".toList ++ path.text
  | optionFileInvalid path _ => "failed to parse option file: ".toList ++ path.text
  | exclude error => error.message
  | bundle _ => "bundling failed".toList

/-- What led to the failure, the nearest cause first. -/
def causes : Failure → List Text
  | optionFileUnread _ cause => [cause.message]
  | optionFileInvalid _ (.notFlag cause) =>
    [(OptionFile.Error.notFlag cause).message, cause.message]
  | optionFileInvalid _ error => [error.message]
  | exclude _ => []
  | bundle error => error.message :: (error.cause?.map Store.Cause.message).toList

/-- A cause of which the first line begins so, and the others are indented as far. -/
def indented (start : Text) (cause : Text) : List Text :=
  match Text.lines cause with
  | [] => []
  | first :: rest => (start ++ first) :: rest.map (List.replicate start.length ' ' ++ ·)

/-- Causes, numbered if there are several. -/
def causeLines : List Text → List Text
  | [] => []
  | [cause] => [[], "Caused by:".toList] ++ indented "    ".toList cause
  | causes => [[], "Caused by:".toList] ++ causes.zipIdx.flatMap fun (cause, i) =>
      indented ("    ".toList ++ Text.ofNat i ++ ": ".toList) cause

/-- What is said to the user. -/
def report (f : Failure) : List Text :=
  Text.lines ("Error: ".toList ++ f.message) ++ causeLines f.causes

end Failure

variable {σ : Type} [FileStore σ]

/-- The option file that the arguments name; without one there are no further options. -/
def loadOptionFile (store : σ) (a : Arguments) (cwd : Path) : Except Failure OptionFile :=
  match a.configJson with
  | none => .ok {}
  | some path =>
    match FileStore.read store (cwd.join path) with
    | .error cause => .error (.optionFileUnread (cwd.join path) cause)
    | .ok source => (OptionFile.parse source).mapError (.optionFileInvalid (cwd.join path))

/-- The options of the run that the arguments ask for. -/
def optionsOf (store : σ) (a : Arguments) (cwd : Path) : Except Failure Options := do
  let file ← loadOptionFile store a cwd
  (a.merge file).mapError .exclude

/-- The filter of events that is in force. -/
def filterOf (i : Invocation) (a : Arguments) (file : OptionFile) : Log.Filter :=
  .parse ((i.logFilter.or i.sharedLogFilter).getD
    (Log.defaultDirectives (a.verbose || file.verbose.getD false)))

/-- What a result is reported as. -/
def resultLine (r : Result) : Text :=
  if r.emitted then
    "dts-bundle: wrote ".toList ++ r.outputPath.text ++ " (".toList ++
      Text.ofNat r.usedFiles.length ++ " files)".toList
  else "dts-bundle: result not emitted - use --verbose to see details".toList

/-- The event of a result that was not written. -/
def resultEvents (r : Result) : List Log.Event :=
  if r.emitted then []
  else [⟨.warn, "dts_bundle", "output withheld", [("used_files", .number r.usedFiles.length)]⟩]

/-- The exit code, what is printed and what is said when arguments do not lead to a run. -/
def stopped : Arguments.Stop → Nat × Text × List Text
  | .help full => (0, Help.text full, [])
  | .version => (0, "dts-bundle ".toList ++ Header.version ++ ['\n'], [])
  | .unknownArgument => (2, [], ["error: unexpected argument found".toList])
  | .invalidValue => (2, [], ["error: a value is missing or invalid".toList])
  | .conflict => (2, [], ["error: an argument cannot be used multiple times".toList])
  | .tooManyValues => (2, [], ["error: unexpected value for an argument".toList])

/-- The run with options, once the arguments are read. -/
def runOptions (store : σ) (i : Invocation) (a : Arguments) (file : OptionFile) : Outcome σ :=
  let written := (filterOf i a file).admits
  match a.merge file with
  | .error e =>
    ⟨1, [], (Failure.exclude e).report, (a.mergeEvents file).filter written, store⟩
  | .ok options =>
    let events := a.mergeEvents file ++ Log.runEvents store options i.cwd
    match Bundle.run store options i.cwd with
    | (after, .error e) => ⟨1, [], (Failure.bundle e).report, events.filter written, after⟩
    | (after, .ok result) =>
      ⟨if result.emitted then 0 else 1, [], [resultLine result],
        (events ++ resultEvents result).filter written, after⟩

/-- The whole program. -/
def run (store : σ) (i : Invocation) : Outcome σ :=
  match Arguments.parse i.words with
  | .error stop =>
    let (exitCode, output, report) := stopped stop
    ⟨exitCode, output, report, [], store⟩
  | .ok a =>
    match loadOptionFile store a i.cwd with
    | .error failure => ⟨1, [], failure.report, [], store⟩
    | .ok file => runOptions store i a file

end TypingBundle.CommandLine
