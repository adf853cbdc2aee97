import TypingBundle.Exclude
import TypingBundle.Path.Location

/-!
The options of a run as they are given, each of which may be left out, and the settings that they
come down to, in which every value is decided.
-/

namespace TypingBundle

/-- A hook that is applied to the body of each generated module block. It is given the name of the
module and its indented body. -/
abbrev BodyHook := (name body : Text) → Text

/-- The options of a run. -/
structure Options where
  /-- The declaration file to begin with. -/
  main : Option Path := none
  /-- The name of the bundled module. -/
  name : Option Text := none
  /-- The directory whose declaration files are the sources. -/
  baseDir : Option Path := none
  /-- Where to write, from the base directory or, after `~/`, from the working directory. -/
  out : Option Text := none
  newline : Option Text := none
  indent : Option Text := none
  /-- What generated names begin with. -/
  namePrefix : Option Text := none
  /-- What stands between the parts of generated names. -/
  separator : Option Text := none
  /-- Whether to take in the declarations of modules that are imported by name. -/
  externals : Option Bool := none
  exclude : Exclude := .nothing
  /-- Whether to delete the sources once the bundle is written. -/
  removeSource : Option Bool := none
  /-- Whether to list dependencies as directives and not as comments. -/
  referenceExternals : Option Bool := none
  verbose : Option Bool := none
  /-- Whether to write although a file of the bundle is missing. -/
  emitIfIncludedMissing : Option Bool := none
  /-- Whether to write although another file is missing. -/
  emitIfOtherMissing : Option Bool := none
  headerPath : Option Path := none
  headerText : Option Text := none
  bodyHook : Option BodyHook := none

/-- Where the header of a bundle comes from. -/
inductive Header where
  /-- A comment that names the program. -/
  | generated
  /-- There is none. -/
  | suppressed
  /-- A text, set in a block comment. -/
  | text (text : Text)
  /-- The text of a file, set in a block comment. -/
  | file (location : Location)
deriving DecidableEq

/-- The settings of a run. -/
structure Settings where
  mainFile : Location
  name : Text
  baseDir : Path
  outFile : Location
  newline : Text
  indent : Text
  namePrefix : Text
  separator : Text
  externals : Bool
  exclude : Exclude
  removeSource : Bool
  referenceExternals : Bool
  verbose : Bool
  emitIfIncludedMissing : Bool
  emitIfOtherMissing : Bool
  header : Header
  bodyHook : Option BodyHook

/-- Line endings that output can be written with. -/
inductive NewLine where
  | lineFeed
  | returnLineFeed
deriving DecidableEq

namespace NewLine

/-- The line ending of the platform. -/
def platform : NewLine := lineFeed

/-- The line ending where nothing else is known. -/
def default : NewLine := lineFeed

/-- The characters of a line ending. -/
def text : NewLine → Text
  | lineFeed => ['\n']
  | returnLineFeed => ['\r', '\n']

end NewLine
end TypingBundle
