import TypingBundle.Json.Commented
import TypingBundle.Json.Value
import TypingBundle.Path.Basic

/-!
Option files: options of a run written as a JSON object, in which comments and trailing commas are
allowed. Keys that stand for no option are ignored.
-/

namespace TypingBundle

/-- The options that a file gives. -/
structure OptionFile where
  main : Option Path := none
  name : Option Text := none
  baseDir : Option Path := none
  out : Option Text := none
  newline : Option Text := none
  indent : Option Text := none
  namePrefix : Option Text := none
  separator : Option Text := none
  /-- A regular expression. -/
  exclude : Option Text := none
  externals : Option Bool := none
  referenceExternals : Option Bool := none
  removeSource : Option Bool := none
  verbose : Option Bool := none
  emitIfIncludedMissing : Option Bool := none
  emitIfOtherMissing : Option Bool := none
  headerPath : Option Path := none
  headerText : Option Text := none

namespace OptionFile

/-- Why a value does not say yes or no. -/
inductive FlagError where
  /-- A text that is none of the known words. -/
  | unknownWord (text : Text)
  /-- Neither a truth value nor a text. -/
  | wrongKind
deriving DecidableEq

/-- What is wrong with an option file. -/
inductive Error where
  | notJson
  | notObject
  | notText (option : String)
  | notFlag (cause : FlagError)
  /-- A value that can not be read as the text that its key asks for. -/
  | unreadable (key : Text)
deriving DecidableEq

/-- A wrong flag in words. -/
def FlagError.message : FlagError → Text
  | unknownWord text =>
    "invalid boolean value: '".toList ++ text ++
      "'. Expected true, false, 'true', or 'false'".toList
  | wrongKind => "data did not match any variant of untagged enum BoolOrString".toList

/-- An error in words. -/
def Error.message : Error → Text
  | notJson => "failed to parse option file JSON".toList
  | notObject => "option file must contain a JSON object".toList
  | notText option => "option \"".toList ++ option.toList ++ "\" must be a string".toList
  | notFlag _ | unreadable _ => "failed to read option file".toList

/-- The options whose values are texts, in the order in which they are checked. -/
def textKeys : List String :=
  ["main", "name", "baseDir", "out", "newline", "indent", "prefix", "separator", "exclude",
    "headerPath", "headerText"]

/-- The members of an object. -/
abbrev Members := List (Text × Json.Value)

/-- Whether an option is given as something other than a text. -/
def isWrongText (members : Members) (key : String) : Bool :=
  match Json.member? key.toList members with
  | none => false
  | some (.string _) => false
  | some _ => true

/-- What a word says, without regard to case and surrounding blank space. The letters of these words
are the small forms of ASCII letters only. -/
def flagOfWord? (word : Text) : Option Bool :=
  match String.ofList (Text.lowerAscii (Text.trim word)) with
  | "true" | "1" | "yes" | "on" => some true
  | "false" | "0" | "no" | "off" => some false
  | _ => none

/-- What a value says; the empty value says nothing. -/
def flagOf : Json.Value → Except FlagError (Option Bool)
  | .null => .ok none
  | .bool b => .ok (some b)
  | .string word =>
    match flagOfWord? word with
    | some b => .ok (some b)
    | none => .error (.unknownWord word)
  | _ => .error .wrongKind

/-- What a value says in place of a text; the empty value says nothing. -/
def textOf? : Json.Value → Option (Option Text)
  | .null => some none
  | .string text => some (some text)
  | _ => none

/-- The options that are texts. -/
inductive TextOption where
  | main | name | baseDir | out | newline | indent | namePrefix | separator | exclude | headerPath
  | headerText
deriving DecidableEq

/-- The options that are switched on or off. -/
inductive FlagOption where
  | externals | referenceExternals | removeSource | verbose | emitIfIncludedMissing
  | emitIfOtherMissing
deriving DecidableEq

namespace TextOption

/-- All of them. -/
def all : List TextOption :=
  [main, name, baseDir, out, newline, indent, namePrefix, separator, exclude, headerPath,
    headerText]

/-- The key that an option is written under. -/
def key : TextOption → String
  | main => "main"
  | name => "name"
  | baseDir => "baseDir"
  | out => "out"
  | newline => "newline"
  | indent => "indent"
  | namePrefix => "prefix"
  | separator => "separator"
  | exclude => "exclude"
  | headerPath => "headerPath"
  | headerText => "headerText"

/-- The options with one of them set. -/
def set (text : Option Text) (file : OptionFile) : TextOption → OptionFile
  | main => { file with main := text.map Path.mk }
  | name => { file with name := text }
  | baseDir => { file with baseDir := text.map Path.mk }
  | out => { file with out := text }
  | newline => { file with newline := text }
  | indent => { file with indent := text }
  | namePrefix => { file with namePrefix := text }
  | separator => { file with separator := text }
  | exclude => { file with exclude := text }
  | headerPath => { file with headerPath := text.map Path.mk }
  | headerText => { file with headerText := text }

end TextOption

namespace FlagOption

/-- All of them. -/
def all : List FlagOption :=
  [externals, referenceExternals, removeSource, verbose, emitIfIncludedMissing, emitIfOtherMissing]

/-- The key that an option is written under. -/
def key : FlagOption → String
  | externals => "externals"
  | referenceExternals => "referenceExternals"
  | removeSource => "removeSource"
  | verbose => "verbose"
  | emitIfIncludedMissing => "emitOnIncludedFileNotFound"
  | emitIfOtherMissing => "emitOnNoIncludedFileNotFound"

/-- The options with one of them set. -/
def set (flag : Option Bool) (file : OptionFile) : FlagOption → OptionFile
  | externals => { file with externals := flag }
  | referenceExternals => { file with referenceExternals := flag }
  | removeSource => { file with removeSource := flag }
  | verbose => { file with verbose := flag }
  | emitIfIncludedMissing => { file with emitIfIncludedMissing := flag }
  | emitIfOtherMissing => { file with emitIfOtherMissing := flag }

end FlagOption

/-- The options with a text read into one of them. -/
def readText (file : OptionFile) (o : TextOption) (value : Json.Value) : Except Error OptionFile :=
  match textOf? value with
  | some text => .ok (o.set text file)
  | none => .error (.unreadable o.key.toList)

/-- The options with a flag read into one of them. -/
def readFlag (file : OptionFile) (o : FlagOption) (value : Json.Value) : Except Error OptionFile :=
  match flagOf value with
  | .ok flag => .ok (o.set flag file)
  | .error cause => .error (.notFlag cause)

/-- The options with one more member read; a key of no option is passed over. -/
def readMember (file : OptionFile) (entry : Text × Json.Value) : Except Error OptionFile :=
  match TextOption.all.find? fun o => o.key.toList = entry.1 with
  | some o => readText file o entry.2
  | none =>
    match FlagOption.all.find? fun o => o.key.toList = entry.1 with
    | some o => readFlag file o entry.2
    | none => .ok file

/-- The options that a value gives. Texts are checked first, in the order of their keys; then all
members are read, in the order of the object. -/
def ofValue : Json.Value → Except Error OptionFile
  | .object members =>
    match textKeys.find? (isWrongText members) with
    | some key => .error (.notText key)
    | none => members.foldlM readMember {}
  | _ => .error .notObject

/-- The options that the text of a file gives. -/
def parse (source : Text) : Except Error OptionFile :=
  match Json.Value.parse? (Json.plain source) with
  | some value => ofValue value
  | none => .error .notJson

end OptionFile
end TypingBundle
