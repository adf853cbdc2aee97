import TypingBundle.Options.Basic

/-!
The arguments of the command line. They are read from left to right. An option that takes a value
stays open until its value has come, and is entered when the next option begins or the arguments
end; what is wrong with it is told then, unless something unknown came first.
-/

namespace TypingBundle

/-- The line endings that can be asked for by name. -/
inductive NewLineStyle where
  | unix
  | windows
  /-- What the platform uses. -/
  | currentOsDefault
deriving DecidableEq

namespace NewLineStyle

/-- The line ending of a style. -/
def newLine : NewLineStyle → NewLine
  | unix => .lineFeed
  | windows => .returnLineFeed
  | currentOsDefault => .platform

/-- The style of a name, without regard to case. -/
def ofName? (name : Text) : Option NewLineStyle :=
  match String.ofList (Text.lowerAscii name) with
  | "unix" => some unix
  | "windows" => some windows
  | "currentosdefault" => some currentOsDefault
  | "current-os-default" => some currentOsDefault
  | _ => none

end NewLineStyle

/-- What the command line says. -/
structure Arguments where
  /-- The option file. -/
  configJson : Option Path := none
  name : Option Text := none
  main : Option Path := none
  baseDir : Option Path := none
  out : Option Text := none
  externals : Bool := false
  referenceExternals : Bool := false
  /-- A regular expression. -/
  exclude : Option Text := none
  removeSource : Bool := false
  newline : Option NewLineStyle := none
  indent : Option Text := none
  namePrefix : Option Text := none
  separator : Option Text := none
  verbose : Bool := false
  emitIfIncludedMissing : Option Bool := none
  emitIfOtherMissing : Option Bool := none
  headerPath : Option Path := none
  headerText : Option Text := none
  /-- Accepted, without effect. -/
  outputAsModuleFolder : Bool := false
deriving DecidableEq

namespace Arguments

/-- Why the arguments do not lead to a run. -/
inductive Stop where
  | unknownArgument
  /-- A value is missing or can not be used. -/
  | invalidValue
  /-- An option is given twice. -/
  | conflict
  /-- A value is given to an option that takes none. -/
  | tooManyValues
  /-- Help is asked for, in full or in short. -/
  | help (full : Bool)
  | version
deriving DecidableEq

/-- Options that take a value. -/
inductive Valued where
  | configJson
  | name
  | main
  | baseDir
  | out
  | exclude
  | newline
  | indent
  | namePrefix
  | separator
  | emitIfIncludedMissing
  | emitIfOtherMissing
  | headerPath
  | headerText
deriving DecidableEq

/-- Options that are switched on. -/
inductive Switch where
  | externals
  | referenceExternals
  | removeSource
  | verbose
  | outputAsModuleFolder
deriving DecidableEq

/-- What a name on the command line stands for. -/
inductive Known where
  | valued (option : Valued)
  | switch (option : Switch)
  | help (full : Bool)
  | version
deriving DecidableEq

/-- What a name after two dashes stands for. -/
def known? (name : Text) : Option Known :=
  match String.ofList name with
  | "configJson" | "config-json" => some (.valued .configJson)
  | "name" => some (.valued .name)
  | "main" => some (.valued .main)
  | "baseDir" | "base-dir" => some (.valued .baseDir)
  | "out" => some (.valued .out)
  | "externals" => some (.switch .externals)
  | "referenceExternals" | "reference-externals" => some (.switch .referenceExternals)
  | "exclude" => some (.valued .exclude)
  | "removeSource" | "remove-source" => some (.switch .removeSource)
  | "newline" => some (.valued .newline)
  | "indent" => some (.valued .indent)
  | "prefix" => some (.valued .namePrefix)
  | "separator" => some (.valued .separator)
  | "verbose" => some (.switch .verbose)
  | "emitOnIncludedFileNotFound" | "emit-on-included-file-not-found" =>
    some (.valued .emitIfIncludedMissing)
  | "emitOnNoIncludedFileNotFound" | "emit-on-no-included-file-not-found" =>
    some (.valued .emitIfOtherMissing)
  | "headerPath" | "header-path" => some (.valued .headerPath)
  | "headerText" | "header-text" => some (.valued .headerText)
  | "outputAsModuleFolder" | "output-as-module-folder" => some (.switch .outputAsModuleFolder)
  | "help" => some (.help true)
  | "version" => some .version
  | _ => none

/-- The value of an option that is given without one, if that is allowed. -/
def Valued.implied? : Valued → Option Text
  | emitIfIncludedMissing => some "true".toList
  | emitIfOtherMissing => some "true".toList
  | _ => none

/-- A path as a value; it is not empty. -/
def pathOf (value : Text) : Except Stop Path :=
  if value = [] then .error .invalidValue else .ok ⟨value⟩

/-- A truth value, spelled exactly. -/
def flagOf (value : Text) : Except Stop Bool :=
  if value = "true".toList then .ok true
  else if value = "false".toList then .ok false
  else .error .invalidValue

/-- A line ending by name. -/
def styleOf (value : Text) : Except Stop NewLineStyle :=
  match NewLineStyle.ofName? value with
  | some style => .ok style
  | none => .error .invalidValue

/-- Whether an option has its value already. -/
def has (a : Arguments) : Valued → Bool
  | .configJson => a.configJson.isSome
  | .name => a.name.isSome
  | .main => a.main.isSome
  | .baseDir => a.baseDir.isSome
  | .out => a.out.isSome
  | .exclude => a.exclude.isSome
  | .newline => a.newline.isSome
  | .indent => a.indent.isSome
  | .namePrefix => a.namePrefix.isSome
  | .separator => a.separator.isSome
  | .emitIfIncludedMissing => a.emitIfIncludedMissing.isSome
  | .emitIfOtherMissing => a.emitIfOtherMissing.isSome
  | .headerPath => a.headerPath.isSome
  | .headerText => a.headerText.isSome

/-- The arguments with the value of an option. -/
def set (a : Arguments) (option : Valued) (value : Text) : Except Stop Arguments :=
  match option with
  | .configJson => (pathOf value).map fun p => { a with configJson := some p }
  | .name => .ok { a with name := some value }
  | .main => (pathOf value).map fun p => { a with main := some p }
  | .baseDir => (pathOf value).map fun p => { a with baseDir := some p }
  | .out => .ok { a with out := some value }
  | .exclude => .ok { a with exclude := some value }
  | .newline => (styleOf value).map fun s => { a with newline := some s }
  | .indent => .ok { a with indent := some value }
  | .namePrefix => .ok { a with namePrefix := some value }
  | .separator => .ok { a with separator := some value }
  | .emitIfIncludedMissing =>
    (flagOf value).map fun b => { a with emitIfIncludedMissing := some b }
  | .emitIfOtherMissing => (flagOf value).map fun b => { a with emitIfOtherMissing := some b }
  | .headerPath => (pathOf value).map fun p => { a with headerPath := some p }
  | .headerText => .ok { a with headerText := some value }

/-- Enters an option with the value that came for it, if one came. -/
def enter (a : Arguments) (option : Valued) (value : Option Text) : Except Stop Arguments :=
  match value.or option.implied? with
  | none => .error .invalidValue
  | some value => if a.has option then .error .conflict else a.set option value

/-- Whether a switch is on. -/
def isOn (a : Arguments) : Switch → Bool
  | .externals => a.externals
  | .referenceExternals => a.referenceExternals
  | .removeSource => a.removeSource
  | .verbose => a.verbose
  | .outputAsModuleFolder => a.outputAsModuleFolder

/-- Switches on; a switch is given once. -/
def turnOn (a : Arguments) (option : Switch) : Except Stop Arguments :=
  if a.isOn option then .error .conflict
  else .ok <| match option with
    | .externals => { a with externals := true }
    | .referenceExternals => { a with referenceExternals := true }
    | .removeSource => { a with removeSource := true }
    | .verbose => { a with verbose := true }
    | .outputAsModuleFolder => { a with outputAsModuleFolder := true }

/-- The arguments so far, and the option that is still open. -/
structure Progress where
  entered : Arguments := {}
  /-- An option, and its value once that has come. -/
  pending : Option (Valued × Option Text) := none

namespace Progress

/-- Enters the open option. -/
def settle (p : Progress) : Except Stop Arguments :=
  match p.pending with
  | none => .ok p.entered
  | some (option, value) => p.entered.enter option value

/-- Takes a known option, with the value that is attached to it. -/
def takeKnown (p : Progress) (known : Known) (attached : Option Text) : Except Stop Progress :=
  match known, attached with
  | .valued option, none => do return ⟨← p.settle, some (option, none)⟩
  | .valued option, some value => do return ⟨← (← p.settle).enter option (some value), none⟩
  | _, some _ => .error .tooManyValues
  | .switch option, none => do return ⟨← (← p.settle).turnOn option, none⟩
  | .help full, none => do
    let _ ← p.settle
    throw (.help full)
  | .version, none => do
    let _ ← p.settle
    throw .version

/-- Takes an argument that begins with two dashes. -/
def takeLong (p : Progress) (argument : Text) : Except Stop Progress :=
  let name := argument.takeWhile (· ≠ '=')
  let attached := match argument.dropWhile (· ≠ '=') with
    | [] => none
    | _ :: value => some value
  match known? name with
  | none => .error .unknownArgument
  | some known => p.takeKnown known attached

/-- Takes letters after one dash; only the first counts, as each letter ends the reading. -/
def takeShort (p : Progress) (letter : Char) : Except Stop Progress :=
  if letter = 'h' then p.takeKnown (.help false) none
  else if letter = 'V' then p.takeKnown .version none
  else .error .unknownArgument

/-- Takes an argument that is no option: the value of the open option, if that still needs one. -/
def takeValue (p : Progress) (argument : Text) : Except Stop Progress :=
  match p.pending with
  | some (option, none) => .ok { p with pending := some (option, some argument) }
  | _ => .error .unknownArgument

/-- Takes one argument. -/
def take (p : Progress) (argument : Text) : Except Stop Progress :=
  match argument with
  | '-' :: '-' :: rest => p.takeLong rest
  | '-' :: letter :: _ => p.takeShort letter
  | argument => p.takeValue argument

end Progress

/-- Reads arguments from left to right. After `--` no argument is known. -/
def read (p : Progress) : List Text → Except Stop Arguments
  | [] => p.settle
  | argument :: rest =>
    if argument = ['-', '-'] then
      if rest = [] then p.settle else .error .unknownArgument
    else
      match p.take argument with
      | .ok p => read p rest
      | .error stop => .error stop

/-- What the words of a command line say. -/
def parse (words : List Text) : Except Stop Arguments := read {} words

end Arguments
end TypingBundle
