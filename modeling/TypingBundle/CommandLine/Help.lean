import TypingBundle.CommandLine.Arguments

/-!
The help that the program prints, in short and in full. Help in full leaves a blank line after each
option and explains the values that an option can have.
-/

namespace TypingBundle.Help

/-- The values that an option can have. -/
inductive Values where
  | anything
  /-- Any of these. -/
  | listed (names : List String)
  /-- Any of these, each with an explanation. -/
  | explained (names : List (String × String))

/-- An option and what it is for. -/
structure Entry where
  usage : String
  purpose : String
  values : Values := .anything

/-- The options, in order. -/
def entries (full : Bool) : List Entry := [
  ⟨"    --configJson <CONFIG_JSON>",
    "Path to a JSON option file. Loaded first; command-line options override it", .anything⟩,
  ⟨"    --name <NAME>", "Name of the bundled module, as in package.json", .anything⟩,
  ⟨"    --main <MAIN>", "Path to the entry declaration file", .anything⟩,
  ⟨"    --baseDir <BASE_DIR>",
    "Directory to discover source declarations in (default: directory of main)", .anything⟩,
  ⟨"    --out <OUT>",
    "Output file, relative to baseDir. A leading `~/` makes it relative to the current directory",
    .anything⟩,
  ⟨"    --externals", "Inline typings of bare module imports (e.g. node.d.ts)", .anything⟩,
  ⟨"    --referenceExternals", "List omitted external dependencies as reference directives",
    .anything⟩,
  ⟨"    --exclude <EXCLUDE>",
    "Regular expression over base-relative paths of dependencies to leave out", .anything⟩,
  ⟨"    --removeSource",
    "Delete every source declaration under baseDir after writing the bundle", .anything⟩,
  ⟨"    --newline <NEWLINE>", "Newline style of the output file",
    .explained [("unix", "Line feed only (\\\\n)"),
      ("windows", "Carriage return followed by line feed (\\\\r\\\\n)"),
      ("currentOsDefault", "Whatever the current platform uses")]⟩,
  ⟨"    --indent <INDENT>", "Indentation unit of the output file", .anything⟩,
  ⟨"    --prefix <PREFIX>", "Prefix for rewritten module names", .anything⟩,
  ⟨"    --separator <SEPARATOR>", "Separator for rewritten module path names", .anything⟩,
  ⟨"    --verbose", "Log every reference, inclusion and exclusion", .anything⟩,
  ⟨"    --emitOnIncludedFileNotFound [<EMIT_ON_INCLUDED_FILE_NOT_FOUND>]",
    "Emit even if an included file was not found", .listed ["true", "false"]⟩,
  ⟨"    --emitOnNoIncludedFileNotFound [<EMIT_ON_NO_INCLUDED_FILE_NOT_FOUND>]",
    "Emit even if a file that is not included was not found", .listed ["true", "false"]⟩,
  ⟨"    --headerPath <HEADER_PATH>",
    "File whose contents replace the generated header, or `none` to omit it", .anything⟩,
  ⟨"    --headerText <HEADER_TEXT>", "Text that replaces the generated header", .anything⟩,
  ⟨"-h, --help",
    if full then "Print help (see a summary with '-h')" else "Print help (see more with '--help')",
    .anything⟩,
  ⟨"-V, --version", "Print version", .anything⟩]

/-- Values in one line. -/
def listedLine (names : List String) : String :=
  "[possible values: " ++ String.intercalate ", " names ++ "]"

/-- The width of the longest name. -/
def widest (names : List (String × String)) : Nat :=
  names.foldl (fun width (name, _) => max width name.length) 0

/-- Values with their explanations, one in a line. -/
def explainedLines (names : List (String × String)) : List String :=
  names.map fun (name, explanation) =>
    "- " ++ name ++ ":" ++ String.ofList (List.replicate (widest names - name.length + 1) ' ') ++
      explanation

/-- What is said about an option, line by line. -/
def body (full : Bool) (e : Entry) : List String :=
  match e.values, full with
  | .anything, _ => [e.purpose]
  | .listed names, true => [e.purpose, "", listedLine names]
  | .listed names, false => [e.purpose ++ " " ++ listedLine names]
  | .explained names, true => [e.purpose, "", "Possible values:"] ++ explainedLines names
  | .explained names, false => [e.purpose ++ " " ++ listedLine (names.map Prod.fst)]

/-- An option with what is said about it, indented. -/
def entryLines (full : Bool) (e : Entry) : List String :=
  ("  " ++ e.usage) ::
    (body full e).map fun line => if line = "" then "" else "          " ++ line

/-- Everything that is printed. -/
def text (full : Bool) : Text :=
  let blocks := (entries full).map fun e => String.intercalate "\n" (entryLines full e)
  ("Bundle a tree of TypeScript declaration files into a single .d.ts\n\n" ++
    "Usage: dts-bundle [OPTIONS]\n\nOptions:\n" ++
    String.intercalate (if full then "\n\n" else "\n") blocks ++ "\n").toList

end TypingBundle.Help
