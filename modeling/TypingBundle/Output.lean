import TypingBundle.Rename

/-!
The text of a bundle: its header, the list of what it depends on, and the files in it. Files that
are sources stand in a module block of their own.
-/

namespace TypingBundle

namespace Header

/-- The version of the program. -/
def version : Text := "0.1.0".toList

/-- The header that names the program. -/
def generatedText : Text := "// Generated by dts-bundle v".toList ++ version

/-- A text set in a block comment. -/
def comment (text : Text) : Text := "/*".toList ++ text ++ "*/".toList

end Header

namespace Dependency

/-- A dependency as a directive: by path, or by name where no file declares it. -/
def directive (settings : Settings) : Dependency → Text
  | file path => "/// <reference path=\"".toList ++ settings.displayPath path ++ "\" />".toList
  | unresolved name => "/// <reference types=\"".toList ++ name ++ "\" />".toList

/-- The line of a dependency in the list at the top. -/
def listed (settings : Settings) (d : Dependency) : Text :=
  if settings.referenceExternals then d.directive settings
  else "//   ".toList ++ d.display settings

end Dependency

namespace Output

/-- The title of the list of dependencies. -/
def dependenciesTitle : Text := "// Dependencies for this module:".toList

/-- The entries of a record under the indentation of the bundle. -/
def lines (settings : Settings) (record : Record) : List Text :=
  record.entries.map fun entry => Indent.exchange record.indent settings.indent entry.text

/-- The body of a module block: each line one unit further in. -/
def body (settings : Settings) (lines : List Text) : Text :=
  Text.join settings.newline (lines.map (settings.indent ++ ·))

/-- The block of a module. -/
def moduleBlock (settings : Settings) (name : Text) (lines : List Text) : Text :=
  let body := body settings lines
  let body := match settings.bodyHook with
    | some hook => hook name body
    | none => body
  "declare module '".toList ++ name ++ "' \x7b".toList ++ settings.newline ++ body ++
    settings.newline ++ '\x7d' :: settings.newline

/-- The text of a file in the bundle. -/
def block (settings : Settings) (record : Record) : Text :=
  let lines := lines settings record
  if record.isSource then moduleBlock settings record.exportedName lines
  else Text.join settings.newline lines ++ settings.newline

/-- The list of dependencies, which is left out if there are none. -/
def dependencyList (settings : Settings) (dependencies : List Dependency) : Text :=
  if dependencies.isEmpty then []
  else (dependenciesTitle :: dependencies.map (·.listed settings)).flatMap (· ++ settings.newline)

/-- The text of a bundle under a header, if it has one. -/
def content (settings : Settings) (registry : Registry) (inclusion : Inclusion)
    (header : Option Text) : Text :=
  let blocks := (inclusion.used.filterMap registry.get?).map (block settings)
  (match header with
    | some header => header ++ settings.newline
    | none => []) ++
    dependencyList settings inclusion.dependencies ++ settings.newline ++
    Text.join settings.newline blocks ++ settings.newline

end Output
end TypingBundle
