import TypingBundle.Line.Scan

/-!
Lines that name another module in quotes: imports in three styles, and declarations of ambient
modules.
-/

namespace TypingBundle.Line

/-- How a line imports another module. -/
inductive ImportStyle where
  /-- `import x = require('…');` -/
  | require
  /-- `import … from '…';` and `export … from '…';` -/
  | esModule
  /-- `import '…';` -/
  | sideEffect
deriving DecidableEq

/-- An import line. -/
structure Import where
  style : ImportStyle
  spec : QuotedSpecifier
deriving DecidableEq

/-- Keeps a quoted specifier that is followed by the given text and nothing beyond the line. -/
def followedBy (closing : Text) (found : QuotedSpecifier) : Option QuotedSpecifier :=
  if Text.startsWith closing found.trail && onOneLine found.trail then some found else none

/-- Specifiers of `from` clauses hold neither a space nor a comma. -/
def isClauseChar (c : Char) : Bool := c ≠ ' ' && c ≠ ','

/-- The assignment of a required module to a target that ends before it. -/
def requireAt? (before : Option Char) (text : Text) : Option QuotedSpecifier := do
  let assignment := " = require(".toList
  let text ← Text.dropStart? assignment text
  let found ← quotedSpecifier? (fun _ => true) assignment text
  if before.isNone then none else followedBy ");".toList found

/-- A line that imports a module by assignment. -/
def requireImport? (line : Text) : Option QuotedSpecifier := do
  let (exported, text) := optionalStart "export ".toList (unindented line)
  let text ← Text.dropStart? "import ".toList text
  let (target, found) ← firstCut? requireAt? [] text
  some (found.after (indentation line ++ exported ++ "import ".toList ++ target))

/-- A `from` clause, which must not run into the text before it. -/
def clauseAt? (before : Option Char) (text : Text) : Option QuotedSpecifier := do
  let text ← Text.dropStart? "from".toList text
  let (gap, text) := optionalStart [' '] text
  let found ← quotedSpecifier? isClauseChar ("from".toList ++ gap) text
  if (before.map Text.isWord).getD true then none else followedBy [';'] found

/-- The keyword of an import or export clause that a text begins with, as a whole word. -/
def clauseKeyword? (text : Text) : Option (Text × Text) :=
  let keyword? := fun word => (Text.dropStart? word text).bind fun rest =>
    if (rest.head?.map Text.isWord).getD false then none else some (word, rest)
  (keyword? "export".toList).orElse fun _ => keyword? "import".toList

/-- A line that imports or exports with a `from` clause. -/
def clauseImport? (line : Text) : Option QuotedSpecifier := do
  let (keyword, text) ← clauseKeyword? (unindented line)
  let (names, found) ← firstCut? clauseAt? [] text
  some (found.after (indentation line ++ keyword ++ names))

/-- A line that imports a module for its effects alone. -/
def sideEffectImport? (line : Text) : Option QuotedSpecifier := do
  let text ← Text.dropStart? "import".toList (unindented line)
  let (gap, text) := optionalStart [' '] text
  let found ← quotedSpecifier? isClauseChar (indentation line ++ "import".toList ++ gap) text
  followedBy [';'] found

/-- An import in one of the two styles without assignment. -/
def esImport? (line : Text) : Option Import :=
  match clauseImport? line with
  | some spec => some ⟨.esModule, spec⟩
  | none => (sideEffectImport? line).map fun spec => ⟨.sideEffect, spec⟩

/-- An import line of any style; assignment is looked for first, then a `from` clause. -/
def import? (line : Text) : Option Import :=
  match requireImport? line with
  | some spec => some ⟨.require, spec⟩
  | none => esImport? line

/-- A line that declares an ambient module. -/
def moduleDeclaration? (line : Text) : Option QuotedSpecifier := do
  let keyword := "declare module ".toList
  let text ← Text.dropStart? keyword (unindented line)
  let found ← quotedSpecifier? (fun _ => true) (indentation line ++ keyword) text
  followedBy [] found

end TypingBundle.Line
