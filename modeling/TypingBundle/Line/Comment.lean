import TypingBundle.Line.Scan

/-!
Comment lines: the beginning and the end of block comments, documentation comments, line comments,
and the directives that refer to another file.
-/

namespace TypingBundle.Line

/-- A line that begins with the end of a block comment. -/
def isBlockEnd (line : Text) : Bool :=
  let text := unindented line
  text.head? = some '*' && (text.dropWhile (· = '*')).head? = some '/'

/-- A line that ends with the end of a block comment. -/
def closesBlock (line : Text) : Bool :=
  Text.startsWith ['/', '*'] (unindented line.reverse)

/-- Whether a line opens a block comment. -/
def opensBlock (line : Text) : Bool := Text.startsWith ['/', '*'] (unindented line)

/-- For a line that opens a block comment, whether it ends on the same line. -/
def blockStart? (line : Text) : Option Bool :=
  if opensBlock line then some (closesBlock line) else none

/-- A line that opens a documentation comment. -/
def isDocStart (line : Text) : Bool := Text.startsWith ['/', '*', '*'] (unindented line)

/-- Continuation lines of documentation comments are set one space to the right, so that their
stars stand below that of the first line. -/
def alignDoc (line : Text) : Text :=
  let text := unindented line
  if text.head? = some '*' && onOneLine text then indentation line ++ ' ' :: text else line

/-- A line that holds only a line comment. -/
def isLineComment (line : Text) : Bool := Text.startsWith ['/', '/'] (unindented line)

/-- Whether a reference directive closes here. -/
def closesDirective (text : Text) : Bool :=
  match Text.dropStart? ['/', '>'] (unindented text) with
  | some rest => onOneLine rest
  | none => false

/-- The longest beginning of `run`, shorter than the whole, after which a directive closes.
`rest` follows the run. -/
def unclosedPath? (run rest : Text) : Option Text :=
  match run with
  | [] => none
  | c :: run =>
    match unclosedPath? run rest with
    | some path => some (c :: path)
    | none => if closesDirective (c :: run ++ rest) then some [] else none

/-- The path of a directive after its opening quote mark. It ends at a quote mark, which may be
left out before the end of the directive. -/
def directivePath? (text : Text) : Option Text :=
  let run := text.takeWhile fun c => !isQuote c
  let rest := text.dropWhile fun c => !isQuote c
  if closesDirective (rest.drop 1) then some run else unclosedPath? run rest

/-- The path of a directive that refers to another declaration file. -/
def reference? (line : Text) : Option Text := do
  let text ← Text.dropStart? "///".toList (unindented line)
  let text ← Text.dropStart? "<reference".toList (unindented text)
  let gap := indentation text
  let text ← Text.dropStart? "path=".toList (unindented text)
  match text with
  | quote :: text => if gap ≠ [] && isQuote quote then directivePath? text else none
  | [] => none

end TypingBundle.Line
