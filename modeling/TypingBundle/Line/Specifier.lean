import TypingBundle.Line.Scan

/-!
The forms of module specifiers: those that lead to a file, and plain names of modules.
-/

namespace TypingBundle.Specifier

/-- Relative, absolute and drive-letter specifiers (`./x`, `/x`, `c:x`) lead to a file. -/
def isPath (specifier : Text) : Bool :=
  Line.onOneLine specifier &&
    match specifier with
    | [] => false
    | c :: rest => c = '.' || c = '/' || rest.head? = some ':'

/-- Words joined by single dots and hyphens. `begun` says whether a word has begun. -/
def areWords (begun : Bool) : Text → Bool
  | [] => begun
  | c :: rest =>
    if Text.isWord c then areWords true rest
    else begun && (c = '.' || c = '-') && areWords false rest

/-- A plain module name such as `events` or `some-pkg.core`. -/
def isPlain (specifier : Text) : Bool := areWords false specifier

end TypingBundle.Specifier
