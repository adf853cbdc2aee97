import TypingBundle.Path.Basic

/-!
Why an operation on a file can fail.
-/

namespace TypingBundle.Store

/-- Why an operation on a file failed. -/
inductive Cause where
  /-- The in-memory store holds no such file; the path is given as it was asked for. -/
  | noSuchFile (path : Path)
  | notFound
  | isDirectory
  | notDirectory
  | alreadyExists
  /-- A name, or a whole path, is longer than a disk allows. -/
  | nameTooLong
  /-- The bytes of a file are not UTF-8. -/
  | invalidText
  /-- A path holds a character that no path can hold. -/
  | invalidPath
deriving DecidableEq

namespace Cause

/-- The cause in words. -/
def message : Cause → Text
  | noSuchFile path => "no such file: ".toList ++ path.text
  | notFound => "No such file or directory (os error 2)".toList
  | isDirectory => "Is a directory (os error 21)".toList
  | notDirectory => "Not a directory (os error 20)".toList
  | alreadyExists => "File exists (os error 17)".toList
  | nameTooLong => "File name too long (os error 36)".toList
  | invalidText => "stream did not contain valid UTF-8".toList
  | invalidPath => "file name contained an unexpected NUL byte".toList

end Cause
end TypingBundle.Store
