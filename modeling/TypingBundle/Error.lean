import TypingBundle.Store.Cause

/-!
Why a bundle can not be made. Each of these ends a run before anything is written, apart from a
failure of the writing itself.
-/

namespace TypingBundle

/-- Why a run failed. -/
inductive BundleError where
  /-- A required option was not given. -/
  | missingOption (option : Text)
  /-- An option was given with a value that can not be used. -/
  | invalidOption (option reason : Text)
  /-- The main file does not exist. -/
  | mainNotFound (path : Path)
  /-- Two files declare the same ambient module. -/
  | duplicateExport (name : Text) (first second : Path)
  /-- An operation on a file failed. -/
  | io (path : Path) (cause : Store.Cause)
  /-- The header file could not be read. -/
  | header (path : Path) (cause : Store.Cause)
deriving DecidableEq

namespace BundleError

/-- The error in words. -/
def message : BundleError → Text
  | missingOption option => "option \"".toList ++ option ++ "\" must be defined".toList
  | invalidOption option reason => "option \"".toList ++ option ++ "\" ".toList ++ reason
  | mainNotFound path => "main does not exist: ".toList ++ path.text
  | duplicateExport name first second =>
    "already got export for: ".toList ++ name ++ " (declared in ".toList ++ first.text ++
      " and ".toList ++ second.text ++ [')']
  | io path cause => path.text ++ ": ".toList ++ cause.message
  | header path cause =>
    "failed to read header file ".toList ++ path.text ++ ": ".toList ++ cause.message

/-- The cause that an error passes on, if it has one. -/
def cause? : BundleError → Option Store.Cause
  | io _ cause => some cause
  | header _ cause => some cause
  | _ => none

end BundleError
end TypingBundle
