import TypingBundle.Path.Location
import TypingBundle.Store.Cause

/-!
The operations on files that a run needs. A store is a value, and an operation that changes files
gives the store after it.
-/

namespace TypingBundle

/-- A collection of text files. -/
class FileStore (σ : Type) where
  /-- The text of a file. -/
  read : σ → Path → Except Store.Cause Text
  /-- The store with a file written. -/
  write : σ → Path → Text → Except Store.Cause σ
  /-- The store with a file removed. -/
  remove : σ → Path → Except Store.Cause σ
  /-- Whether there is a file or a directory. -/
  isPresent : σ → Path → Bool
  /-- Whether there is a file. -/
  isFile : σ → Path → Bool
  /-- The store with a directory and all those above it. Where that fails, the store has the
  directories that were made before. -/
  makeDirectories : σ → Path → σ × Option Store.Cause
  /-- The declaration files at or below a directory, in the order of their locations. -/
  declarationFiles : σ → Path → List Location
  /-- The locations of all files. -/
  files : σ → List Location
  /-- Only there are files found. -/
  mem_files : ∀ (store : σ) (l : Location), isFile store l = true → l ∈ files store

namespace Store

variable {σ : Type} [FileStore σ]

/-- The text of a declaration file, without a byte-order mark and without blank space at the
end. -/
def readDeclarations (store : σ) (path : Path) : Except Cause Text :=
  (FileStore.read store path).map fun text => Text.trimEnd (Text.dropByteOrderMark text)

end Store
end TypingBundle
