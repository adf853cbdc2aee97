import TypingBundle.CommandLine.Run
import TypingBundle.Log.Written
import TypingBundle.Store.Disk

/-!
The program. It copies the part of the disk that a run looks at into a store, lets the run decide
everything there, and then carries out on the disk what the run changed in the store.
-/

namespace TypingBundle

/-- What the bytes of a file are. -/
def Content.ofBytes (bytes : ByteArray) : Content :=
  match String.fromUTF8? bytes with
  | some decoded => .text decoded.toList
  | none => .binary bytes.data.toList

namespace Snapshot

/-- The store with the file or the empty folder that a path leads to on the disk, if there is
one. -/
def takeIn (store : DiskStore) (path : Path) : IO DiskStore := do
  let place := (← IO.currentDir) / String.ofList path.text
  if ← place.isDir then
    return (FileStore.makeDirectories store path).1
  else if ← place.pathExists then
    return store.insert path (.ofBytes (← IO.FS.readBinFile place))
  else return store

/-- The store with everything below a folder of the disk, down to a depth. -/
def takeInBelow (store : DiskStore) (folder : Path) : Nat → IO DiskStore
  | 0 => return store
  | depth + 1 => do
    let place := (← IO.currentDir) / String.ofList folder.text
    if ← place.isDir then
      let mut store ← takeIn store folder
      for entry in ← place.readDir do
        store ← takeInBelow store (folder.join ⟨entry.fileName.toList⟩) depth
      return store
    else takeIn store folder

/-- How deep folders are looked through. -/
def maxDepth : Nat := 256

/-- A location and all those it lies in, the outermost first. -/
def above (l : Location) : List Location :=
  (List.range (l.names.length + 1)).map fun n => ⟨l.rooted, l.names.take n⟩

/-- The places at which a file that was looked for could be found as well: a file that stands for
its folder, and the file beside the folder that it stands for. -/
def candidates (l : Location) : List Path :=
  let stem := l.toPath.dropDeclarationEnding
  let beside := (l.parent?.map fun folder => folder.addDeclarationEnding.toPath).toList
  [l.toPath, stem.join ⟨Name.directoryIndex.text⟩] ++ beside

/-- The store with all files that a run with these settings comes to. Each round takes in what the
round before was looking for, until nothing new is found. -/
def complete (settings : Settings) (store : DiskStore) : Nat → IO DiskStore
  | 0 => return store
  | rounds + 1 => do
    let found := Registry.discovered store settings (Bundle.sources store settings)
    let mut next := store
    for path in found.flatMap candidates do
      next ← takeIn next path
    if next.files.length = store.files.length then return next
    else complete settings next rounds

/-- How many rounds are made at most. -/
def maxRounds : Nat := 10000

/-- The store that a run with these settings needs. -/
def ofSettings (settings : Settings) (store : DiskStore) : IO DiskStore := do
  let mut store := store
  for l in above settings.outFile do
    store ← takeIn store l
  match settings.header with
  | .file l => store ← takeIn store l
  | _ => pure ()
  store ← takeIn store settings.mainFile
  store ← takeInBelow store settings.baseDir maxDepth
  complete settings store maxRounds

/-- The store that a command line needs. -/
def ofWords (words : List Text) (cwd : Path) : IO DiskStore := do
  match Arguments.parse words with
  | .error _ => return .empty
  | .ok a =>
    let store ← match a.configJson with
      | some path => takeIn .empty (cwd.join path)
      | none => pure .empty
    match CommandLine.optionsOf store a cwd with
    | .error _ => return store
    | .ok options =>
      match options.resolve cwd with
      | .error _ => return store
      | .ok settings => ofSettings settings store

/-- Carries out on the disk what is different after a run. -/
def carryOut (before after : DiskStore) : IO Unit := do
  for (names, content) in after.root.entries [] do
    let folder : Location := ⟨true, names⟩
    if content.isNone && !before.isFolder folder then
      IO.FS.createDirAll ((← IO.currentDir) / String.ofList folder.text)
  for l in after.files do
    match FileStore.read after l with
    | .error _ => pure ()
    | .ok text =>
      if (FileStore.read before l).toOption ≠ some text then
        let place := (← IO.currentDir) / String.ofList l.text
        if let some folder := place.parent then IO.FS.createDirAll folder
        IO.FS.writeFile place (String.ofList text)
  for l in before.files do
    if !FileStore.isFile after l then
      IO.FS.removeFile ((← IO.currentDir) / String.ofList l.text)

end Snapshot

/-- A variable of the environment. -/
def environment (name : String) : IO (Option Text) := do
  return (← IO.getEnv name).map String.toList

end TypingBundle

open TypingBundle in
/-- Runs the program with the words of the command line. -/
def main (words : List String) : IO UInt32 := do
  let words := words.map String.toList
  let cwd : Path := ⟨(toString (← IO.currentDir)).toList⟩
  let store ← Snapshot.ofWords words cwd
  let outcome := CommandLine.run store
    ⟨words, cwd, ← environment "DTSB_LOG", ← environment "RUST_LOG"⟩
  let format := Log.Format.parse ((← environment "DTSB_LOG_FORMAT").getD [])
  for event in outcome.events do
    IO.eprintln (String.ofList (event.line format))
  Snapshot.carryOut store outcome.store
  IO.print (String.ofList outcome.output)
  for line in outcome.report do
    IO.eprintln (String.ofList line)
  return outcome.exitCode.toUInt32
