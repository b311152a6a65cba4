import SqlColumns.FileSystem

/-!
# The disk

Reads what a run needs from the disk into a file system, and writes back the files that the run
changed. Links are kept as links to the place that they lead to.
-/

set_option autoImplicit false

namespace SqlColumns.Disk

def locationOf (path : String) : Location :=
  FileSystem.steps path

/-- The entry of what lies at a path, directories being empty for now. -/
def entryOf (path : String) : IO Entry := do
  let place := (← IO.currentDir) / path
  match (← place.symlinkMetadata).type with
  | .dir => return .directory
  | .symlink => return .link (← IO.FS.realPath place).toString
  | .file => return .file (← IO.FS.readBinFile place).toList
  | .other => return .device .sink

/-- Adds what lies at an absolute path, where something does. -/
def addEntry (files : FileSystem) (path : String) : IO FileSystem := do
  try
    let location := locationOf path
    return (files.makeDirectories location.dropLast).set location (← entryOf path)
  catch _ => return files

/-- Adds a directory and everything below it; `depth` bounds how far down. -/
def addTree : Nat → FileSystem → String → IO FileSystem
  | 0, files, _ => return files
  | depth + 1, files, path => do
      let mut loaded ← addEntry files path
      if loaded.entryAt? (locationOf path) = some .directory then
        let place := (← IO.currentDir) / path
        for child in ← place.readDir do
          loaded ← addTree depth loaded child.path.toString
      return loaded

def depthLimit : Nat := 256

def absolute (path : String) : IO String := do
  let place := (← IO.currentDir) / path
  try
    return (← IO.FS.realPath place).toString
  catch _ => return place.toString

/-- Adds the tree that a path leads to, and the path itself where it goes through links. -/
def addPath (files : FileSystem) (path : Path) : IO FileSystem := do
  let place := (← IO.currentDir) / path.text
  let real ← absolute path.text
  let direct ← if place.toString = real then pure files else addEntry files place.toString
  addTree depthLimit direct real

/-- Writes the files of `after` that differ from those of `before`. -/
def save (before after : FileSystem) : IO Unit := do
  for (location, entry) in after.entries do
    match entry with
    | .file content =>
        if before.entryAt? location != some entry then
          IO.FS.writeBinFile (FileSystem.pathTo location).text ⟨content.toArray⟩
    | _ => pure ()

/-- The time of the disk, in seconds since 1970: when a fresh file was last modified. -/
def seconds : IO Int :=
  IO.FS.withTempFile fun handle place => do
    handle.putStr " "
    handle.flush
    return (← place.metadata).modified.sec

end SqlColumns.Disk
