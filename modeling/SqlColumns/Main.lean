import SqlColumns.CommandLine.Parser
import SqlColumns.Disk
import SqlColumns.Program
import SqlColumns.Shell.Basic
import SqlColumns.Text.Timestamp

/-!
# The command

Reads the command line, the environment and the disk, runs the invocation, and prints and writes
what it leaves behind. Processes are not started: to a push it looks as if git were missing.
-/

set_option autoImplicit false

namespace SqlColumns

def settingVariables : List String :=
  ((CommandLine.CommandName.all.flatMap CommandLine.CommandName.own).filterMap
    CommandLine.Setting.environmentName?).eraseDups

def readEnvironment : IO CommandLine.Environment := do
  let mut found : CommandLine.Environment := []
  for name in settingVariables do
    match ← IO.getEnv name with
    | some value => found := found ++ [(name, value)]
    | none => pure ()
  return found

def workbookOf? : CommandLine.Action → Option Path
  | .sheets workbook => some workbook
  | .scan options => some options.book.workbook
  | .rename options => some options.book.workbook
  | .doctor => none

def namedFiles (files : FileSystem) (root : Path) : CommandLine.Action → List Path
  | .rename options =>
      match Workbook.ofDirectory files options.book.workbook with
      | .error _ => []
      | .ok workbook =>
          match workbook.sheetNames files with
          | .error _ => []
          | .ok names =>
              (names.filterMap fun name =>
                (workbook.loadRenamings files name options.layout root).toOption).flatten.map
                Renaming.file
  | _ => []

/-- Adds the files of rules of a directory, and those that tell where rules are. -/
def addRules (known : FileSystem) (folder : Path) : IO FileSystem := do
  let mut files := known
  let place := Corpus.repositoryPlace folder
  for file in [Corpus.ownRules folder, Corpus.versionedRules folder, place] do
    files ← Disk.addEntry files file.text
  match Corpus.ownFolder? files place with
  | .ok (some own) => files ← Disk.addPath files (Corpus.sharedPointer own)
  | _ => pure ()
  match Corpus.repositoryFolder? files folder with
  | .ok (some repository) => files ← Disk.addPath files (Corpus.exclusions repository)
  | _ => pure ()
  return files

def readDisk (invocation : Invocation) : IO FileSystem := do
  let here ← Disk.absolute "."
  let mut files := FileSystem.start (Disk.locationOf here)
  let root ← Disk.absolute invocation.root.text
  for folder in Corpus.above (Disk.locationOf root) do
    files ← addRules files (FileSystem.pathTo folder)
  files ← Disk.addPath files invocation.root
  match workbookOf? invocation.action with
  | some workbook => files ← Disk.addPath files workbook
  | none => pure ()
  for path in namedFiles files (invocation.absoluteRoot files) invocation.action do
    files ← Disk.addPath files path
  return files

/-- What is said of a command line that cannot be obeyed. -/
def usageText : CommandLine.UsageFault → String
  | .help | .nothingGiven | .noCommand | .unknownCommand =>
      "usage: [OPTIONS] <sheets|scan|rename|doctor> [OPTIONS]"
  | .version => "sqlcolumns"
  | .unknownArgument => "error: unexpected argument"
  | .missingArgument => "error: a required argument is missing"
  | .badValue => "error: an option lacks a value or has an empty one"
  | .needlessValue => "error: a flag takes no value"
  | .conflict => "error: arguments cannot be used together"

def runOnDisk [PatternLibrary] [Corpus.UserRules] (invocation : Invocation) : IO UInt32 := do
  let files ← readDisk invocation
  let machine : Machine :=
    { runner := Shell.runner Shell.nothingStarts
      offers := fun _ => false
      time := Text.Timestamp.ofSeconds (← Disk.seconds) }
  let coloured := (← (← IO.getStdout).isTty) && (← IO.getEnv "NO_COLOR").isNone
  let done := invocation.run machine files coloured
  Disk.save files done.files
  IO.eprint done.told
  IO.print done.output
  match done.failure with
  | some message => IO.eprintln s!"Error: {message}"
  | none => pure ()
  return UInt32.ofNat done.exitCode

end SqlColumns

def main (words : List String) : IO UInt32 := do
  match SqlColumns.CommandLine.parse (← SqlColumns.readEnvironment) words with
  | .ok invocation => @SqlColumns.runOnDisk .sizeLimited .absent invocation
  | .error fault => do
      IO.eprintln (SqlColumns.usageText fault)
      return UInt32.ofNat fault.exitCode
