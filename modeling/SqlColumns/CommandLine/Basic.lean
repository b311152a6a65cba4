import SqlColumns.Sheet

/-!
# Invocations

What a command line asks for: the command with its options, and the options that every command
has. A command line that asks for nothing that can be done has a usage fault instead.
-/

set_option autoImplicit false

namespace SqlColumns

namespace CommandLine

/-- The workbook of a command, the sheets asked for by name, and the sheet of results. -/
structure BookOptions where
  workbook : Path
  sheets : List String
  resultSheet : String
  deriving DecidableEq, Repr

/-- The options of a scan. -/
structure ScanOptions where
  book : BookOptions
  layout : Layout
  noWrite : Bool
  skipHidden : Bool
  respectIgnore : Bool
  deriving DecidableEq, Repr

/-- The options of a renaming. -/
structure RenameOptions where
  book : BookOptions
  layout : Layout
  dryRun : Bool
  push : Bool
  defaultBranch : Option String
  branch : Option String
  message : Option String
  deriving DecidableEq, Repr

/-- A command with its options. -/
inductive Action where
  | sheets (workbook : Path)
  | scan (options : ScanOptions)
  | rename (options : RenameOptions)
  | doctor
  deriving DecidableEq, Repr

/-- What is wrong with a command line, or the text that it asks for in place of a command. -/
inductive UsageFault where
  | help
  | version
  | nothingGiven
  | noCommand
  | unknownCommand
  | unknownArgument
  | missingArgument
  | badValue
  | needlessValue
  | conflict
  deriving DecidableEq, Repr

/-- The exit code of a usage fault: asking for help or the version is none. -/
def UsageFault.exitCode : UsageFault → Nat
  | .help | .version => 0
  | _ => 2

abbrev Environment := List (String × String)

def Environment.value? (environment : Environment) (name : String) : Option String :=
  (environment.find? fun one => one.1 == name).map (·.2)

end CommandLine

/-- A command, where its repository lies, and how it reports. -/
structure Invocation where
  root : Path
  format : String
  noColour : Bool
  quiet : Bool
  verbose : Bool
  pretty : Bool
  action : CommandLine.Action
  deriving DecidableEq, Repr

end SqlColumns
