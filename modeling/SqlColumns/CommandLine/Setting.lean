import SqlColumns.CommandLine.Basic

/-!
# Settings

Every option and flag of the command line: how it is spelled, whether it takes a value, which
commands know it, and the environment variable that stands in for it.
-/

set_option autoImplicit false

namespace SqlColumns.CommandLine

/-- The commands by name. -/
inductive CommandName where
  | sheets
  | scan
  | rename
  | doctor
  deriving DecidableEq, Repr

def CommandName.all : List CommandName := [.sheets, .scan, .rename, .doctor]

def CommandName.word : CommandName → String
  | .sheets => "sheets"
  | .scan => "scan"
  | .rename => "rename"
  | .doctor => "doctor"

def CommandName.ofWord? (word : String) : Option CommandName :=
  CommandName.all.find? fun name => name.word == word

def helpWord : String := "help"

/-- An option or a flag. -/
inductive Setting where
  | root
  | format
  | noColour
  | quiet
  | verbose
  | pretty
  | workbook
  | sheet
  | resultSheet
  | columnHeader
  | changeTypeHeader
  | renameMarker
  | oldHeader
  | newHeader
  | fileHeader
  | noWrite
  | skipHidden
  | respectIgnore
  | dryRun
  | push
  | defaultBranch
  | branch
  | message
  deriving DecidableEq, Repr

namespace Setting

def long : Setting → String
  | .root => "root"
  | .format => "format"
  | .noColour => "no-color"
  | .quiet => "quiet"
  | .verbose => "verbose"
  | .pretty => "pretty"
  | .workbook => "workbook"
  | .sheet => "sheet"
  | .resultSheet => "result-sheet"
  | .columnHeader => "column-header"
  | .changeTypeHeader => "change-type-header"
  | .renameMarker => "rename-marker"
  | .oldHeader => "old-header"
  | .newHeader => "new-header"
  | .fileHeader => "file-header"
  | .noWrite => "no-write"
  | .skipHidden => "skip-hidden"
  | .respectIgnore => "respect-ignore"
  | .dryRun => "dry-run"
  | .push => "push"
  | .defaultBranch => "default-branch"
  | .branch => "branch"
  | .message => "message"

/-- The letter behind one hyphen, for those that have one. -/
def short? : Setting → Option Char
  | .quiet => some 'q'
  | .verbose => some 'v'
  | .message => some 'm'
  | _ => none

def isFlag : Setting → Bool
  | .noColour | .quiet | .verbose | .pretty | .noWrite | .skipHidden | .respectIgnore | .dryRun
  | .push => true
  | _ => false

def isPath : Setting → Bool
  | .root | .workbook => true
  | _ => false

def repeats : Setting → Bool
  | .sheet => true
  | _ => false

/-- The environment variable that gives the value of a setting absent from the command line. -/
def environmentName? : Setting → Option String
  | .workbook => some "COLSWEEP_WORKBOOK"
  | .columnHeader => some "COLSWEEP_COLUMN_HEADER"
  | .changeTypeHeader => some "COLSWEEP_CHANGE_TYPE_HEADER"
  | .renameMarker => some "COLSWEEP_RENAME_MARKER"
  | .oldHeader => some "COLSWEEP_OLD_HEADER"
  | .newHeader => some "COLSWEEP_NEW_HEADER"
  | .fileHeader => some "COLSWEEP_FILE_HEADER"
  | _ => none

/-- The settings that every command knows, before and behind the word for it. -/
def common : List Setting := [.root, .format, .noColour, .quiet, .verbose, .pretty]

def ofLayout : List Setting :=
  [.columnHeader, .changeTypeHeader, .renameMarker, .oldHeader, .newHeader, .fileHeader]

def ofBook : List Setting := [.workbook, .sheet, .resultSheet]

end Setting

def CommandName.own : CommandName → List Setting
  | .sheets => [.workbook]
  | .scan => Setting.ofBook ++ Setting.ofLayout ++ [.noWrite, .skipHidden, .respectIgnore]
  | .rename =>
      Setting.ofBook ++ Setting.ofLayout ++ [.dryRun, .push, .defaultBranch, .branch, .message]
  | .doctor => []

/-- Where a word stands: before the word for a command, or behind it. -/
inductive Level where
  | outer
  | inner (name : CommandName)
  deriving DecidableEq, Repr

def Level.settings : Level → List Setting
  | .outer => Setting.common
  | .inner name => Setting.common ++ name.own

/-- What a word with hyphens asks for. -/
inductive Switch where
  | setting (setting : Setting)
  | help
  | version
  deriving DecidableEq, Repr

/-- What a long name asks for; the version is known outside of commands only. -/
def Level.long? (level : Level) (name : String) : Option Switch :=
  match level.settings.find? fun setting => setting.long == name with
  | some setting => some (.setting setting)
  | none =>
      if name = "help" then some .help
      else if name = "version" ∧ level = .outer then some .version
      else none

def Level.short? (level : Level) (letter : Char) : Option Switch :=
  match level.settings.find? fun setting => setting.short? == some letter with
  | some setting => some (.setting setting)
  | none =>
      if letter = 'h' then some .help
      else if letter = 'V' ∧ level = .outer then some .version
      else none

end SqlColumns.CommandLine
