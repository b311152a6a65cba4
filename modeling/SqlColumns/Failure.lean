import SqlColumns.Corpus.IgnoreRules

/-!
# Failures

Every way in which an operation can fail, as a cause. A failure has a stable code, a message, and
the texts of the causes beneath it, which a chain of messages repeats.
-/

set_option autoImplicit false

namespace SqlColumns

/-- Where in a sheet file bytes are not UTF-8: the record, the line, the field and the byte at
which its record starts, and the offset in the field. -/
structure BadText where
  record : Nat
  line : Nat
  field : Nat
  start : Nat
  offset : Nat
  deriving DecidableEq, Repr

/-- Why a sheet file can be neither read nor written. -/
inductive SheetFault where
  | badText (place : BadText)
  | system (cause : OsError)
  deriving DecidableEq, Repr

def SheetFault.message : SheetFault → String
  | .badText place =>
      s!"CSV parse error: record {place.record} (line {place.line}, field: {place.field}, " ++
        s!"byte: {place.start}): invalid utf-8: invalid UTF-8 in field {place.field} " ++
        s!"near byte index {place.offset}"
  | .system cause => cause.message

/-- Why an operation fails. -/
inductive Failure where
  | emptyIdentifier
  | refusedPattern (spelling complaint : String)
  | unreadable (path : Path) (cause : OsError)
  | undecodable (path : Path) (offset : Nat)
  | unwritable (path : Path) (cause : OsError)
  | unknownSheet (name : String)
  | missingHeader (sheet header : String)
  | badSheet (sheet : String) (fault : SheetFault)
  | unlistable (path : Path) (cause : OsError)
  | badBranch (name : String)
  | commandFailed (command errors : String)
  | notWorkbook (path : Path)
  | badSheetName (name : String)
  | emptyCell (sheet : String) (row : Nat) (header : String)
  | notRepository (path : Path)
  | unwalkable (root : Path) (faults : List RuleFault)
  | unreached (root folder : Path) (cause : OsError)
  | nothingToScan
  | missingFile (sheet : String) (path : Path)
  | pushWithDryRun
  | emptyMessage
  deriving DecidableEq, Repr

namespace Failure

def code : Failure → String
  | .emptyIdentifier => "EMPTY_IDENTIFIER"
  | .unreadable _ _ => "READ_FAILED"
  | .undecodable _ _ => "DECODE_FAILED"
  | .unwritable _ _ => "WRITE_FAILED"
  | .unknownSheet _ => "UNKNOWN_SHEET"
  | .missingHeader _ _ => "MISSING_HEADER"
  | .badSheet _ _ => "SHEET_INVALID"
  | .unlistable _ _ => "IO_FAILED"
  | .badBranch _ => "INVALID_BRANCH"
  | .commandFailed _ _ => "COMMAND_FAILED"
  | .refusedPattern _ _ | .notWorkbook _ | .badSheetName _ | .emptyCell _ _ _ | .notRepository _
  | .unwalkable _ _ | .unreached _ _ _ | .nothingToScan | .missingFile _ _ | .pushWithDryRun
  | .emptyMessage => "INVALID_INPUT"

def listingMessage (path : Path) (cause : OsError) : String :=
  s!"IO error for operation on {path.shown}: {cause.message}"

def message : Failure → String
  | .emptyIdentifier => "identifier must not be empty"
  | .refusedPattern spelling complaint => s!"cannot compile identifier '{spelling}': {complaint}"
  | .unreadable path cause => s!"failed to read {path.shown}: {cause.message}"
  | .undecodable path offset =>
      s!"{path.shown} is not valid UTF-8 (first invalid byte at offset {offset})"
  | .unwritable path cause => s!"failed to write {path.shown}: {cause.message}"
  | .unknownSheet name => s!"sheet '{name}' not found in workbook"
  | .missingHeader sheet header => s!"sheet '{sheet}' has no '{header}' column"
  | .badSheet sheet fault => s!"sheet '{sheet}': {fault.message}"
  | .unlistable path cause => s!"cannot list {path.shown}: {listingMessage path cause}"
  | .badBranch name => s!"invalid branch name '{name}'"
  | .commandFailed command errors => s!"command failed: {command}\n{errors}"
  | .notWorkbook path => s!"workbook {path.shown} is not a directory"
  | .badSheetName name => s!"invalid sheet name '{name}'"
  | .emptyCell sheet row header => s!"sheet '{sheet}' row {row}: '{header}' is empty"
  | .notRepository path =>
      s!"repository path {path.shown} does not exist or is not a directory"
  | .unwalkable root faults =>
      let listed := "\n".intercalate (faults.map RuleFault.message)
      s!"cannot walk {root.shown}: {listed}"
  | .unreached root folder cause =>
      s!"cannot walk {root.shown}: {folder.shown}: {listingMessage folder cause}"
  | .nothingToScan => "workbook has no sheets to scan"
  | .missingFile sheet path => s!"sheet '{sheet}': file {path.shown} does not exist"
  | .pushWithDryRun => "--push cannot be combined with --dry-run"
  | .emptyMessage => "commit message must not be empty"

def causes : Failure → List String
  | .unreadable _ cause | .unwritable _ cause => [cause.message]
  | .badSheet _ fault => [fault.message]
  | .unlistable path cause => [listingMessage path cause, cause.message]
  | _ => []

/-- The message of a failure and of everything beneath it. -/
def chain (failure : Failure) : String :=
  ": ".intercalate (failure.message :: failure.causes)

end Failure

end SqlColumns
