import SqlColumns.Failure

/-!
# Sheets and their layout

A sheet has a name, a row of headers and rows of text cells. A layout says which headers carry
which field, and which cells mark a row as a renaming.
-/

set_option autoImplicit false

namespace SqlColumns

/-- A named table of text cells; rows may be shorter or longer than the headers. -/
structure Sheet where
  name : String
  headers : List String
  rows : List (List String)
  deriving DecidableEq, Repr, Inhabited

namespace Sheet

/-- The first column whose header is the given one, blanks around both aside. -/
def column (sheet : Sheet) (header : String) : Except Failure Nat :=
  match sheet.headers.findIdx? fun one => Text.trimString one == Text.trimString header with
  | some index => .ok index
  | none => .error (.missingHeader sheet.name header)

/-- The cell of a row without blanks around it; a row that is too short has an empty one. -/
def cell (row : List String) (index : Nat) : String :=
  match row[index]? with
  | some text => Text.trimString text
  | none => ""

end Sheet

/-- Which header carries which field. -/
structure Layout where
  columnHeader : String := "Column Name"
  changeTypeHeader : String := "Change Type"
  renameMarker : String := "COL RENAME"
  oldHeader : String := "Search Key"
  newHeader : String := "Renamed objects"
  fileHeader : String := "File"
  deriving DecidableEq, Repr, Inhabited

/-- A change type that, without the blanks around it, is the marker of renamings. -/
def Layout.isRename (layout : Layout) (changeType : String) : Bool :=
  Text.trimString changeType == layout.renameMarker

/-- The name of the sheet that holds scan tables unless another one is asked for. -/
def defaultResultSheet : String := "result"

/-- Identifiers to look for, under the label of the sheet that lists them. -/
structure TargetSet where
  label : String
  identifiers : List String
  deriving DecidableEq, Repr

/-- One renaming: `old` becomes `new` in a file. -/
structure Renaming where
  old : String
  new : String
  file : Path
  deriving DecidableEq, Repr

namespace Sheet

/-- The identifiers in the identifier column, empty cells left out. -/
def targets (sheet : Sheet) (layout : Layout) : Except Failure (List String) := do
  let index ← sheet.column layout.columnHeader
  return (sheet.rows.map fun row => cell row index).filter fun text => !text.isEmpty

/-- The columns that renamings are read from. -/
structure RenameColumns where
  changeType : Nat
  old : Nat
  new : Nat
  file : Nat
  deriving DecidableEq, Repr

/-- The columns of a layout, the first missing one being the failure. -/
def renameColumns (sheet : Sheet) (layout : Layout) : Except Failure RenameColumns := do
  let changeType ← sheet.column layout.changeTypeHeader
  let old ← sheet.column layout.oldHeader
  let new ← sheet.column layout.newHeader
  let file ← sheet.column layout.fileHeader
  return ⟨changeType, old, new, file⟩

def requiredCell (sheetName : String) (number : Nat) (header : String) (row : List String)
    (index : Nat) : Except Failure String :=
  let text := cell row index
  if text.isEmpty then .error (.emptyCell sheetName number header) else .ok text

def renamingOfRow (sheetName : String) (layout : Layout) (root : Path) (columns : RenameColumns)
    (number : Nat) (row : List String) : Except Failure Renaming := do
  let old ← requiredCell sheetName number layout.oldHeader row columns.old
  let new ← requiredCell sheetName number layout.newHeader row columns.new
  let file ← requiredCell sheetName number layout.fileHeader row columns.file
  return ⟨old, new, root.resolveUnder file⟩

/-- The renamings of the marked rows, the first of which has the given number. -/
def renamingsFrom (sheetName : String) (layout : Layout) (root : Path) (columns : RenameColumns)
    (number : Nat) : List (List String) → Except Failure (List Renaming)
  | [] => .ok []
  | row :: rows =>
      if layout.isRename (cell row columns.changeType) then
        match renamingOfRow sheetName layout root columns number row with
        | .error failure => .error failure
        | .ok first =>
            match renamingsFrom sheetName layout root columns (number + 1) rows with
            | .error failure => .error failure
            | .ok others => .ok (first :: others)
      else renamingsFrom sheetName layout root columns (number + 1) rows

/-- The renamings of a sheet, their files seen from `root`. Rows are numbered as spreadsheets do:
the headers are row one. -/
def renamings (sheet : Sheet) (layout : Layout) (root : Path) : Except Failure (List Renaming) := do
  let columns ← sheet.renameColumns layout
  renamingsFrom sheet.name layout root columns 2 sheet.rows

end Sheet

end SqlColumns
