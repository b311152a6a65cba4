import SqlColumns.Json.Printer
import SqlColumns.Scan.Counts
import SqlColumns.Workbook

/-!
# Scan tables

A table has a row for each file and a column for each label. Scans are joined by file: a file seen
by any of them has one row, under the spelling of its path that came first, and a label that never
covered a file has no cell in its row.
-/

set_option autoImplicit false

namespace SqlColumns

/-- A file with its counts by label. -/
structure ScanRow where
  path : Path
  cells : List (String × Counts)
  deriving DecidableEq, Repr

namespace ScanRow

/-- The counts under a label, when the label covered the file. -/
def cell? (row : ScanRow) (label : String) : Option Counts :=
  (row.cells.find? fun one => one.1 == label).map (·.2)

def setCell (label : String) (counts : Counts) : List (String × Counts) → List (String × Counts)
  | [] => [(label, counts)]
  | (other, kept) :: cells =>
      if other = label then (label, counts) :: cells
      else (other, kept) :: setCell label counts cells

theorem find?_setCell {label other : String} {counts : Counts} {cells : List (String × Counts)} :
    ((setCell label counts cells).find? fun one => one.1 == other).map (·.2) =
      if other = label then some counts else (cells.find? fun one => one.1 == other).map (·.2) := by
  induction cells with
  | nil => grind [setCell]
  | cons head cells ih => grind [setCell]

/-- The row with these counts under a label. -/
def setCounts (row : ScanRow) (label : String) (counts : Counts) : ScanRow :=
  { row with cells := setCell label counts row.cells }

/-- An object with the cell of each label, null where there is none. -/
def toJson (row : ScanRow) (labels : List String) : Json :=
  .sorted (labels.map fun label =>
    (label, match row.cell? label with
      | some counts => counts.toJson
      | none => .null))

end ScanRow

/-- The number of the row of each file, by the components of its path. -/
abbrev RowIndex := List (List Path.Component × Nat)

namespace RowIndex

variable {index : RowIndex} {rows : List ScanRow}

def row? (index : RowIndex) (key : List Path.Component) : Option Nat :=
  (index.find? fun one => one.1 == key).map (·.2)

theorem row?_cons (key other : List Path.Component) (number : Nat) :
    row? ((key, number) :: index) other = if key = other then some number else index.row? other := by
  by_cases same : key = other <;> simp [row?, same]

/-- An index leads to the row of each file, and nowhere for a file that has none. -/
def LeadsTo (index : RowIndex) (rows : List ScanRow) : Prop :=
  ∀ key number,
    index.row? key = some number ↔ (rows[number]?.map fun row => row.path.components) = some key

theorem LeadsTo.cons (leads : index.LeadsTo rows) {path : Path}
    (absent : index.row? path.components = none) :
    RowIndex.LeadsTo ((path.components, rows.length) :: index) (rows ++ [⟨path, []⟩]) := by
  intro key number
  rw [row?_cons]
  -- The row behind all others belongs to the new path, and to it belongs no other row.
  rcases Nat.lt_trichotomy number rows.length with before | rfl | behind
  · rw [List.getElem?_append_left before, ← leads]
    by_cases same : path.components = key
    · subst same
      simp [absent, Nat.ne_of_gt before]
    · rw [if_neg same]
  · have unused : index.row? key ≠ some rows.length := by
      rw [ne_eq, leads, List.getElem?_eq_none (Nat.le_refl _)]
      simp
    simp only [List.getElem?_concat_length, Option.map_some, Option.some.injEq]
    by_cases same : path.components = key <;> simp [same, unused]
  · have unused : index.row? key ≠ some number := by
      rw [ne_eq, leads, List.getElem?_eq_none (Nat.le_of_lt behind)]
      simp
    rw [List.getElem?_eq_none (by simpa using Nat.succ_le_of_lt behind)]
    by_cases same : path.components = key
    · simp [same, Nat.ne_of_lt behind]
    · simp [same, unused]

theorem LeadsTo.modify (leads : index.LeadsTo rows) (number : Nat) {change : ScanRow → ScanRow}
    (samePath : ∀ row, (change row).path = row.path) : index.LeadsTo (rows.modify number change) := by
  intro key other
  rw [leads, List.getElem?_modify, Option.map_eq_map, Option.map_map]
  by_cases same : number = other
  · simp only [same, if_true, Function.comp_def, samePath]
  · simp only [same, if_false, Function.comp_def]

end RowIndex

/-- Labels and rows in the order in which they first appeared, and where the row of each file is. -/
structure ScanTable where
  labels : List String
  rows : List ScanRow
  index : RowIndex
  indexed : index.LeadsTo rows
  deriving DecidableEq, Repr

namespace ScanTable

def empty : ScanTable :=
  ⟨[], [], [], by simp [RowIndex.LeadsTo, RowIndex.row?]⟩

/-- The table with a row for a path, behind the others if it is new, and the number of that row. -/
def withRow (table : ScanTable) (path : Path) : ScanTable × Nat :=
  match found : table.index.row? path.components with
  | some number => (table, number)
  | none =>
      ({ table with
          rows := table.rows ++ [⟨path, []⟩]
          index := (path.components, table.rows.length) :: table.index
          indexed := table.indexed.cons found },
        table.rows.length)

def setCounts (table : ScanTable) (number : Nat) (label : String) (counts : Counts) : ScanTable :=
  { table with
    rows := table.rows.modify number fun row => row.setCounts label counts
    indexed := table.indexed.modify number fun _ => rfl }

/-- Sets the counts of one file under a label. -/
def add (label : String) (table : ScanTable) (result : FileCounts) : ScanTable :=
  let (ready, number) := table.withRow result.path
  ready.setCounts number label result.counts

def withLabel (table : ScanTable) (label : String) : ScanTable :=
  if table.labels.contains label then table else { table with labels := table.labels ++ [label] }

def merge (table : ScanTable) (label : String) (results : List FileCounts) : ScanTable :=
  results.foldl (add label) (table.withLabel label)

def fileNameHeader : String := "file_name"

/-- The text of a cell in a sheet: the counts as an object, or nothing. -/
def cellText (row : ScanRow) (label : String) : String :=
  match row.cell? label with
  | some counts => counts.toJson.compact
  | none => ""

/-- The table as a sheet: the shown path of each file, then a cell for each label. -/
def toSheet (table : ScanTable) (name : String) (root : Path) : Sheet :=
  { name := name
    headers := fileNameHeader :: table.labels
    rows := table.rows.map fun row => root.display row.path :: table.labels.map (cellText row) }

/-- Writes the table into a workbook as the sheet with the given name. -/
def write (table : ScanTable) (files : FileSystem) (workbook : Workbook) (name : String)
    (root : Path) : Except Failure (FileSystem × Workbook) :=
  workbook.writeSheet files (table.toSheet name root)

end ScanTable

end SqlColumns
