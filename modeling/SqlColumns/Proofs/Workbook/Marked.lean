import Mathlib.Data.List.Nodup
import SqlColumns.Proofs.Workbook.Reached

/-!
# Marked rows and their places

The marked rows of the sheets of a workbook, each with its sheet, its place among the rows and its
cells. No two of them are at one place.
-/

set_option autoImplicit false

namespace SqlColumns

/-- A row that is marked as a renaming: the label of its sheet, its place among all rows of the sheet,
and its cells. -/
structure MarkedRow where
  label : String
  place : Nat
  old : String
  new : String
  file : String
  deriving DecidableEq, Repr

def MarkedRow.mapping (root : Path) (row : MarkedRow) : Renaming :=
  ⟨row.old, row.new, root.resolveUnder row.file⟩

namespace Sheet

def rowAt (label : String) (columns : RenameColumns) (one : List String × Nat) : MarkedRow :=
  ⟨label, one.2, cell one.1 columns.old, cell one.1 columns.new, cell one.1 columns.file⟩

def placedRows (layout : Layout) (columns : RenameColumns) (rows : List (List String)) :
    List (List String × Nat) :=
  rows.zipIdx.filter fun one => layout.isRename (cell one.1 columns.changeType)

variable {layout : Layout} {columns : RenameColumns} {rows : List (List String)}

theorem map_fst_placedRows :
    (placedRows layout columns rows).map Prod.fst = markedRows layout columns rows := by
  have all : rows.zipIdx.map Prod.fst = rows := List.zipIdx_map_fst 0 rows
  rw [markedRows, ← all, List.filter_map, all]
  rfl

/-- Marked rows stand in order. -/
theorem places_placedRows : ((placedRows layout columns rows).map Prod.snd).Pairwise (· < ·) := by
  have all : (rows.zipIdx.map Prod.snd).Pairwise (· < ·) := by
    rw [List.zipIdx_map_snd]
    exact List.pairwise_lt_range'
  exact all.sublist (List.filter_sublist.map Prod.snd)

end Sheet

namespace Workbook

/-- The marked rows of the sheet with a label. A sheet that cannot be read or lacks a column of
renamings has none. -/
def marked (workbook : Workbook) (files : FileSystem) (layout : Layout) (label : String) :
    List MarkedRow :=
  match workbook.readSheet files label with
  | .error _ => []
  | .ok sheet =>
      match sheet.renameColumns layout with
      | .error _ => []
      | .ok columns => (Sheet.placedRows layout columns sheet.rows).map (Sheet.rowAt label columns)

/-- A sheet can be read and has the columns of renamings, and its marked rows have their cells. -/
def HasRenamings (workbook : Workbook) (files : FileSystem) (layout : Layout) (label : String) :
    Prop :=
  ∃ sheet columns, workbook.readSheet files label = .ok sheet ∧
    sheet.renameColumns layout = .ok columns ∧
    ∀ row ∈ Sheet.markedRows layout columns sheet.rows, Sheet.IsComplete columns row

def LacksHeader (workbook : Workbook) (files : FileSystem) (layout : Layout) (label : String) :
    Prop :=
  ∃ sheet name header, workbook.readSheet files label = .ok sheet ∧
    sheet.renameColumns layout = .error (.missingHeader name header)

variable {files : FileSystem} {workbook : Workbook} {label : String} {layout : Layout} {root : Path}
  {mappings : List Renaming}

theorem marked_of_columns {sheet : Sheet} {columns : Sheet.RenameColumns}
    (read : workbook.readSheet files label = .ok sheet)
    (own : sheet.renameColumns layout = .ok columns) :
    workbook.marked files layout label =
      (Sheet.placedRows layout columns sheet.rows).map (Sheet.rowAt label columns) := by
  simp only [marked, read, own]

theorem LacksHeader.marked (lacks : workbook.LacksHeader files layout label) :
    workbook.marked files layout label = [] := by
  obtain ⟨sheet, name, header, read, missing⟩ := lacks
  simp only [Workbook.marked, read, missing]

theorem marked_cases (workbook : Workbook) (files : FileSystem) (layout : Layout) (label : String) :
    workbook.marked files layout label = [] ∨ ∃ sheet columns,
      workbook.readSheet files label = .ok sheet ∧ sheet.renameColumns layout = .ok columns ∧
        workbook.marked files layout label =
          (Sheet.placedRows layout columns sheet.rows).map (Sheet.rowAt label columns) := by
  cases read : workbook.readSheet files label with
  | error failure => exact .inl (by simp only [marked, read])
  | ok sheet =>
      cases own : sheet.renameColumns layout with
      | error failure => exact .inl (by simp only [marked, read, own])
      | ok columns => exact .inr ⟨sheet, columns, rfl, own, marked_of_columns read own⟩

/-- A marked row has the label of its sheet and the cells of one of the sheet's rows. -/
theorem cells_of_mem_marked {row : MarkedRow}
    (member : row ∈ workbook.marked files layout label) :
    row.label = label ∧ ∃ sheet columns cells,
      workbook.readSheet files label = .ok sheet ∧ sheet.renameColumns layout = .ok columns ∧
        cells ∈ Sheet.markedRows layout columns sheet.rows ∧
        row.file = Sheet.cell cells columns.file := by
  rcases workbook.marked_cases files layout label with none | ⟨sheet, columns, read, own, same⟩
  · rw [none] at member
    cases member
  · rw [same] at member
    obtain ⟨one, placed, rfl⟩ := List.mem_map.mp member
    refine ⟨rfl, sheet, columns, one.1, read, own, ?_, rfl⟩
    rw [← Sheet.map_fst_placedRows]
    exact List.mem_map_of_mem placed

/-- No marked row of different sheets is at the place of another one. -/
theorem nodup_marked {labels : List String} (distinct : labels.Nodup) :
    ((labels.flatMap (workbook.marked files layout)).map
      fun row => (row.label, row.place)).Nodup := by
  -- Within a sheet the places differ, and between sheets the labels do.
  refine List.pairwise_map.mpr (List.pairwise_flatMap.mpr ⟨fun label _ => ?_, ?_⟩)
  · rcases workbook.marked_cases files layout label with none | ⟨sheet, columns, -, -, same⟩
    · rw [none]
      exact .nil
    · rw [same]
      refine List.pairwise_map.mpr ((List.pairwise_map.mp Sheet.places_placedRows).imp ?_)
      exact fun before both => Nat.ne_of_lt before (Prod.ext_iff.mp both).2
  · refine distinct.imp fun apart first here second there same => apart ?_
    rw [← (cells_of_mem_marked here).1, ← (cells_of_mem_marked there).1]
    exact (Prod.ext_iff.mp same).1

/-- The renamings of a sheet are those of its marked rows. -/
theorem loadRenamings_eq_ok_iff :
    workbook.loadRenamings files label layout root = .ok mappings ↔
      workbook.HasRenamings files layout label ∧
        (workbook.marked files layout label).map (MarkedRow.mapping root) = mappings := by
  have moved : ∀ sheet columns, workbook.readSheet files label = .ok sheet →
      sheet.renameColumns layout = .ok columns →
      (workbook.marked files layout label).map (MarkedRow.mapping root) =
        (Sheet.markedRows layout columns sheet.rows).map (Sheet.renamingOf root columns) := by
    intro sheet columns read own
    rw [marked_of_columns read own, ← Sheet.map_fst_placedRows, List.map_map, List.map_map]
    rfl
  simp only [loadRenamings, Sheet.renamings, bind_eq_ok_iff, HasRenamings,
    Sheet.renamingsFrom_eq_ok_iff]
  constructor
  · rintro ⟨sheet, read, columns, own, complete, rfl⟩
    exact ⟨⟨sheet, columns, read, own, complete⟩, moved sheet columns read own⟩
  · rintro ⟨⟨sheet, columns, read, own, complete⟩, rfl⟩
    exact ⟨sheet, read, columns, own, complete, (moved sheet columns read own).symm⟩

/-- Renamings are missing a column only where the sheet lacks it. -/
theorem lacksHeader_of_loadRenamings {name header : String}
    (failed : workbook.loadRenamings files label layout root =
      .error (.missingHeader name header)) :
    workbook.LacksHeader files layout label := by
  rcases bind_eq_error_iff.mp failed with read | ⟨sheet, read, failed⟩
  · -- Reading a sheet does not look at its headers.
    exact absurd read readSheet_ne_missingHeader
  rcases bind_eq_error_iff.mp failed with columns | ⟨columns, -, rows⟩
  · exact ⟨sheet, name, header, read, columns⟩
  · obtain ⟨place, empty, same⟩ := Sheet.renamingsFrom_eq_error rows
    cases same

end Workbook

end SqlColumns
