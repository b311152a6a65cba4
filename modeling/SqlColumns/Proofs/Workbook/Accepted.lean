import SqlColumns.Proofs.Text.Blank
import SqlColumns.Proofs.Workbook

/-!
# Which sheets of renamings are accepted

Renamings are read from a sheet that has their four columns and whose marked rows all have their cells.
Any other sheet is refused for the first column that is missing or, when none is, for the first marked
row without a cell and the first cell that it lacks.
-/

set_option autoImplicit false

namespace SqlColumns

def Layout.renameHeaders (layout : Layout) : List String :=
  [layout.changeTypeHeader, layout.oldHeader, layout.newHeader, layout.fileHeader]

namespace Sheet

variable {sheet : Sheet} {layout : Layout} {columns : RenameColumns} {header : String} {index : Nat}

/-- The place of the first header that is the given one, blanks around both aside. -/
def HasColumn (sheet : Sheet) (header : String) (index : Nat) : Prop :=
  ∃ front text, FirstOf (fun one => Text.trimString one = Text.trimString header)
    sheet.headers front text ∧ index = front.length

def LacksColumn (sheet : Sheet) (header : String) : Prop :=
  ∀ one ∈ sheet.headers, Text.trimString one ≠ Text.trimString header

/-- The columns that renamings are read from. Two of them may be one. -/
structure HasColumns (sheet : Sheet) (layout : Layout) (columns : RenameColumns) : Prop where
  changeType : sheet.HasColumn layout.changeTypeHeader columns.changeType
  old : sheet.HasColumn layout.oldHeader columns.old
  new : sheet.HasColumn layout.newHeader columns.new
  file : sheet.HasColumn layout.fileHeader columns.file

def FirstMissing (sheet : Sheet) (layout : Layout) (header : String) : Prop :=
  ∃ front, FirstOf sheet.LacksColumn layout.renameHeaders front header

/-- A sheet that has the columns of renamings, and all cells of them in the rows whose change type is
the marker. -/
def IsAccepted (sheet : Sheet) (layout : Layout) : Prop :=
  ∃ columns, sheet.HasColumns layout columns ∧ ∀ row ∈ sheet.rows,
    cell row columns.changeType = layout.renameMarker → IsComplete columns row

/-!
## Columns
-/

theorem column_of_hasColumn (has : sheet.HasColumn header index) :
    sheet.column header = .ok index := by
  obtain ⟨front, text, first, rfl⟩ := has
  have found : FirstOf (fun one => (Text.trimString one == Text.trimString header) = true)
      sheet.headers front text := by
    simpa only [beq_iff_eq] using first
  rw [column, found.findIdx?_eq]

theorem column_of_lacksColumn (lacks : sheet.LacksColumn header) :
    sheet.column header = .error (.missingHeader sheet.name header) := by
  have none : sheet.headers.findIdx? (fun one => Text.trimString one == Text.trimString header) =
      none := by
    rw [List.findIdx?_eq_none_iff]
    intro one member
    exact beq_eq_false_iff_ne.mpr (lacks one member)
  rw [column, none]

theorem hasColumn_or_lacksColumn (sheet : Sheet) (header : String) :
    (∃ index, sheet.HasColumn header index) ∨ sheet.LacksColumn header := by
  by_cases there : ∃ one ∈ sheet.headers, Text.trimString one = Text.trimString header
  · obtain ⟨one, member, same⟩ := there
    obtain ⟨front, text, first⟩ := FirstOf.exists_of_mem
      (fun one => Text.trimString one = Text.trimString header) member same
    exact .inl ⟨front.length, front, text, first, rfl⟩
  · exact .inr fun one member same => there ⟨one, member, same⟩

theorem HasColumn.not_lacksColumn (has : sheet.HasColumn header index) :
    ¬ sheet.LacksColumn header := by
  obtain ⟨front, text, first, -⟩ := has
  exact fun lacks => lacks text first.mem first.own

theorem renameColumns_of_hasColumns (has : sheet.HasColumns layout columns) :
    sheet.renameColumns layout = .ok columns := by
  simp only [renameColumns, column_of_hasColumn has.changeType, column_of_hasColumn has.old,
    column_of_hasColumn has.new, column_of_hasColumn has.file]
  rfl

/-- Columns are looked for in the order of the headers, up to the first that is missing. -/
theorem renameColumns_cases (sheet : Sheet) (layout : Layout) :
    (∃ columns, sheet.HasColumns layout columns ∧ sheet.renameColumns layout = .ok columns) ∨
      ∃ header, sheet.FirstMissing layout header ∧
        sheet.renameColumns layout = .error (.missingHeader sheet.name header) := by
  rcases sheet.hasColumn_or_lacksColumn layout.changeTypeHeader with ⟨changeType, first⟩ | lacks
  · rcases sheet.hasColumn_or_lacksColumn layout.oldHeader with ⟨old, second⟩ | lacks
    · rcases sheet.hasColumn_or_lacksColumn layout.newHeader with ⟨new, third⟩ | lacks
      · rcases sheet.hasColumn_or_lacksColumn layout.fileHeader with ⟨file, fourth⟩ | lacks
        · have has : sheet.HasColumns layout ⟨changeType, old, new, file⟩ :=
            ⟨first, second, third, fourth⟩
          exact .inl ⟨_, has, renameColumns_of_hasColumns has⟩
        · refine .inr ⟨layout.fileHeader, ⟨_, .cons first.not_lacksColumn
            (.cons second.not_lacksColumn (.cons third.not_lacksColumn (.head lacks)))⟩, ?_⟩
          simp only [renameColumns, column_of_hasColumn first, column_of_hasColumn second,
            column_of_hasColumn third, column_of_lacksColumn lacks]
          rfl
      · refine .inr ⟨layout.newHeader, ⟨_, .cons first.not_lacksColumn
          (.cons second.not_lacksColumn (.head lacks))⟩, ?_⟩
        simp only [renameColumns, column_of_hasColumn first, column_of_hasColumn second,
          column_of_lacksColumn lacks]
        rfl
    · refine .inr ⟨layout.oldHeader, ⟨_, .cons first.not_lacksColumn (.head lacks)⟩, ?_⟩
      simp only [renameColumns, column_of_hasColumn first, column_of_lacksColumn lacks]
      rfl
  · refine .inr ⟨layout.changeTypeHeader, ⟨_, .head lacks⟩, ?_⟩
    simp only [renameColumns, column_of_lacksColumn lacks]
    rfl

/-!
## Marked rows
-/

theorem trimString_cell (row : List String) (index : Nat) :
    Text.trimString (cell row index) = cell row index := by
  unfold cell
  split
  · exact Text.trimString_trimString _
  · decide

/-- A cell comes without blanks around it, so trimming it again changes nothing. -/
theorem isRename_cell_iff {row : List String} :
    layout.isRename (cell row index) = true ↔ cell row index = layout.renameMarker := by
  rw [Layout.isRename, trimString_cell, beq_iff_eq]

theorem markedRows_eq (layout : Layout) (columns : RenameColumns) (rows : List (List String)) :
    markedRows layout columns rows =
      rows.filter fun row => cell row columns.changeType = layout.renameMarker := by
  refine List.filter_congr fun row _ => ?_
  rw [Bool.eq_iff_iff, isRename_cell_iff, decide_eq_true_iff]

theorem isRefused_eq (layout : Layout) (columns : RenameColumns) :
    IsRefused layout columns = fun row =>
      cell row columns.changeType = layout.renameMarker ∧ ¬ IsComplete columns row := by
  funext row
  rw [IsRefused, isRename_cell_iff]

theorem isAccepted_iff (has : sheet.HasColumns layout columns) :
    sheet.IsAccepted layout ↔
      ∀ row ∈ markedRows layout columns sheet.rows, IsComplete columns row := by
  have own : ∀ {columns' : RenameColumns}, sheet.HasColumns layout columns' →
      columns' = columns := by
    intro columns' has'
    have same := (renameColumns_of_hasColumns has').symm.trans (renameColumns_of_hasColumns has)
    exact Except.ok.inj same
  simp only [markedRows_eq, List.mem_filter, decide_eq_true_iff, and_imp]
  constructor
  · rintro ⟨columns', has', complete⟩
    rw [own has'] at complete
    exact complete
  · intro complete
    exact ⟨columns, has, complete⟩

end Sheet

namespace Workbook

open Sheet

variable {files : FileSystem} {workbook : Workbook} {label : String} {sheet : Sheet}

theorem name_of_readSheet (read : workbook.readSheet files label = .ok sheet) :
    sheet.name = label := by
  cases workbook with
  | memory sheets =>
      unfold readSheet at read
      simp only at read
      split at read
      · next found =>
          cases read
          simpa using List.find?_some found
      · cases read
  | directory folder =>
      unfold readSheet at read
      simp only at read
      split at read
      · cases read
      · cases read
      · split at read
        · cases read
        · split at read
          · cases read
          · next records _ =>
              cases read
              cases records <;> rfl

theorem loadRenamings_of_readSheet (layout : Layout) (root : Path)
    (read : workbook.readSheet files label = .ok sheet) :
    workbook.loadRenamings files label layout root = sheet.renamings layout root := by
  rw [loadRenamings, read]
  rfl

/-- Renamings are read from exactly the sheets that have their columns and, in every marked row, their
cells. Another sheet is refused for what is missing first. -/
theorem loadRenamings_accepts (layout : Layout) (root : Path)
    (read : workbook.readSheet files label = .ok sheet) :
    ((∃ mappings, workbook.loadRenamings files label layout root = .ok mappings) ↔
        sheet.IsAccepted layout) ∧
      (∀ columns mappings, sheet.HasColumns layout columns →
        workbook.loadRenamings files label layout root = .ok mappings →
          mappings = (sheet.rows.filter fun row =>
            cell row columns.changeType = layout.renameMarker).map (renamingOf root columns)) ∧
      ∀ failure, workbook.loadRenamings files label layout root = .error failure →
        (∃ header, sheet.FirstMissing layout header ∧ failure = .missingHeader label header ∧
          failure.code = "MISSING_HEADER") ∨
        ∃ columns front row ahead index header, sheet.HasColumns layout columns ∧
          FirstOf (fun row => cell row columns.changeType = layout.renameMarker ∧
            ¬ IsComplete columns row) sheet.rows front row ∧
          FirstOf (fun one => cell row one.1 = "") (columns.required layout) ahead
            (index, header) ∧
          failure = .emptyCell label (front.length + 2) header ∧
          failure.code = "INVALID_INPUT" := by
  obtain rfl := name_of_readSheet read
  rw [loadRenamings_of_readSheet layout root read]
  rcases sheet.renameColumns_cases layout with ⟨columns, has, found⟩ | ⟨header, missing, failed⟩
  · have rows : sheet.renamings layout root =
        renamingsFrom sheet.name layout root columns 2 sheet.rows := by
      rw [renamings, found]
      rfl
    rw [rows, isAccepted_iff has]
    refine ⟨?_, ?_, ?_⟩
    · simp only [renamingsFrom_eq_ok_iff]
      exact ⟨fun ⟨_, complete, _⟩ => complete, fun complete => ⟨_, complete, rfl⟩⟩
    · intro columns' mappings has' success
      have same := (renameColumns_of_hasColumns has').symm.trans found
      rw [Except.ok.inj same, ← markedRows_eq]
      exact (renamingsFrom_eq_ok_iff.mp success).2.symm
    · intro failure failed
      rcases renamingsFrom_cases sheet.name layout root columns 2 sheet.rows with
        ⟨-, success⟩ | ⟨front, row, ahead, index, header, refused, blank, stopped⟩
      · rw [success] at failed
        cases failed
      · rw [stopped, Nat.add_comm] at failed
        cases failed
        rw [isRefused_eq] at refused
        exact .inr ⟨columns, front, row, ahead, index, header, has, refused, blank, rfl, rfl⟩
  · have stopped : sheet.renamings layout root = .error (.missingHeader sheet.name header) := by
      rw [renamings, failed]
      rfl
    rw [stopped]
    refine ⟨?_, ?_, ?_⟩
    · refine iff_of_false (fun ⟨_, success⟩ => nomatch success) ?_
      rintro ⟨columns, has, -⟩
      rw [renameColumns_of_hasColumns has] at failed
      cases failed
    · intro columns mappings has success
      cases success
    · intro failure same
      cases same
      exact .inl ⟨header, missing, rfl, rfl⟩

def shortRow : Sheet :=
  ⟨"changes", [" Change Type", "Names", "File ", "Names"],
    [["TABLE DROP"], [" COL RENAME ", " id ", "a.sql"], ["COL RENAME", "key"]]⟩

def oneColumn : Layout :=
  { oldHeader := "Names", newHeader := "Names " }

theorem loadRenamings_accepts_shortRow :
    readSheet (FileSystem.start []) (.memory [shortRow]) "changes" = .ok shortRow ∧
      loadRenamings (FileSystem.start []) (.memory [shortRow]) "changes" oneColumn ⟨"/"⟩ =
        .error (.emptyCell "changes" 4 "File") ∧
      ¬ shortRow.IsAccepted oneColumn := by
  have read : readSheet (FileSystem.start []) (.memory [shortRow]) "changes" = .ok shortRow := rfl
  have failed : loadRenamings (FileSystem.start []) (.memory [shortRow]) "changes" oneColumn ⟨"/"⟩ =
      .error (.emptyCell "changes" 4 "File") := by decide
  refine ⟨read, failed, fun own => ?_⟩
  obtain ⟨mappings, success⟩ := (loadRenamings_accepts oneColumn ⟨"/"⟩ read).1.mpr own
  rw [failed] at success
  cases success

end Workbook

end SqlColumns
