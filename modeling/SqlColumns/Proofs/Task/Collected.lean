import SqlColumns.Proofs.FirstAppearances
import SqlColumns.Proofs.Workbook.Marked
import SqlColumns.Task.Rename

/-!
# Renamings that are collected

A renaming goes through its sheets in order, each of them once, and collects their marked rows. It
passes over a sheet that lacks a column and was not asked for, and nothing else.
-/

set_option autoImplicit false

namespace SqlColumns

/-!
## The order of the sheets
-/

namespace Workbook

variable {available selected requested all names : List String}

/-- Sheets are selected in the order in which they are first requested. -/
theorem appearances_selectRequested (appeared : FirstAppearances (· = ·) all selected)
    (result : selectRequested available selected requested = .ok names) :
    FirstAppearances (· = ·) (all ++ requested) names := by
  induction requested generalizing all selected with
  | nil =>
      cases result
      rwa [List.append_nil]
  | cons name rest ih =>
      unfold selectRequested at result
      rw [List.append_cons]
      split at result
      · split at result
        · next old =>
            exact ih (appeared.again ⟨name, List.contains_iff_mem.mp old, rfl⟩) result
        · next unlike =>
            refine ih (appeared.new eq_equivalence ?_) result
            rintro ⟨first, member, rfl⟩
            exact unlike (List.contains_iff_mem.mpr member)
      · cases result

end Workbook

namespace RenameRequest

variable {request : RenameRequest} {files : FileSystem} {workbook : Workbook}
  {names labels : List String} {collected : List LabelledRenaming} {notices : List Notice}

/-- A sheet of a request has its columns and complete rows, or lacks a column without having been
asked for. -/
def Accepts (request : RenameRequest) (files : FileSystem) (workbook : Workbook) (label : String) :
    Prop :=
  workbook.HasRenamings files request.layout label ∨
    request.sheets = [] ∧ workbook.LacksHeader files request.layout label

/-- The sheets that a request goes through, each of them once: those that were asked for, in the order
in which they first were, or all but the result sheet as they are listed. -/
structure GoesThrough (request : RenameRequest) (files : FileSystem) (workbook : Workbook)
    (names labels : List String) : Prop where
  distinct : labels.Nodup
  order : if request.sheets = [] then labels = names.filter (· != request.resultSheet)
    else FirstAppearances (· = ·) request.sheets labels
  accepted : ∀ label ∈ labels, request.Accepts files workbook label

def rowsOf (request : RenameRequest) (files : FileSystem) (workbook : Workbook)
    (labels : List String) : List MarkedRow :=
  labels.flatMap (workbook.marked files request.layout)

def labelled (request : RenameRequest) (row : MarkedRow) : LabelledRenaming :=
  ⟨row.label, row.mapping request.root⟩

theorem order_of_selectSheets (listed : workbook.sheetNames files = .ok names)
    (selected : workbook.selectSheets files request.sheets request.resultSheet = .ok labels) :
    if request.sheets = [] then labels = names.filter (· != request.resultSheet)
    else FirstAppearances (· = ·) request.sheets labels := by
  obtain ⟨available, same, rest⟩ := bind_eq_ok_iff.mp selected
  obtain rfl := Except.ok.inj (listed.symm.trans same)
  split
  · next none =>
      rw [none, List.isEmpty_nil, if_pos rfl, pure_eq_ok_iff] at rest
      exact rest.symm
  · next some =>
      rw [if_neg (by simpa using some)] at rest
      exact Workbook.appearances_selectRequested .nil rest

theorem collectFrom_eq_ok
    (result : request.collectFrom files workbook labels = (.ok collected, notices)) :
    (∀ label ∈ labels, request.Accepts files workbook label) ∧
      collected = (request.rowsOf files workbook labels).map request.labelled := by
  induction labels generalizing collected notices with
  | nil =>
      cases result
      exact ⟨by simp, rfl⟩
  | cons label labels ih =>
      unfold collectFrom at result
      rw [List.forall_mem_cons, rowsOf, List.flatMap_cons, List.map_append]
      split at result
      · next failure loaded =>
          split at result
          · next sheet header implicit =>
              -- A sheet that is passed over has no marked rows.
              have lacks := Workbook.lacksHeader_of_loadRenamings loaded
              cases others : request.collectFrom files workbook labels with
              | mk produced told =>
                  simp only [others, Prod.mk.injEq] at result
                  obtain ⟨rfl, -⟩ := result
                  obtain ⟨accepted, rfl⟩ := ih others
                  rw [lacks.marked]
                  exact ⟨⟨.inr ⟨by simpa [explicit] using implicit, lacks⟩, accepted⟩, rfl⟩
          · cases result
      · next mappings loaded =>
          obtain ⟨has, rfl⟩ := Workbook.loadRenamings_eq_ok_iff.mp loaded
          split at result
          · cases result
          · next found told others =>
              cases result
              obtain ⟨accepted, rfl⟩ := ih others
              refine ⟨⟨.inl has, accepted⟩, ?_⟩
              rw [List.map_map, rowsOf]
              refine congrArg (· ++ _) (List.map_congr_left fun row member => ?_)
              rw [labelled, (Workbook.cells_of_mem_marked member).1]
              rfl

/-- What is collected are the marked rows of the selected sheets, their files being there. -/
theorem collect_eq_ok (found : request.collect files workbook = (.ok collected, notices)) :
    ∃ labels, workbook.selectSheets files request.sheets request.resultSheet = .ok labels ∧
      (∀ label ∈ labels, request.Accepts files workbook label) ∧
      collected = (request.rowsOf files workbook labels).map request.labelled ∧
      ∀ one ∈ collected, files.isFile one.mapping.file = true := by
  unfold collect at found
  split at found
  · cases found
  · next labels selected =>
      split at found
      · cases found
      · next kept told result =>
          split at found
          · cases found
          · next noneMissing =>
              cases found
              obtain ⟨accepted, same⟩ := collectFrom_eq_ok result
              rw [missing?, Option.map_eq_none_iff, List.find?_eq_none] at noneMissing
              exact ⟨labels, selected, accepted, same, by simpa using noneMissing⟩

/-- The selected sheets are those that the request goes through. -/
theorem goesThrough_of_selectSheets (listed : workbook.sheetNames files = .ok names)
    (distinct : names.Nodup)
    (selected : workbook.selectSheets files request.sheets request.resultSheet = .ok labels)
    (accepted : ∀ label ∈ labels, request.Accepts files workbook label) :
    request.GoesThrough files workbook names labels := by
  have order := order_of_selectSheets listed selected
  refine ⟨?_, order, accepted⟩
  split at order
  · exact order ▸ distinct.filter _
  · exact order.distinct

end RenameRequest

end SqlColumns
