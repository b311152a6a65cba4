import SqlColumns.Proofs.FirstOf
import SqlColumns.Sheet

/-!
# Marked rows of a sheet

The renamings of a sheet are those of its marked rows, in order, when each of these has its cells.
Otherwise the first marked row that lacks one of them is refused, for the first one that it lacks.
-/

set_option autoImplicit false

namespace SqlColumns

namespace Sheet

variable {layout : Layout} {columns : RenameColumns} {row first : List String}
  {rows front : List (List String)} {index : Nat} {header : String} {ahead : List (Nat × String)}

structure IsComplete (columns : RenameColumns) (row : List String) : Prop where
  old : cell row columns.old ≠ ""
  new : cell row columns.new ≠ ""
  file : cell row columns.file ≠ ""

def RenameColumns.required (columns : RenameColumns) (layout : Layout) : List (Nat × String) :=
  [(columns.old, layout.oldHeader), (columns.new, layout.newHeader),
    (columns.file, layout.fileHeader)]

theorem isComplete_iff (layout : Layout) : IsComplete columns row ↔
    ∀ one ∈ columns.required layout, ¬ cell row one.1 = "" := by
  simp only [RenameColumns.required, List.forall_mem_cons]
  constructor
  · rintro ⟨old, new, file⟩
    exact ⟨old, new, file, fun one none => nomatch none⟩
  · rintro ⟨old, new, file, -⟩
    exact ⟨old, new, file⟩

def IsRefused (layout : Layout) (columns : RenameColumns) (row : List String) : Prop :=
  layout.isRename (cell row columns.changeType) = true ∧ ¬ IsComplete columns row

def renamingOf (root : Path) (columns : RenameColumns) (row : List String) : Renaming :=
  ⟨cell row columns.old, cell row columns.new, root.resolveUnder (cell row columns.file)⟩

def markedRows (layout : Layout) (columns : RenameColumns) (rows : List (List String)) :
    List (List String) :=
  rows.filter fun row => layout.isRename (cell row columns.changeType)

theorem markedRows_cons_of_marked (marked : layout.isRename (cell first columns.changeType) = true) :
    markedRows layout columns (first :: rows) = first :: markedRows layout columns rows :=
  List.filter_cons_of_pos marked

theorem markedRows_cons_of_unmarked
    (unmarked : ¬ layout.isRename (cell first columns.changeType) = true) :
    markedRows layout columns (first :: rows) = markedRows layout columns rows :=
  List.filter_cons_of_neg unmarked

variable (name : String) (layout : Layout) (root : Path) (number : Nat)

theorem requiredCell_eq (header : String) (index : Nat) :
    requiredCell name number header row index =
      if cell row index = "" then .error (.emptyCell name number header)
      else .ok (cell row index) := by
  simp only [requiredCell, String.isEmpty_iff]

theorem renamingOfRow_of_isComplete (complete : IsComplete columns row) :
    renamingOfRow name layout root columns number row = .ok (renamingOf root columns row) := by
  simp only [renamingOfRow, requiredCell_eq, if_neg complete.old, if_neg complete.new,
    if_neg complete.file]
  rfl

theorem renamingOfRow_of_first
    (blank : FirstOf (fun one => cell row one.1 = "") (columns.required layout) ahead
      (index, header)) :
    renamingOfRow name layout root columns number row =
      .error (.emptyCell name number header) := by
  simp only [renamingOfRow, requiredCell_eq]
  cases blank with
  | head old =>
      rw [if_pos old]
      rfl
  | cons old blank =>
      rw [if_neg old]
      cases blank with
      | head new =>
          rw [if_pos new]
          rfl
      | cons new blank =>
          rw [if_neg new]
          cases blank with
          | head file =>
              rw [if_pos file]
              rfl
          | cons file blank => cases blank

/-- When all marked rows have their cells, they are what is read. -/
theorem renamingsFrom_of_isComplete
    (complete : ∀ row ∈ markedRows layout columns rows, IsComplete columns row) :
    renamingsFrom name layout root columns number rows =
      .ok ((markedRows layout columns rows).map (renamingOf root columns)) := by
  induction rows generalizing number with
  | nil => rfl
  | cons first rows ih =>
      by_cases marked : layout.isRename (cell first columns.changeType) = true
      · rw [markedRows_cons_of_marked marked] at complete ⊢
        obtain ⟨own, others⟩ := List.forall_mem_cons.mp complete
        simp only [renamingsFrom, if_pos marked,
          renamingOfRow_of_isComplete name layout root number own, ih (number + 1) others]
        rfl
      · rw [markedRows_cons_of_unmarked marked] at complete ⊢
        simp only [renamingsFrom, if_neg marked, ih (number + 1) complete]

/-- The first marked row that lacks a cell is refused for the first one that it lacks. -/
theorem renamingsFrom_of_first (refused : FirstOf (IsRefused layout columns) rows front row)
    (blank : FirstOf (fun one => cell row one.1 = "") (columns.required layout) ahead
      (index, header)) :
    renamingsFrom name layout root columns number rows =
      .error (.emptyCell name (number + front.length) header) := by
  induction refused generalizing number with
  | head own =>
      simp only [renamingsFrom, if_pos own.1, renamingOfRow_of_first name layout root number blank]
      rfl
  | @cons one _ _ front passed later ih =>
      have next := ih (number + 1) blank
      rw [Nat.add_assoc, Nat.add_comm 1] at next
      unfold renamingsFrom
      by_cases marked : layout.isRename (cell one columns.changeType) = true
      · have complete : IsComplete columns one := by
          by_contra incomplete
          exact passed ⟨marked, incomplete⟩
        rw [if_pos marked]
        simp only [renamingOfRow_of_isComplete name layout root number complete, next]
        rfl
      · rw [if_neg marked, next]
        rfl

variable {name layout root number} {mappings : List Renaming} {failure : Failure}

theorem renamingsFrom_cases (name : String) (layout : Layout) (root : Path)
    (columns : RenameColumns) (number : Nat) (rows : List (List String)) :
    (∀ row ∈ markedRows layout columns rows, IsComplete columns row) ∧
        renamingsFrom name layout root columns number rows =
          .ok ((markedRows layout columns rows).map (renamingOf root columns)) ∨
      ∃ front row ahead index header, FirstOf (IsRefused layout columns) rows front row ∧
        FirstOf (fun one => cell row one.1 = "") (columns.required layout) ahead (index, header) ∧
        renamingsFrom name layout root columns number rows =
          .error (.emptyCell name (number + front.length) header) := by
  by_cases complete : ∀ row ∈ markedRows layout columns rows, IsComplete columns row
  · exact .inl ⟨complete, renamingsFrom_of_isComplete name layout root number complete⟩
  · simp only [not_forall] at complete
    obtain ⟨one, member, incomplete⟩ := complete
    obtain ⟨inside, marked⟩ := List.mem_filter.mp member
    obtain ⟨front, row, refused⟩ :=
      FirstOf.exists_of_mem (IsRefused layout columns) inside ⟨marked, incomplete⟩
    have lacks := refused.own.2
    simp only [isComplete_iff layout, not_forall, not_not] at lacks
    obtain ⟨asked, among, empty⟩ := lacks
    obtain ⟨ahead, ⟨index, header⟩, blank⟩ :=
      FirstOf.exists_of_mem (fun one => cell row one.1 = "") among empty
    exact .inr ⟨front, row, ahead, index, header, refused, blank,
      renamingsFrom_of_first name layout root number refused blank⟩

/-- A row that is refused is marked and not complete. -/
theorem not_complete_of_first (refused : FirstOf (IsRefused layout columns) rows front row) :
    ¬ ∀ row ∈ markedRows layout columns rows, IsComplete columns row := by
  intro complete
  exact refused.own.2 (complete row (List.mem_filter.mpr ⟨refused.mem, refused.own.1⟩))

/-- What is read are the renamings of the marked rows, when all of these have their cells. -/
theorem renamingsFrom_eq_ok_iff :
    renamingsFrom name layout root columns number rows = .ok mappings ↔
      (∀ row ∈ markedRows layout columns rows, IsComplete columns row) ∧
        (markedRows layout columns rows).map (renamingOf root columns) = mappings := by
  rcases renamingsFrom_cases name layout root columns number rows with
    ⟨complete, read⟩ | ⟨front, row, ahead, index, header, refused, -, failed⟩
  · rw [read, Except.ok.injEq]
    exact (and_iff_right complete).symm
  · rw [failed]
    exact iff_of_false (fun same => nomatch same) fun both => not_complete_of_first refused both.1

theorem renamingsFrom_eq_error
    (failed : renamingsFrom name layout root columns number rows = .error failure) :
    ∃ place header, failure = .emptyCell name place header := by
  rcases renamingsFrom_cases name layout root columns number rows with
    ⟨-, read⟩ | ⟨front, row, ahead, index, header, -, -, refused⟩
  · rw [read] at failed
    cases failed
  · rw [refused] at failed
    cases failed
    exact ⟨_, header, rfl⟩

end Sheet

end SqlColumns
