import SqlColumns.Proofs.Sheet
import SqlColumns.Workbook

/-!
# What workbooks give

Which sheets are selected, and what the cells of an identifier column are. Cells come without blanks
around them, so one that is not empty is not blank either.
-/

set_option autoImplicit false

namespace SqlColumns

theorem bind_eq_ok_iff {α β : Type} {result : Except Failure α} {next : α → Except Failure β}
    {value : β} :
    (result >>= next) = .ok value ↔ ∃ found, result = .ok found ∧ next found = .ok value := by
  cases result <;> simp [Bind.bind, Except.bind]

theorem bind_eq_error_iff {α β : Type} {result : Except Failure α} {next : α → Except Failure β}
    {failure : Failure} :
    (result >>= next) = .error failure ↔
      result = .error failure ∨ ∃ found, result = .ok found ∧ next found = .error failure := by
  cases result <;> simp [Bind.bind, Except.bind]

theorem pure_eq_ok_iff {α : Type} {value other : α} :
    (pure value : Except Failure α) = .ok other ↔ value = other := by
  simp [Pure.pure, Except.pure]

/-!
## Cells
-/

theorem Text.not_blank_of_trim_ne_nil {text : List Char} (written : trim text ≠ []) :
    (trim text).all isBlank = false := by
  have backwards : (trimStart text).reverse.dropWhile isBlank ≠ [] := by
    intro none
    exact written (by rw [trim, trimEnd, none, List.reverse_nil])
  have last := List.head_dropWhile_not isBlank backwards
  have member : ((trimStart text).reverse.dropWhile isBlank).head backwards ∈ trim text :=
    List.mem_reverse.mpr (List.head_mem backwards)
  exact Bool.eq_false_iff.mpr fun all => by
    rw [List.all_eq_true.mp all _ member] at last
    cases last

namespace Sheet

variable {sheet : Sheet} {layout : Layout}

theorem cell_not_blank {row : List String} {index : Nat} (written : cell row index ≠ "") :
    Text.isBlankString (cell row index) = false := by
  unfold cell at written ⊢
  split
  · next text found =>
      rw [found] at written
      rw [Text.isBlankString, Text.trimString, String.toList_ofList]
      refine Text.not_blank_of_trim_ne_nil fun none => written ?_
      simp [Text.trimString, none]
  · next missing =>
      rw [missing] at written
      exact absurd rfl written

/-- A sheet has a column under a header, and these are its cells. -/
def HasCells (sheet : Sheet) (header : String) (cells : List String) : Prop :=
  ∃ index, sheet.column header = .ok index ∧ cells = sheet.rows.map fun row => cell row index

theorem targets_eq_ok_iff {identifiers : List String} :
    sheet.targets layout = .ok identifiers ↔ ∃ cells, sheet.HasCells layout.columnHeader cells ∧
      identifiers = cells.filter fun text => !text.isEmpty := by
  simp only [targets, bind_eq_ok_iff, pure_eq_ok_iff, HasCells]
  constructor
  · rintro ⟨index, found, rfl⟩
    exact ⟨_, ⟨index, found, rfl⟩, rfl⟩
  · rintro ⟨cells, ⟨index, found, rfl⟩, rfl⟩
    exact ⟨index, found, rfl⟩

/-- Leaving out blank identifiers leaves out no more than empty cells. -/
theorem HasCells.filter_blank {header : String} {cells : List String}
    (own : sheet.HasCells header cells) :
    (cells.filter fun text => !text.isEmpty).filter (fun text => !Text.isBlankString text) =
      cells.filter (· ≠ "") := by
  obtain ⟨index, -, rfl⟩ := own
  rw [List.filter_filter]
  refine List.filter_congr fun text member => ?_
  obtain ⟨row, -, rfl⟩ := List.mem_map.mp member
  by_cases empty : cell row index = ""
  · simp [empty]
  · simp [empty, cell_not_blank empty]

end Sheet

namespace Workbook

variable {files : FileSystem} {workbook : Workbook} {name resultSheet : String} {layout : Layout}
  {available selected requested names : List String}

theorem loadTargets_eq_ok_iff {targets : TargetSet} :
    workbook.loadTargets files name layout = .ok targets ↔ ∃ sheet cells,
      workbook.readSheet files name = .ok sheet ∧ sheet.HasCells layout.columnHeader cells ∧
        targets = ⟨name, cells.filter fun text => !text.isEmpty⟩ := by
  simp only [loadTargets, bind_eq_ok_iff, pure_eq_ok_iff, Sheet.targets_eq_ok_iff]
  constructor
  · rintro ⟨sheet, read, identifiers, ⟨cells, own, rfl⟩, rfl⟩
    exact ⟨sheet, cells, read, own, rfl⟩
  · rintro ⟨sheet, cells, read, own, rfl⟩
    exact ⟨sheet, read, _, ⟨cells, own, rfl⟩, rfl⟩

/-!
## Selected sheets
-/

theorem mem_of_selectRequested
    (result : selectRequested available selected requested = .ok names) :
    (∀ name ∈ requested, name ∈ available) ∧
      ∀ name, name ∈ names ↔ name ∈ selected ∨ name ∈ requested := by
  induction requested generalizing selected with
  | nil =>
      cases result
      simp
  | cons first rest ih =>
      unfold selectRequested at result
      split at result
      · next listed =>
          obtain ⟨others, members⟩ := ih result
          refine ⟨List.forall_mem_cons.mpr ⟨List.contains_iff_mem.mp listed, others⟩, fun name => ?_⟩
          rw [members name]
          split
          · next already =>
              have kept := List.contains_iff_mem.mp already
              grind
          · grind
      · cases result

/-- Different sheets that are there are selected as they were requested. -/
theorem selectRequested_eq_append (inside : ∀ name ∈ requested, name ∈ available)
    (distinct : (selected ++ requested).Nodup) :
    selectRequested available selected requested = .ok (selected ++ requested) := by
  induction requested generalizing selected with
  | nil => rw [selectRequested, List.append_nil]
  | cons first rest ih =>
      obtain ⟨listed, others⟩ := List.forall_mem_cons.mp inside
      have new : first ∉ selected := fun member =>
        (List.nodup_append.mp distinct).2.2 first member first List.mem_cons_self rfl
      rw [List.append_cons] at distinct ⊢
      rw [selectRequested, if_pos (by simpa using listed), if_neg (by simpa using new),
        ih others distinct]

/-- A sheet is among those to work on: one of the requested sheets, or when none is requested, any
sheet but the result sheet. -/
def Selects (workbook : Workbook) (files : FileSystem) (requested : List String)
    (resultSheet name : String) : Prop :=
  ∃ available, workbook.sheetNames files = .ok available ∧ name ∈ available ∧
    if requested = [] then name ≠ resultSheet else name ∈ requested

theorem mem_of_selectSheets
    (result : workbook.selectSheets files requested resultSheet = .ok names) :
    name ∈ names ↔ workbook.Selects files requested resultSheet name := by
  obtain ⟨available, listed, rest⟩ := bind_eq_ok_iff.mp result
  simp only [Selects, listed, Except.ok.injEq, exists_eq_left']
  by_cases none : requested = []
  · rw [none, List.isEmpty_nil, if_pos rfl, pure_eq_ok_iff] at rest
    rw [← rest, if_pos none]
    simp
  · rw [if_neg (by simpa using none)] at rest
    obtain ⟨inside, members⟩ := mem_of_selectRequested rest
    rw [if_neg none, members name]
    simp only [List.not_mem_nil, false_or]
    exact ⟨fun member => ⟨inside name member, member⟩, fun both => both.2⟩

/-!
## Replaced sheets
-/

variable {sheet other : Sheet} {sheets : List Sheet}

theorem find?_replaceSheet :
    (replaceSheet sheet sheets).find? (fun one => one.name == name) =
      if sheet.name = name then some sheet else sheets.find? fun one => one.name == name := by
  induction sheets with
  | nil => grind [replaceSheet]
  | cons first rest ih => grind [replaceSheet]

theorem mem_replaceSheet (distinct : (sheets.map Sheet.name).Nodup) :
    other ∈ replaceSheet sheet sheets ↔
      other = sheet ∨ other ∈ sheets ∧ other.name ≠ sheet.name := by
  induction sheets with
  | nil => simp [replaceSheet]
  | cons first rest ih =>
      obtain ⟨apart, later⟩ := List.nodup_cons.mp distinct
      have away : ∀ one ∈ rest, one.name ≠ first.name := fun one member same =>
        apart (List.mem_map.mpr ⟨one, member, same⟩)
      unfold replaceSheet
      split
      · next same =>
          rw [List.mem_cons, List.mem_cons]
          grind
      · next different =>
          rw [List.mem_cons, List.mem_cons, ih later]
          grind

theorem nodup_replaceSheet (distinct : (sheets.map Sheet.name).Nodup) :
    ((replaceSheet sheet sheets).map Sheet.name).Nodup := by
  induction sheets with
  | nil => simp [replaceSheet]
  | cons first rest ih =>
      obtain ⟨apart, later⟩ := List.nodup_cons.mp distinct
      unfold replaceSheet
      split
      · next same => exact List.nodup_cons.mpr ⟨same ▸ apart, later⟩
      · next different =>
          refine List.nodup_cons.mpr ⟨fun member => ?_, ih later⟩
          obtain ⟨one, kept, same⟩ := List.mem_map.mp member
          rcases (mem_replaceSheet later).mp kept with rfl | ⟨inside, -⟩
          · exact different same.symm
          · exact apart (List.mem_map.mpr ⟨one, inside, same⟩)

theorem readSheet_memory (files : FileSystem) (sheets : List Sheet) (name : String) :
    (∃ sheet, sheet.name = name ∧ readSheet files (.memory sheets) name = .ok sheet) ∨
      readSheet files (.memory sheets) name = .error (.unknownSheet name) := by
  simp only [readSheet]
  cases found : sheets.find? fun one => one.name == name with
  | none => exact .inr rfl
  | some sheet => exact .inl ⟨sheet, by simpa using List.find?_some found, rfl⟩

theorem readSheet_replaceSheet (files : FileSystem) (different : name ≠ sheet.name) :
    readSheet files (.memory (replaceSheet sheet sheets)) name =
      readSheet files (.memory sheets) name := by
  simp only [readSheet, find?_replaceSheet, if_neg (Ne.symm different)]

end Workbook

/-!
## Failures
-/

def Failure.OfSheets : Failure → Prop
  | .unlistable _ _ | .badSheetName _ | .unknownSheet _ | .badSheet _ _ | .missingHeader _ _
  | .emptyCell _ _ _ => True
  | _ => False

namespace Sheet

variable {sheet : Sheet} {layout : Layout} {root : Path} {failure : Failure}

theorem ofSheets_of_column {header : String} (failed : sheet.column header = .error failure) :
    failure.OfSheets := by
  unfold column at failed
  split at failed <;> cases failed
  trivial

theorem ofSheets_of_renameColumns (failed : sheet.renameColumns layout = .error failure) :
    failure.OfSheets := by
  rcases bind_eq_error_iff.mp failed with changeType | ⟨_, -, failed⟩
  · exact ofSheets_of_column changeType
  rcases bind_eq_error_iff.mp failed with old | ⟨_, -, failed⟩
  · exact ofSheets_of_column old
  rcases bind_eq_error_iff.mp failed with new | ⟨_, -, failed⟩
  · exact ofSheets_of_column new
  rcases bind_eq_error_iff.mp failed with file | ⟨_, -, failed⟩
  · exact ofSheets_of_column file
  · cases failed

end Sheet

namespace Workbook

variable {files : FileSystem} {workbook : Workbook} {name : String} {failure : Failure}

theorem ofSheets_of_sheetFiles {folder : Path}
    (failed : sheetFiles files folder = .error failure) : failure.OfSheets := by
  unfold sheetFiles at failed
  split at failed <;> cases failed
  trivial

theorem ofSheets_of_locate {folder : Path} (failed : locate files folder name = .error failure) :
    failure.OfSheets := by
  unfold locate at failed
  split at failed
  · split at failed
    · next cause listed =>
        cases failed
        exact ofSheets_of_sheetFiles listed
    · cases failed
  · cases failed
    trivial

theorem ofSheets_of_readSheet (failed : workbook.readSheet files name = .error failure) :
    failure.OfSheets := by
  unfold readSheet at failed
  split at failed
  · split at failed
    · next cause located =>
        cases failed
        exact ofSheets_of_locate located
    · cases failed
      trivial
    · split at failed
      · cases failed
        trivial
      · split at failed <;> cases failed
        trivial
  · split at failed <;> cases failed
    trivial

theorem ofSheets_of_loadRenamings {layout : Layout} {root : Path}
    (failed : workbook.loadRenamings files name layout root = .error failure) :
    failure.OfSheets := by
  rcases bind_eq_error_iff.mp failed with read | ⟨sheet, -, failed⟩
  · exact ofSheets_of_readSheet read
  rcases bind_eq_error_iff.mp failed with columns | ⟨columns, -, rows⟩
  · exact Sheet.ofSheets_of_renameColumns columns
  · obtain ⟨number, header, rfl⟩ := Sheet.renamingsFrom_eq_error rows
    trivial

theorem ofSheets_of_sheetNames (failed : workbook.sheetNames files = .error failure) :
    failure.OfSheets := by
  unfold sheetNames at failed
  split at failed
  · split at failed
    · next cause listed =>
        cases failed
        exact ofSheets_of_sheetFiles listed
    · cases failed
  · cases failed

theorem ofSheets_of_selectRequested {available selected requested : List String}
    (failed : selectRequested available selected requested = .error failure) :
    failure.OfSheets := by
  induction requested generalizing selected with
  | nil => cases failed
  | cons name rest ih =>
      unfold selectRequested at failed
      split at failed
      · exact ih failed
      · cases failed
        trivial

theorem ofSheets_of_selectSheets {requested : List String} {resultSheet : String}
    (failed : workbook.selectSheets files requested resultSheet = .error failure) :
    failure.OfSheets := by
  rcases bind_eq_error_iff.mp failed with names | ⟨available, -, failed⟩
  · exact ofSheets_of_sheetNames names
  split at failed
  · cases failed
  · exact ofSheets_of_selectRequested failed

end Workbook

end SqlColumns
