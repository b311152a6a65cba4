import Mathlib
import SqlColumns.Proofs.Corpus.Discovery
import SqlColumns.Proofs.Scan.Counting
import SqlColumns.Proofs.Scan.Table
import SqlColumns.Proofs.Workbook
import SqlColumns.Task.Scan

/-!
# What a scan reports

The table of a scan grows by one merge for each selected sheet that lists identifiers. As every merge
covers all discovered files, the table ends with one row for each of them and a cell under every
label, and the report says exactly what these cells are.
-/

set_option autoImplicit false

namespace SqlColumns

namespace ScanRequest

def Lists (request : ScanRequest) (files : FileSystem) (workbook : Workbook) (label : String)
    (cells : List String) : Prop :=
  ∃ sheet, workbook.readSheet files label = .ok sheet ∧
    sheet.HasCells request.layout.columnHeader cells

/-- What the counts under a label are in a file with a text: those of the cells of the sheet that
are not empty. -/
def CellOf (request : ScanRequest) (files : FileSystem) (workbook : Workbook) (label : String)
    (text : List Char) (counts : Counts) : Prop :=
  ∃ cells, request.Lists files workbook label cells ∧
    Scan.CountsOf (cells.filter (· ≠ "")) text counts

/-- A table into which the sheets with the given labels are merged. -/
structure Joined (request : ScanRequest) (files : FileSystem) (workbook : Workbook)
    (paths : List Path) (labels : List String) (table : ScanTable) : Prop where
  mem_labels : ∀ label, label ∈ table.labels ↔
    label ∈ labels ∧ ∃ cells, request.Lists files workbook label cells
  rows : table.rows.map ScanRow.path = if table.labels = [] then [] else paths
  cells : ∀ label ∈ table.labels, ∀ path ∈ paths, ∃ text counts,
    TextFile.read files path = .ok text ∧ request.CellOf files workbook label text counts ∧
      ScanTable.cellAt? table.rows path label = some counts

variable {request : ScanRequest} {files : FileSystem} {workbook : Workbook} {paths : List Path}
  {label : String} {labels selected : List String} {table joined : ScanTable}
  {notices : List Notice}

theorem lists_of_loadTargets {targets : TargetSet}
    (loaded : workbook.loadTargets files label request.layout = .ok targets) :
    ∃ cells, request.Lists files workbook label cells ∧
      targets.identifiers.filter (fun text => !Text.isBlankString text) =
        cells.filter (· ≠ "") := by
  obtain ⟨sheet, cells, read, own, rfl⟩ := Workbook.loadTargets_eq_ok_iff.mp loaded
  exact ⟨cells, ⟨sheet, read, own⟩, own.filter_blank⟩

theorem not_lists_of_loadTargets {failure : Failure}
    (failed : workbook.loadTargets files label request.layout = .error failure) :
    ¬ ∃ cells, request.Lists files workbook label cells := by
  rintro ⟨cells, sheet, read, own⟩
  rw [Workbook.loadTargets_eq_ok_iff.mpr ⟨sheet, cells, read, own, rfl⟩] at failed
  cases failed

/-!
## One sheet
-/

theorem joined_empty (request : ScanRequest) (files : FileSystem) (workbook : Workbook)
    (paths : List Path) : Joined request files workbook paths [] .empty where
  mem_labels := by simp [ScanTable.empty]
  rows := rfl
  cells := by simp [ScanTable.empty]

theorem Joined.skip (before : Joined request files workbook paths labels table)
    (none : ¬ ∃ cells, request.Lists files workbook label cells) :
    Joined request files workbook paths (labels ++ [label]) table where
  mem_labels other := by
    rw [before.mem_labels, List.mem_append, List.mem_singleton]
    constructor
    · rintro ⟨listed, own⟩
      exact ⟨.inl listed, own⟩
    · rintro ⟨listed | rfl, own⟩
      · exact ⟨listed, own⟩
      · exact absurd own none
  rows := before.rows
  cells := before.cells

theorem Joined.merge [PatternLibrary] {targets : TargetSet} {results : List FileCounts}
    (before : Joined request files workbook paths labels table) (distinct : Path.Distinct paths)
    (loaded : workbook.loadTargets files label request.layout = .ok targets)
    (scanned : scanFiles files paths targets = .ok results) :
    Joined request files workbook paths (labels ++ [label]) (table.merge label results) := by
  obtain ⟨cells, lists, written⟩ := lists_of_loadTargets loaded
  obtain ⟨covered, counted⟩ := scanFiles_exact scanned
  rw [written] at counted
  refine ⟨fun other => ?_, ?_, fun other member path inside => ?_⟩
  · rw [ScanTable.mem_labels_merge, before.mem_labels, List.mem_append, List.mem_singleton]
    constructor
    · rintro (⟨listed, own⟩ | rfl)
      · exact ⟨.inl listed, own⟩
      · exact ⟨.inr rfl, cells, lists⟩
    · rintro ⟨listed | rfl, own⟩
      · exact .inl ⟨listed, own⟩
      · exact .inr rfl
  · -- The first merge makes the rows, and every later one finds them all.
    have some : (table.merge label results).labels ≠ [] :=
      List.ne_nil_of_mem (ScanTable.mem_labels_merge.mpr (.inr rfl))
    rw [if_neg some, ScanTable.paths_merge, covered, before.rows]
    split
    · rw [← List.nil_append paths] at distinct
      exact ScanTable.foldl_addPath_of_distinct distinct
    · exact ScanTable.foldl_addPath_of_mem fun path member => member
  · rw [ScanTable.cellAt?_merge]
    by_cases same : other = label
    · subst same
      rw [← covered] at inside
      obtain ⟨result, among, rfl⟩ := List.mem_map.mp inside
      obtain ⟨text, read, counts⟩ := counted result among
      refine ⟨text, result.counts, read, ⟨cells, lists, counts⟩, ?_⟩
      rw [if_pos rfl, ScanTable.lastFor?_of_mem (covered ▸ distinct) among, Option.some_or]
    · rw [if_neg same]
      refine before.cells other ?_ path inside
      exact (ScanTable.mem_labels_merge.mp member).resolve_right same

/-!
## All sheets
-/

theorem joined_tabulate [PatternLibrary] (distinct : Path.Distinct paths)
    (before : Joined request files workbook paths labels table)
    (result : request.tabulate files workbook paths table selected = (.ok joined, notices)) :
    Joined request files workbook paths (labels ++ selected) joined := by
  induction selected generalizing labels table notices with
  | nil =>
      simp only [tabulate, Prod.mk.injEq, Except.ok.injEq] at result
      rw [List.append_nil, ← result.1]
      exact before
  | cons label rest ih =>
      rw [List.append_cons]
      unfold tabulate at result
      split at result
      · next failure failed =>
          split at result
          · -- A sheet without the column is passed over and leaves the table as it is.
            cases others : request.tabulate files workbook paths table rest with
            | mk produced told =>
                simp only [others, Prod.mk.injEq] at result
                obtain ⟨rfl, -⟩ := result
                exact ih (before.skip (not_lists_of_loadTargets failed)) others
          · simp at result
      · next targets loaded =>
          split at result
          · simp at result
          · next results scanned =>
              cases others :
                request.tabulate files workbook paths (table.merge label results) rest with
              | mk produced told =>
                  simp only [others, Prod.mk.injEq] at result
                  obtain ⟨rfl, -⟩ := result
                  exact ih (before.merge distinct loaded scanned) others

theorem table_eq_ok [PatternLibrary] [Corpus.UserRules]
    (result : request.table files workbook = (.ok joined, notices)) :
    ∃ paths selected told, Corpus.discover files request.root request.filter = .ok paths ∧
      workbook.selectSheets files request.sheets request.resultSheet = .ok selected ∧
      request.tabulate files workbook paths .empty selected = (.ok joined, told) ∧
      joined.labels ≠ [] := by
  unfold table at result
  split at result
  · simp at result
  · next paths discovered =>
      split at result
      · simp at result
      · next selected sheets =>
          cases tabulated : request.tabulate files workbook paths .empty selected with
          | mk produced told =>
              rw [tabulated] at result
              cases produced with
              | error failure => simp at result
              | ok table =>
                  by_cases none : table.labels = []
                  · simp [none] at result
                  · refine ⟨paths, selected, told, discovered, sheets, ?_⟩
                    have same : table = joined := by
                      simp only [List.isEmpty_iff, none, if_false] at result
                      split at result <;> exact Except.ok.inj (Prod.mk.inj result).1
                    rw [← same]
                    exact ⟨tabulated, none⟩

theorem exists_joined [PatternLibrary] [Corpus.UserRules] (named : files.HasNames)
    (result : request.table files workbook = (.ok joined, notices)) :
    ∃ paths selected, Corpus.discover files request.root request.filter = .ok paths ∧
      workbook.selectSheets files request.sheets request.resultSheet = .ok selected ∧
      Path.Distinct paths ∧ Joined request files workbook paths selected joined ∧
      joined.labels ≠ [] ∧ joined.rows.map ScanRow.path = paths := by
  obtain ⟨paths, selected, told, discovered, sheets, tabulated, some⟩ := table_eq_ok result
  have distinct := Corpus.discover_distinct named discovered
  have joins := joined_tabulate distinct (joined_empty request files workbook paths) tabulated
  have rows : joined.rows.map ScanRow.path = paths := by rw [joins.rows, if_neg some]
  exact ⟨paths, selected, discovered, sheets, distinct, joins, some, rows⟩

/-!
## The report
-/

/-- The data of a scan item of a file with a text: the keys are the selected sheets with the
identifier column, and under each is what was counted for it, never null. -/
structure DataOf (request : ScanRequest) (files : FileSystem) (workbook : Workbook)
    (text : List Char) (members : List (String × Json)) : Prop where
  ordered : Keyed.Ordered members
  keys : ∀ label, label ∈ members.map Prod.fst ↔
    workbook.Selects files request.sheets request.resultSheet label ∧
      ∃ cells, request.Lists files workbook label cells
  values : ∀ label value, (label, value) ∈ members →
    ∃ counts, request.CellOf files workbook label text counts ∧ value = counts.toJson

/-- What a scan item says of a file: its path as it is shown from the root, and the data of its
text. -/
structure Reports (request : ScanRequest) (files : FileSystem) (workbook : Workbook) (path : Path)
    (item : ReportItem) : Prop where
  shown : item.path = some (request.root.display path)
  data : ∃ text members, TextFile.read files path = .ok text ∧ item.data = some (.object members) ∧
    request.DataOf files workbook text members

/-- What a row tells under a label with a cell is what was counted there. -/
theorem exists_toJson (row : ScanRow) (labels : List String) :
    ∃ valueOf : String → Json,
      row.toJson labels = .sorted (labels.map fun label => (label, valueOf label)) ∧
      ∀ label counts, row.cell? label = some counts → valueOf label = counts.toJson :=
  ⟨_, rfl, fun label counts found => by rw [found]⟩

/-- Every row has a cell under every label, counted in the text of its file. -/
theorem Joined.cells_of_row (joined : Joined request files workbook paths selected table)
    (some : table.labels ≠ []) (distinct : Path.Distinct paths) {row : ScanRow}
    (member : row ∈ table.rows) :
    ∃ text, TextFile.read files row.path = .ok text ∧ ∀ label ∈ table.labels, ∃ counts,
      request.CellOf files workbook label text counts ∧ row.cell? label = .some counts := by
  have rows : table.rows.map ScanRow.path = paths := by rw [joined.rows, if_neg some]
  have inside : row.path ∈ paths := rows ▸ List.mem_map_of_mem member
  obtain ⟨first, own⟩ := List.exists_mem_of_ne_nil _ some
  obtain ⟨text, -, read, -, -⟩ := joined.cells first own row.path inside
  refine ⟨text, read, fun label listed => ?_⟩
  obtain ⟨same, counts, readToo, cell, found⟩ := joined.cells label listed row.path inside
  rw [read] at readToo
  cases readToo
  rw [ScanTable.cellAt?_of_mem (rows ▸ distinct) member] at found
  exact ⟨counts, cell, found⟩

theorem reports_rowItem (joined : Joined request files workbook paths selected table)
    (some : table.labels ≠ []) (distinct : Path.Distinct paths)
    (sheets : ∀ label, label ∈ selected ↔
      workbook.Selects files request.sheets request.resultSheet label)
    {row : ScanRow} (member : row ∈ table.rows) :
    request.Reports files workbook row.path (request.rowItem files table.labels row) := by
  obtain ⟨text, read, cells⟩ := joined.cells_of_row some distinct member
  obtain ⟨valueOf, written, told⟩ := exists_toJson row table.labels
  obtain ⟨members, object, ordered, held⟩ := Json.sorted_map valueOf table.labels
  refine ⟨rfl, text, members, read, congrArg Option.some (written.trans object), ordered,
    fun label => ?_, ?_⟩
  · rw [← sheets, ← joined.mem_labels, Json.mem_keys_iff held]
  · intro label value among
    obtain ⟨own, rfl⟩ := (held label value).mp among
    obtain ⟨counts, cell, found⟩ := cells label own
    exact ⟨counts, cell, told label counts found⟩

end ScanRequest

theorem runScan_eq_ok [PatternLibrary] [Corpus.UserRules] {request : ScanRequest}
    {files : FileSystem} {workbook : Workbook} {time : String} {items : List ReportItem}
    (success : (runScan request files workbook time).result = .ok items) :
    ∃ table notices, request.table files workbook = (.ok table, notices) ∧
      items.filter (fun item => item.kind = .scan) =
        table.rows.map (request.rowItem files table.labels) := by
  unfold runScan at success
  split at success
  · cases success
  · next table notices joined =>
      have scans : ∀ rows : List ScanRow,
          (rows.map (request.rowItem files table.labels)).filter (fun item => item.kind = .scan) =
            rows.map (request.rowItem files table.labels) := by
        intro rows
        refine List.filter_eq_self.mpr fun item member => ?_
        obtain ⟨row, -, rfl⟩ := List.mem_map.mp member
        rfl
      refine ⟨table, notices, joined, ?_⟩
      simp only at success
      split at success
      · split at success
        · cases success
        · cases success
          rw [List.filter_append, scans]
          exact List.append_nil _
      · cases success
        exact scans table.rows

/-- A scan that succeeds reports the discovered files in order, one item for each, with the counts of
the selected sheets in it and nothing else. -/
theorem runScan_reports_counts [PatternLibrary] [Corpus.UserRules] {request : ScanRequest}
    {files : FileSystem} {workbook : Workbook} {time : String} {items : List ReportItem}
    (named : files.HasNames)
    (success : (runScan request files workbook time).result = .ok items) :
    ∃ paths, Corpus.discover files request.root request.filter = .ok paths ∧
      List.Forall₂ (request.Reports files workbook) paths
        (items.filter fun item => item.kind = .scan) := by
  obtain ⟨table, notices, result, scans⟩ := runScan_eq_ok success
  obtain ⟨paths, selected, discovered, sheets, distinct, joined, some, rows⟩ :=
    ScanRequest.exists_joined named result
  refine ⟨paths, discovered, ?_⟩
  rw [scans, ← rows, List.forall₂_map_left_iff, List.forall₂_map_right_iff, List.forall₂_same]
  exact fun row member => ScanRequest.reports_rowItem joined some distinct
    (fun label => Workbook.mem_of_selectSheets sheets) member

section

attribute [local instance] PatternLibrary.sizeLimited Corpus.UserRules.absent

/-- The item of one script with two occurrences of the only identifier; the sheet of notes has no
identifier column. -/
theorem runScan_reports_counts_singleScript :
    let request : ScanRequest := ⟨⟨"/"⟩, [], {}, "result", {}, false⟩
    let files := singleScript "id ID".toList
    let workbook : Workbook :=
      .memory [⟨"ids", ["Column Name"], [["id"], [" id "], [""]]⟩, ⟨"notes", [], []⟩]
    let item : ReportItem :=
      { kind := .scan
        path := some "a.sql"
        data := some (.object [("ids", .object [("id", .number 2)])])
        metadata := { size := some 5 } }
    files.HasNames ∧ (runScan request files workbook "").result = .ok [item] ∧
      ∃ paths, Corpus.discover files request.root request.filter = .ok paths ∧
        List.Forall₂ (request.Reports files workbook) paths
          ([item].filter fun item => item.kind = .scan) := by
  intro request files workbook item
  have named : files.HasNames := FileSystem.hasNames_of_single rfl (by decide)
  have discovered : Corpus.discover files request.root request.filter = .ok [⟨"/a.sql"⟩] := by cbv
  have loaded : workbook.loadTargets files "ids" request.layout = .ok ⟨"ids", ["id", "id"]⟩ := by cbv
  have skipped : workbook.loadTargets files "notes" request.layout =
      .error (.missingHeader "notes" "Column Name") := by cbv
  have scanned : scanFiles files [⟨"/a.sql"⟩] ⟨"ids", ["id", "id"]⟩ =
      .ok [⟨⟨"/a.sql"⟩, [("id", 2)]⟩] := by
    have targets : Scan.targets ["id", "id"] =
        .ok [⟨"id", ⟨['i', 'd'], by decide⟩⟩, ⟨"id", ⟨['i', 'd'], by decide⟩⟩] := by cbv
    have read := TextFile.read_of_holdsText (singleScript_holdsText "id ID".toList)
    exact (scanFiles_single read targets).trans (by cbv)
  have size : files.size ⟨"/a.sql"⟩ = .ok 5 := by
    have located : files.locate ⟨"/a.sql"⟩ = .ok ["a.sql"] := (singleScript_holdsText _).located
    simp only [FileSystem.size, FileSystem.lookup, located]
    cbv
  have joined : (request.table files workbook).1 =
      .ok (ScanTable.empty.merge "ids" [⟨⟨"/a.sql"⟩, [("id", 2)]⟩]) := by
    have sheets : workbook.selectSheets files request.sheets request.resultSheet =
        .ok ["ids", "notes"] := by cbv
    simp only [ScanRequest.table, discovered, sheets, ScanRequest.tabulate, loaded, skipped, scanned]
    rfl
  have result : (runScan request files workbook "").result = .ok [item] := by
    unfold runScan
    cases found : request.table files workbook with
    | mk produced notices =>
        rw [found] at joined
        cases joined
        have shown : request.rowItem files ["ids"] ⟨⟨"/a.sql"⟩, [("ids", [("id", 2)])]⟩ = item := by
          simp only [ScanRequest.rowItem, size]
          cbv
        exact congrArg (fun one => Except.ok [one]) shown
  exact ⟨named, result, runScan_reports_counts named result⟩

end

end SqlColumns
