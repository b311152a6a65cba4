import SqlColumns.Proofs.Task.Scan
import SqlColumns.Proofs.Workbook.Tables

/-!
# What a scan stores

The result sheet and the printed items come from one table: a row has the path of an item and, under
each label of the last item, a text that reads back as what the data of the item has there.
-/

set_option autoImplicit false

namespace SqlColumns

variable {request : ScanRequest} {files : FileSystem} {workbook : Workbook} {time : String}
  {items : List ReportItem}

/-- A scan that writes has a table, stores it and reports its rows and a last item. -/
theorem runScan_eq_of_write [PatternLibrary] [Corpus.UserRules] (writes : request.write = true)
    (success : (runScan request files workbook time).result = .ok items) :
    ∃ table notices written kept, request.table files workbook = (.ok table, notices) ∧
      table.write files workbook request.resultSheet request.root = .ok (written, kept) ∧
      items = table.rows.map (request.rowItem files table.labels) ++
        [request.summaryItem table time] ∧
      runScan request files workbook time =
        ⟨.ok items, written, kept, notices ++ [request.wrote table]⟩ := by
  unfold runScan at success ⊢
  cases tabulated : request.table files workbook with
  | mk produced notices =>
      rw [tabulated] at success
      cases produced with
      | error failure => cases success
      | ok table =>
          simp only [writes, if_true] at success ⊢
          cases stored : table.write files workbook request.resultSheet request.root with
          | error failure =>
              rw [stored] at success
              cases success
          | ok both =>
              rw [stored] at success
              cases success
              exact ⟨table, notices, both.1, both.2, rfl, stored, rfl, rfl⟩

/-- A row of the result sheet tells what an item says: the path of the item, then for each label a
text that stands for what its data has under it, and the data has nothing else. -/
def TellsItem (labels : List String) (row : List String) (item : ReportItem) : Prop :=
  ∃ path cells members, row = path :: cells ∧ item.path = some path ∧
    item.data = some (.object members) ∧ Keyed.Ordered members ∧
    (∀ label, label ∈ members.map Prod.fst ↔ label ∈ labels) ∧
    List.Forall₂ (fun label text => ∃ value, Json.parse? text = some value ∧
      (Json.object members).member? label = some value) labels cells

namespace ScanRequest

variable {paths : List Path} {selected : List String} {table : ScanTable}

theorem summaryItem_data (request : ScanRequest) (table : ScanTable) (time : String) :
    (request.summaryItem table time).data = some (.object
      [("labels", .strings table.labels), ("rows", .number table.rows.length)]) := by
  have first : "labels" < "rows" := by decide
  simp only [summaryItem, Json.sorted, List.foldl_cons, List.foldl_nil, Json.insertMember, first,
    if_true]

theorem tellsItem_of_joined (joined : Joined request files workbook paths selected table)
    (some : table.labels ≠ []) (distinct : Path.Distinct paths) {row : ScanRow}
    (member : row ∈ table.rows) :
    TellsItem table.labels
      (request.root.display row.path :: table.labels.map (ScanTable.cellText row))
      (request.rowItem files table.labels row) := by
  obtain ⟨text, -, cells⟩ := joined.cells_of_row some distinct member
  obtain ⟨valueOf, written, told⟩ := exists_toJson row table.labels
  obtain ⟨members, object, ordered, held⟩ := Json.sorted_map valueOf table.labels
  refine ⟨_, _, members, rfl, rfl, congrArg Option.some (written.trans object), ordered,
    fun label => ?_, ?_⟩
  · exact Json.mem_keys_iff held label
  · rw [List.forall₂_map_right_iff, List.forall₂_same]
    intro label own
    obtain ⟨counts, -, found⟩ := cells label own
    refine ⟨counts.toJson, ?_, ?_⟩
    · rw [ScanTable.cellText, found]
      exact counts.parse?_compact_toJson
    · refine (Keyed.find?_eq_some_iff ordered.nodup).mpr ((held label _).mpr ⟨own, ?_⟩)
      exact (told label counts found).symm

end ScanRequest

/-- A scan that writes and succeeds stores what it reports: the result sheet can be read back, its
rows tell what the items of the files say, and the last item has its labels and the number of its
rows. -/
theorem runScan_stores_report [PatternLibrary] [Corpus.UserRules] (named : files.HasNames)
    (writes : request.write = true)
    (placed : workbook.HasPlace files request.resultSheet)
    (success : (runScan request files workbook time).result = .ok items) :
    ∃ scans summary labels sheet, items = scans ++ [summary] ∧
      (∀ item ∈ scans, item.kind = .scan) ∧
      summary.kind = .sheet ∧ summary.label = some request.resultSheet ∧
      summary.data = some (.object
        [("labels", .strings labels), ("rows", .number sheet.rows.length)]) ∧
      (runScan request files workbook time).workbook.readSheet
        (runScan request files workbook time).files request.resultSheet = .ok sheet ∧
      List.Forall₂ (TellsItem labels) sheet.rows scans := by
  obtain ⟨table, notices, written, kept, result, stored, rfl, outcome⟩ :=
    runScan_eq_of_write writes success
  obtain ⟨paths, selected, discovered, sheets, distinct, joined, some, rows⟩ :=
    ScanRequest.exists_joined named result
  obtain ⟨headers, read⟩ := Workbook.readSheet_of_writeSheet named placed (List.cons_ne_nil _ _)
    (fun row member => by
      obtain ⟨one, -, rfl⟩ := List.mem_map.mp member
      exact List.cons_ne_nil _ _)
    (fun header first => by
      cases first
      decide) stored
  refine ⟨table.rows.map (request.rowItem files table.labels), request.summaryItem table time,
    table.labels, _, rfl, ?_, rfl, rfl, ?_, by rw [outcome]; exact read, ?_⟩
  · intro item member
    obtain ⟨row, -, rfl⟩ := List.mem_map.mp member
    rfl
  · rw [ScanRequest.summaryItem_data, ScanTable.toSheet, List.length_map]
  · rw [ScanTable.toSheet, List.forall₂_map_left_iff, List.forall₂_map_right_iff, List.forall₂_same]
    exact fun row member => ScanRequest.tellsItem_of_joined joined some distinct member

section

attribute [local instance] PatternLibrary.sizeLimited Corpus.UserRules.absent

/-- The sheet that is stored for one script with two occurrences of the only identifier. -/
theorem runScan_stores_report_singleScript :
    let request : ScanRequest := ⟨⟨"/"⟩, ["ids"], {}, "result", {}, true⟩
    let files := singleScript "id ID".toList
    let workbook : Workbook := .memory [⟨"ids", ["Column Name"], [["id"]]⟩, ⟨"result", [], []⟩]
    let sheet : Sheet := ⟨"result", ["file_name", "ids"], [["a.sql", "\x7b\"id\":2\x7d"]]⟩
    files.HasNames ∧ workbook.HasPlace files request.resultSheet ∧
      (runScan request files workbook "").workbook.readSheet
        (runScan request files workbook "").files "result" = .ok sheet ∧
      ∃ scans summary labels, (runScan request files workbook "").result = .ok (scans ++ [summary]) ∧
        summary.data = some (.object [("labels", .strings labels), ("rows", .number 1)]) ∧
        List.Forall₂ (TellsItem labels) sheet.rows scans := by
  intro request files workbook sheet
  have named : files.HasNames := FileSystem.hasNames_of_single rfl (by decide)
  have discovered : Corpus.discover files request.root request.filter = .ok [⟨"/a.sql"⟩] := by cbv
  have loaded : workbook.loadTargets files "ids" request.layout = .ok ⟨"ids", ["id"]⟩ := by cbv
  have scanned : scanFiles files [⟨"/a.sql"⟩] ⟨"ids", ["id"]⟩ =
      .ok [⟨⟨"/a.sql"⟩, [("id", 2)]⟩] := by
    have targets : Scan.targets ["id"] = .ok [⟨"id", ⟨['i', 'd'], by decide⟩⟩] := by cbv
    have read := TextFile.read_of_holdsText (singleScript_holdsText "id ID".toList)
    exact (scanFiles_single read targets).trans (by cbv)
  have joined : (request.table files workbook).1 =
      .ok (ScanTable.empty.merge "ids" [⟨⟨"/a.sql"⟩, [("id", 2)]⟩]) := by
    have sheets : workbook.selectSheets files request.sheets request.resultSheet = .ok ["ids"] := by
      cbv
    simp only [ScanRequest.table, discovered, sheets, ScanRequest.tabulate, loaded, scanned]
    rfl
  have placed : workbook.HasPlace files request.resultSheet := trivial
  have stored : (ScanTable.empty.merge "ids" [⟨⟨"/a.sql"⟩, [("id", 2)]⟩]).write files workbook
      request.resultSheet request.root =
        .ok (files, .memory [⟨"ids", ["Column Name"], [["id"]]⟩, sheet]) := by cbv
  have outcome : ∃ items notices, runScan request files workbook "" =
      ⟨.ok items, files, .memory [⟨"ids", ["Column Name"], [["id"]]⟩, sheet], notices⟩ := by
    unfold runScan
    cases found : request.table files workbook with
    | mk produced notices =>
        rw [found] at joined
        cases joined
        exact ⟨_, _, by simp only [stored]; rfl⟩
  obtain ⟨items, notices, outcome⟩ := outcome
  have read : (runScan request files workbook "").workbook.readSheet
      (runScan request files workbook "").files "result" = .ok sheet := by
    rw [outcome]
    rfl
  have success : (runScan request files workbook "").result = .ok items := by rw [outcome]
  obtain ⟨scans, summary, labels, stored, split, -, -, -, data, again, tells⟩ :=
    runScan_stores_report named rfl placed success
  obtain rfl := Except.ok.inj (again.symm.trans read)
  exact ⟨named, placed, read, scans, summary, labels, split ▸ success, data, tells⟩

end

end SqlColumns
