import SqlColumns.Proofs.Corpus.RootRules
import SqlColumns.Proofs.Task.Stored
import SqlColumns.Proofs.Workbook.Others

/-!
# Scanning again

A scan that writes adds or replaces a sheet in the workbook that the next scan reads. The next scan
leaves this sheet out, finds the same files and the same other sheets, and so stores what is already
there, unless the sheet has become a file of ignore rules.
-/

set_option autoImplicit false

namespace SqlColumns

def ReportItem.timeless (item : ReportItem) : ReportItem :=
  { item with metadata := { item.metadata with generatedAt := none } }

/-- A scan goes as the one before it: it succeeds with the same items, their times aside, and leaves
all files and sheets as they are. -/
structure Repeats (items : List ReportItem) (first second : ScanOutcome) : Prop where
  items : ∃ again, second.result = .ok again ∧
    again.map ReportItem.timeless = items.map ReportItem.timeless
  files : second.files = first.files
  workbook : second.workbook = first.workbook

def Workbook.LeadsToSheet (files : FileSystem) (name : String) (path : Path) : Workbook → Prop
  | .memory _ => False
  | .directory folder => ∃ own location, Workbook.locate files folder name = .ok (some own) ∧
      files.locate own = .ok location ∧ files.locate path = .ok location

/-- A file name with one extension has no other one. -/
theorem Corpus.not_isSqlName_of_isSheetFileName {name : String}
    (sheetName : Workbook.isSheetFileName name = true) : isSqlName name = false := by
  have csv := (Bool.and_eq_true_iff.mp sheetName).2
  rw [Path.hasExtension_eq, Option.any_eq_true] at csv
  obtain ⟨own, extension, same⟩ := csv
  rw [isSqlName, Path.hasExtension_eq, extension, Option.any_some, eq_of_beq same]
  decide

namespace ScanRequest

variable {request : ScanRequest} {files written : FileSystem} {workbook kept : Workbook}
  {paths : List Path} {selected : List String}

theorem tabulate_congr [PatternLibrary] {table : ScanTable}
    (sheets : ∀ label ∈ selected, kept.loadTargets written label request.layout =
      workbook.loadTargets files label request.layout)
    (texts : ∀ path ∈ paths, TextFile.read written path = TextFile.read files path) :
    request.tabulate written kept paths table selected =
      request.tabulate files workbook paths table selected := by
  induction selected generalizing table with
  | nil => rfl
  | cons label rest ih =>
      obtain ⟨own, others⟩ := List.forall_mem_cons.mp sheets
      have scans : ∀ targets : TargetSet, scanFiles written paths targets =
          scanFiles files paths targets := by
        intro targets
        simp only [scanFiles, Scan.countFiles_congr texts fun _ => rfl]
      simp only [tabulate, own, scans, ih others]

theorem table_congr [PatternLibrary] [Corpus.UserRules] {table : ScanTable} {notices : List Notice}
    (discovered : Corpus.discover files request.root request.filter = .ok paths)
    (still : Corpus.discover written request.root request.filter = .ok paths)
    (sheets : workbook.selectSheets files request.sheets request.resultSheet = .ok selected)
    (sheetsToo : kept.selectSheets written request.sheets request.resultSheet = .ok selected)
    (targets : ∀ label ∈ selected, kept.loadTargets written label request.layout =
      workbook.loadTargets files label request.layout)
    (texts : ∀ path ∈ paths, TextFile.read written path = TextFile.read files path)
    (result : request.table files workbook = (.ok table, notices)) :
    request.table written kept = (.ok table, notices) := by
  rw [← result]
  simp only [ScanRequest.table, discovered, still, sheets, sheetsToo, tabulate_congr targets texts]

/-- Where the table, the files of its rows and the outcome of storing it are the same, a scan goes
as before. -/
theorem repeats_of_table [PatternLibrary] [Corpus.UserRules] {table : ScanTable}
    {notices told : List Notice} {time later : String}
    (result : request.table written kept = (.ok table, notices)) (writes : request.write = true)
    (again : table.write written kept request.resultSheet request.root = .ok (written, kept))
    (sizes : ∀ row ∈ table.rows, written.size row.path = files.size row.path)
    {items : List ReportItem}
    (reported : items = table.rows.map (request.rowItem files table.labels) ++
      [request.summaryItem table time]) :
    Repeats items ⟨.ok items, written, kept, told⟩ (runScan request written kept later) := by
  have second : runScan request written kept later =
      ⟨.ok (table.rows.map (request.rowItem written table.labels) ++
        [request.summaryItem table later]), written, kept, notices ++ [request.wrote table]⟩ := by
    simp only [runScan, result, writes, if_true, again]
  have rows : table.rows.map (request.rowItem written table.labels) =
      table.rows.map (request.rowItem files table.labels) := by
    refine List.map_congr_left fun row member => ?_
    rw [rowItem, rowItem, sizes row member]
  rw [second]
  refine ⟨⟨_, rfl, ?_⟩, rfl, rfl⟩
  rw [reported, rows, List.map_append, List.map_append]
  rfl

/-- Every file of the table is one that can be read. -/
theorem Joined.located [PatternLibrary] {table : ScanTable}
    (joined : Joined request files workbook paths selected table) (some : table.labels ≠ [])
    {path : Path} (member : path ∈ paths) : ∃ location, files.locate path = .ok location := by
  obtain ⟨label, own⟩ := List.exists_mem_of_ne_nil _ some
  obtain ⟨text, counts, read, -⟩ := joined.cells label own path member
  cases located : files.locate path with
  | ok location => exact ⟨location, rfl⟩
  | error cause =>
      simp [TextFile.read, FileSystem.read, FileSystem.lookup, located, bind, Except.bind] at read

end ScanRequest

open FileSystem

/-- A change in which nothing but the file of a sheet is made or replaced. -/
theorem Workbook.Keeps.replaces {files written : FileSystem} {folder : Path} {sheet : Sheet}
    {place : Location} (keeps : Keeps files folder sheet place written) :
    Corpus.Replaces files place written where
  written_eq := ⟨_, keeps.written_eq⟩
  same := keeps.same
  there := keeps.there
  below := by
    rintro rfl
    obtain ⟨path, -, leads⟩ := keeps.found
    exact leads.below_root rfl

/-- Where the file of the sheet is not one of rules, the same files are found, each as it was. -/
theorem Workbook.Keeps.corpus_eq [Corpus.UserRules] {files written : FileSystem}
    {folder root : Path} {sheet : Sheet} {place : Location}
    (keeps : Keeps files folder sheet place written) (named : files.HasNames) (tree : files.IsTree)
    (noLinks : NoLinks files (.directory folder)) {filter : Corpus.Filter}
    (noRules : filter.respectIgnore = true → ∀ location, files.locate root = .ok location →
      ∀ file, Corpus.ReadsRules files root location file →
        ¬ LeadsToSheet written sheet.name file (.directory folder))
    {paths : List Path} (discovered : Corpus.discover files root filter = .ok paths)
    (located : ∀ path ∈ paths, ∃ location, files.locate path = .ok location) :
    Corpus.discover written root filter = .ok paths ∧
      ∀ path ∈ paths, written.lookup path = files.lookup path := by
  obtain ⟨location, own, -, -, here, sheetName, -⟩ := keeps.place_eq noLinks
  obtain ⟨path, found, leads⟩ := keeps.found
  have other : place.getLast?.any Corpus.isSqlName = false := by
    rw [here, List.getLast?_concat]
    exact Corpus.not_isSqlName_of_isSheetFileName sheetName
  have apart : filter.respectIgnore = true → ∀ location, files.locate root = .ok location →
      ∀ file, Corpus.ReadsRules files root location file → written.locate file ≠ .ok place :=
    fun respected location located file reads reached =>
      noRules respected location located file reads ⟨path, place, found, leads.located, reached⟩
  refine ⟨Corpus.discover_eq keeps.replaces other apart discovered, fun path member => ?_⟩
  obtain ⟨location, located⟩ := located path member
  exact Corpus.lookup_eq_of_discovered named tree keeps.replaces other discovered member located

/-!
## A linked file of rules

The ignore file of the root is a link to a file that is not there. The only sheet has a name with
which the headers of the result sheet, as a line of its file, are the name of the only script.
-/

def linkedRules : FileSystem :=
  ⟨[([".ignore"], .link "result.csv"),
    (["d.sql.csv"], .file (Sheet.bytes ⟨"d.sql", ["Column Name"], []⟩)),
    (["file_name,d.sql"], .file [])], [], [], by simp⟩

namespace LinkedRules

attribute [local instance] PatternLibrary.sizeLimited Corpus.UserRules.absent

def scan (resultSheet : String) : ScanRequest :=
  ⟨⟨"/"⟩, [], {}, resultSheet, ⟨false, true⟩, true⟩

def stored (resultSheet : String) : Sheet :=
  ⟨resultSheet, ["file_name", "d.sql"], [["file_name,d.sql", "\x7b\x7d"]]⟩

def written (resultSheet : String) : FileSystem :=
  linkedRules.set [Sheet.fileNameOf resultSheet] (.file (stored resultSheet).bytes)

theorem isName : ∀ name ∈ [".ignore", "d.sql.csv", "file_name,d.sql", "report.csv", "result.csv"],
    IsName name := by
  decide

/-- The ignore file is found in the file that it is a link to. -/
theorem locate_ignore {files : FileSystem} {found : Location}
    (link : files.entryAt? [".ignore"] = some (.link "result.csv"))
    (noLink : ∀ target, files.entryAt? ["result.csv"] ≠ some (.link target)) :
    files.locate ⟨"/.ignore"⟩ = .ok found ↔
      files.entryAt? ["result.csv"] ≠ none ∧ found = ["result.csv"] := by
  have opened := isFolder_root files
  have names : steps "/.ignore" = [".ignore"] ∧ steps "result.csv" = ["result.csv"] := by
    decide
  have walked : files.walk ⟨.entry, false, false⟩ linkLimit [] [".ignore"] =
      .ok (if (files.entryAt? ["result.csv"]).isSome then .taken ["result.csv"]
        else .free ["result.csv"]) := by
    rw [linkLimit, walk_link opened.directory (isName _ (by decide)) (by decide) link,
      if_neg (by decide), names.2]
    exact (walk_name opened.directory (isName _ (by decide)) noLink).trans
      (if_neg (by decide))
  have path : refusal? ⟨"/.ignore"⟩ = none ∧ isTooLong ⟨"/.ignore"⟩ = false ∧
      endsInSlash "/.ignore" = false := by decide
  have origin : files.origin ⟨"/.ignore"⟩ = [] := rfl
  rw [locate_eq_ok_iff, path.2.2, names.1, origin, walked]
  cases files.entryAt? ["result.csv"] <;> simp [path, eq_comm]

theorem readRules_linkedRules : Corpus.readRules linkedRules ⟨"/.ignore"⟩ = ([], []) := by
  have missing : linkedRules.entryAt? ["result.csv"] = none := by decide
  refine Corpus.readRules_of_not_located fun found located => ?_
  exact ((locate_ignore (by decide) (by simp [missing])).mp located).1 missing

theorem readRules_written : Corpus.readRules (written "result") ⟨"/.ignore"⟩ =
    IgnoreRules.ofBytes ⟨"/.ignore"⟩ (stored "result").bytes := by
  have holds : (written "result").entryAt? ["result.csv"] =
      some (.file (stored "result").bytes) := by decide
  have leads : (written "result").LeadsTo ⟨"/.ignore"⟩ ["result.csv"] (stored "result").bytes :=
    ⟨(locate_ignore (by decide) (by simp [holds])).mpr ⟨by simp [holds], rfl⟩, holds⟩
  rw [Corpus.readRules, leads.read_eq]

theorem discover_linkedRules :
    Corpus.discover linkedRules ⟨"/"⟩ ⟨false, true⟩ = .ok [⟨"/file_name,d.sql"⟩] := by
  have folders : Corpus.foldersBelow linkedRules [] = [] := by decide
  have shown : Corpus.shownFiles linkedRules ⟨"/"⟩ [] (some (Corpus.rootRulebook [])) false =
      [⟨"/file_name,d.sql"⟩] := by decide +kernel
  have discovered := Corpus.discover_root (by decide) (by decide) rfl folders
    readRules_linkedRules false true
  rwa [if_pos rfl, shown] at discovered

/-- The first line of the stored sheet is a rule that ignores the script. -/
theorem discover_written :
    Corpus.discover (written "result") ⟨"/"⟩ ⟨false, true⟩ = .ok [] := by
  have folders : Corpus.foldersBelow (written "result") [] = [] := by decide
  have noFaults : (IgnoreRules.ofBytes ⟨"/.ignore"⟩ (stored "result").bytes).2 = [] := by
    decide +kernel
  have shown : Corpus.shownFiles (written "result") ⟨"/"⟩ []
      (some (Corpus.rootRulebook (IgnoreRules.ofBytes ⟨"/.ignore"⟩ (stored "result").bytes).1))
      false = [] := by
    decide +kernel
  have discovered := Corpus.discover_root (by decide) (by decide) rfl folders
    (readRules_written.trans (Prod.ext rfl noFaults)) false true
  rwa [if_pos rfl, shown] at discovered

theorem names : linkedRules.namesIn [] = [".ignore", "d.sql.csv", "file_name,d.sql"] := by
  have ordered : [".ignore", "d.sql.csv", "file_name,d.sql"].Pairwise
      fun left right => decide (left ≤ right) = true := by decide
  exact List.mergeSort_of_pairwise ordered

theorem leadsToSheet : linkedRules.LeadsTo ⟨"/d.sql.csv"⟩ ["d.sql.csv"]
    (Sheet.bytes ⟨"d.sql", ["Column Name"], []⟩) := by
  have path : (Path.mk "/").append ⟨"d.sql.csv"⟩ = ⟨"/d.sql.csv"⟩ := by decide
  have takes : Takes ((Path.mk "/").append ⟨"d.sql.csv"⟩) "d.sql.csv" := by
    constructor <;> decide
  exact path ▸ (isFolder_root linkedRules).leadsTo (isName _ (by decide)) (by decide) takes

theorem leadsToScript : linkedRules.LeadsTo ⟨"/file_name,d.sql"⟩ ["file_name,d.sql"] [] := by
  have path : (Path.mk "/").append ⟨"file_name,d.sql"⟩ = ⟨"/file_name,d.sql"⟩ := by decide
  have takes : Takes ((Path.mk "/").append ⟨"file_name,d.sql"⟩) "file_name,d.sql" := by
    constructor <;> decide
  exact path ▸ (isFolder_root linkedRules).leadsTo (isName _ (by decide)) (by decide) takes

/-- The only sheet is that of the file which is not hidden and has the extension of sheets. -/
theorem sheetFiles_eq :
    Workbook.sheetFiles linkedRules ⟨"/"⟩ = .ok [("d.sql", ⟨"/d.sql.csv"⟩)] := by
  have opened := isFolder_root linkedRules
  have kinds : Workbook.isSheetFileName ".ignore" = false ∧
      Workbook.isSheetFileName "file_name,d.sql" = false ∧
      Workbook.isSheetFileName "d.sql.csv" = true ∧ (Path.splitName "d.sql.csv").1 = "d.sql" ∧
      (Path.mk "/").append ⟨"d.sql.csv"⟩ = ⟨"/d.sql.csv"⟩ := by decide +kernel
  obtain ⟨hidden, script, sheet, stem, path⟩ := kinds
  have file : linkedRules.isFile ⟨"/d.sql.csv"⟩ = true := isFile_iff.mpr ⟨_, _, leadsToSheet⟩
  rw [Workbook.sheetFiles_eq opened.located, names]
  simp [Workbook.listing?_eq (isName ".ignore" (by decide)), hidden,
    Workbook.listing?_eq (isName "d.sql.csv" (by decide)), sheet, stem, path, file,
    Workbook.listing?_eq (isName "file_name,d.sql" (by decide)), script]

theorem loadTargets_eq :
    Workbook.loadTargets linkedRules (.directory ⟨"/"⟩) "d.sql" {} = .ok ⟨"d.sql", []⟩ := by
  have parsed : Csv.parse (Sheet.bytes ⟨"d.sql", ["Column Name"], []⟩) = .ok [["Column Name"]] :=
    Csv.parse_print (by simp) (by simp) (by simp)
  have targets : Sheet.targets ⟨"d.sql", ["Column Name"], []⟩ {} = .ok [] := by decide
  have headers : Workbook.cleanHeader "Column Name" = "Column Name" := by decide
  have valid : Workbook.validName "d.sql" = true := by decide
  have read : Workbook.readSheet linkedRules (.directory ⟨"/"⟩) "d.sql" =
      .ok ⟨"d.sql", ["Column Name"], []⟩ := by
    simp [Workbook.readSheet, Workbook.locate, valid, sheetFiles_eq, leadsToSheet.read_eq, parsed,
      Workbook.sheetOfRecords, headers]
  rw [Workbook.loadTargets, read]
  simp [targets, bind, Except.bind, pure, Except.pure]

def table : ScanTable :=
  ScanTable.empty.merge "d.sql" [⟨⟨"/file_name,d.sql"⟩, []⟩]

variable {resultSheet : String} (chosen : resultSheet ∈ ["report", "result"])

include chosen

theorem table_eq : ((scan resultSheet).table linkedRules (.directory ⟨"/"⟩)).1 = .ok table := by
  have discovered : Corpus.discover linkedRules (scan resultSheet).root (scan resultSheet).filter =
      .ok [⟨"/file_name,d.sql"⟩] := discover_linkedRules
  have sheets : Workbook.selectSheets linkedRules (.directory ⟨"/"⟩) (scan resultSheet).sheets
      (scan resultSheet).resultSheet = .ok ["d.sql"] := by
    have other : ∀ name ∈ ["report", "result"], ("d.sql" != name) = true := by decide
    simp [scan, Workbook.selectSheets, Workbook.sheetNames, sheetFiles_eq, other _ chosen, bind,
      Except.bind, pure, Except.pure]
  have loaded : Workbook.loadTargets linkedRules (.directory ⟨"/"⟩) "d.sql"
      (scan resultSheet).layout = .ok ⟨"d.sql", []⟩ := loadTargets_eq
  have read : TextFile.read linkedRules ⟨"/file_name,d.sql"⟩ = .ok [] := by
    have decoded : Text.decode? [] = .ok [] := Text.decode?_encode []
    simp only [TextFile.read, leadsToScript.read_eq, decoded]
  have scanned : scanFiles linkedRules [⟨"/file_name,d.sql"⟩] ⟨"d.sql", []⟩ =
      .ok [⟨⟨"/file_name,d.sql"⟩, []⟩] := by
    simp only [scanFiles, Scan.countFiles, Scan.countFile, read]
    rfl
  simp only [ScanRequest.table, discovered, sheets, ScanRequest.tabulate, loaded, scanned]
  rfl

/-- The result sheet is made in the file that its name says. -/
theorem write_eq : table.write linkedRules (.directory ⟨"/"⟩) resultSheet ⟨"/"⟩ =
    .ok (written resultSheet, .directory ⟨"/"⟩) := by
  have sheet : table.toSheet resultSheet ⟨"/"⟩ = stored resultSheet := by
    have equal : ∀ name ∈ ["report", "result"], table.toSheet name ⟨"/"⟩ = stored name := by decide
    exact equal _ chosen
  have proper : IsName (Sheet.fileNameOf resultSheet) := by
    have file : ∀ name ∈ ["report", "result"],
        Sheet.fileNameOf name ∈ ["report.csv", "result.csv"] := by decide
    exact isName _ (List.mem_append_right [".ignore", "d.sql.csv", "file_name,d.sql"]
      (file _ chosen))
  have takes : Takes ((Path.mk "/").append ⟨Sheet.fileNameOf resultSheet⟩)
      (Sheet.fileNameOf resultSheet) := by
    have fine : ∀ name ∈ ["report", "result"],
        refusal? ((Path.mk "/").append ⟨Sheet.fileNameOf name⟩) = none := by decide
    have short : ∀ name ∈ ["report", "result"],
        isTooLong ((Path.mk "/").append ⟨Sheet.fileNameOf name⟩) = false := by decide
    have fits : ∀ name ∈ ["report", "result"],
        (Text.encodeString (Sheet.fileNameOf name)).length ≤ 255 := by decide
    exact ⟨fine _ chosen, short _ chosen, fits _ chosen⟩
  have free : linkedRules.HoldsFileOrNothing [Sheet.fileNameOf resultSheet] := by
    have missing : ∀ name ∈ ["report", "result"],
        linkedRules.entryAt? [Sheet.fileNameOf name] = none := by decide
    simp [HoldsFileOrNothing, missing _ chosen]
  have located : Workbook.locate linkedRules ⟨"/"⟩ (stored resultSheet).name = .ok none := by
    have valid : ∀ name ∈ ["report", "result"], Workbook.validName (stored name).name = true := by
      decide
    have other : ∀ name ∈ ["report", "result"], ("d.sql" == (stored name).name) = false := by decide
    simp [Workbook.locate, valid _ chosen, sheetFiles_eq, other _ chosen]
  have made : linkedRules.write ((Path.mk "/").append ⟨(stored resultSheet).name ++ ".csv"⟩)
      (Csv.print ((stored resultSheet).headers :: (stored resultSheet).rows)) =
        .ok (written resultSheet) :=
    (isFolder_root linkedRules).write_eq proper free takes (stored resultSheet).bytes
  simp only [ScanTable.write, sheet, Workbook.writeSheet, located, Option.getD_none, made]

/-- The first scan reports the script and stores the sheet. -/
theorem runScan_eq (time : String) :
    ∃ items notices, items.length = 2 ∧
      runScan (scan resultSheet) linkedRules (.directory ⟨"/"⟩) time =
        ⟨.ok items, written resultSheet, .directory ⟨"/"⟩, notices⟩ := by
  cases result : (scan resultSheet).table linkedRules (.directory ⟨"/"⟩) with
  | mk produced notices =>
      have made : produced = .ok table := by rw [← table_eq chosen, result]
      have writes : (scan resultSheet).write = true := rfl
      have stored : table.write linkedRules (.directory ⟨"/"⟩) (scan resultSheet).resultSheet
          (scan resultSheet).root = .ok (written resultSheet, .directory ⟨"/"⟩) := write_eq chosen
      refine ⟨table.rows.map ((scan resultSheet).rowItem linkedRules table.labels) ++
        [(scan resultSheet).summaryItem table time], notices ++ [(scan resultSheet).wrote table],
        rfl, ?_⟩
      simp only [runScan, result, made, writes, if_true, stored]

omit chosen

theorem hasNames : linkedRules.HasNames := by
  decide

/-- Whatever lies below the root lies right in it. -/
theorem eq_of_entryAt? {location : Location} {name : String} {entry : Entry}
    (holds : linkedRules.entryAt? (location ++ [name]) = some entry) :
    location = [] ∧ ([name], entry) ∈ linkedRules.entries := by
  have member := mem_of_entryAt? (by simp) holds
  obtain rfl : location = [] := by
    simp only [linkedRules, List.mem_cons, Prod.mk.injEq, List.append_eq_singleton_iff] at member
    grind
  exact ⟨rfl, member⟩

theorem isTree : linkedRules.IsTree := by
  refine isTree_of_entries fun one member => ?_
  simp only [linkedRules, List.mem_cons, List.not_mem_nil, or_false] at member
  rcases member with rfl | rfl | rfl <;> rfl

theorem noLinks : Workbook.NoLinks linkedRules (.directory ⟨"/"⟩) := by
  intro location located name sheetName target link
  have hidden : Workbook.isSheetFileName ".ignore" = false := by decide
  obtain ⟨-, member⟩ := eq_of_entryAt? link
  obtain ⟨rfl, -⟩ : name = ".ignore" ∧ target = "result.csv" := by simpa [linkedRules] using member
  rw [hidden] at sheetName
  cases sheetName

/-- Under another name, the result sheet is no file of rules. -/
theorem report_apart {file : Path} {location : Location}
    (opened : linkedRules.locate ⟨"/"⟩ = .ok location)
    (reads : Corpus.ReadsRules linkedRules ⟨"/"⟩ location file) (found : Location) :
    (written "report").locate file ≠ .ok found := by
  obtain rfl : [] = location := Except.ok.inj ((isFolder_root linkedRules).located.symm.trans opened)
  cases reads with
  | user consults =>
      cases consults with
      | setting member => cases member
      | rules some => cases some
  | @folder folder _ member consults =>
      have folders : Corpus.rulesFolders linkedRules ⟨"/"⟩ [] = [⟨"/"⟩] := by decide
      obtain rfl := List.mem_singleton.mp (folders ▸ member)
      have files := Corpus.consulted (by decide) consults
      simp only [List.mem_cons, List.not_mem_nil, or_false] at files
      rcases files with rfl | rfl | rfl | rfl
      · have missing : (written "report").entryAt? ["result.csv"] = none := by decide
        intro located
        exact ((locate_ignore (by decide) (by simp [missing])).mp located).1 missing
      · exact Corpus.versioned_missing (by decide) found
      · exact Corpus.repository_missing (by decide) found
      · exact Corpus.exclusions_missing (by decide) found

end LinkedRules

/-- A scan that writes can be made again: it has the same items and changes nothing more, if no
ignore rules are read from the file of the result sheet. -/
theorem runScan_repeats [PatternLibrary] [Corpus.UserRules] {request : ScanRequest}
    {files : FileSystem} {workbook : Workbook} {time : String} {items : List ReportItem}
    (named : files.HasNames) (tree : files.IsTree) (writes : request.write = true)
    (absent : request.resultSheet ∉ request.sheets)
    (noLinks : Workbook.NoLinks files workbook)
    (success : (runScan request files workbook time).result = .ok items)
    (noRules : request.filter.respectIgnore = true →
      ∀ location, files.locate request.root = .ok location →
        ∀ file, Corpus.ReadsRules files request.root location file →
          ¬ (runScan request files workbook time).workbook.LeadsToSheet
            (runScan request files workbook time).files request.resultSheet file) :
    ∀ later, Repeats items (runScan request files workbook time)
      (runScan request (runScan request files workbook time).files
        (runScan request files workbook time).workbook later) := by
  intro later
  obtain ⟨table, notices, written, kept, result, stored, reported, outcome⟩ :=
    runScan_eq_of_write writes success
  rw [outcome] at noRules ⊢
  simp only at noRules ⊢
  obtain ⟨differ, again, place⟩ := Workbook.writeSheet_settles named noLinks stored
  obtain ⟨paths, selected, discovered, sheets, distinct, joined, some, rows⟩ :=
    ScanRequest.exists_joined named result
  obtain ⟨still, lookups⟩ : Corpus.discover written request.root request.filter = .ok paths ∧
      ∀ path ∈ paths, written.lookup path = files.lookup path := by
    rcases place with rfl | ⟨folder, place, rfl, rfl, keeps⟩
    · exact ⟨discovered, fun _ _ => rfl⟩
    · exact keeps.corpus_eq named tree noLinks noRules discovered fun path member =>
        joined.located some member
  have targets : ∀ label ∈ selected, kept.loadTargets written label request.layout =
      workbook.loadTargets files label request.layout := fun label member =>
    differ.loadTargets_eq (Workbook.ne_of_selectSheets absent sheets member) request.layout
  have texts : ∀ path ∈ paths, TextFile.read written path = TextFile.read files path := by
    intro path member
    simp only [TextFile.read, FileSystem.read, lookups path member]
  have again' := ScanRequest.table_congr discovered still sheets
    ((differ.selectSheets_eq absent).trans sheets) targets texts result
  refine ScanRequest.repeats_of_table again' writes again (fun row member => ?_) reported
  have inside : row.path ∈ paths := rows ▸ List.mem_map_of_mem member
  simp only [FileSystem.size, lookups row.path inside]

section

attribute [local instance] PatternLibrary.sizeLimited Corpus.UserRules.absent

theorem runScan_repeats_linkedRules :
    ∃ items, (runScan (LinkedRules.scan "report") linkedRules (.directory ⟨"/"⟩) "").result =
        .ok items ∧
      ∀ later, Repeats items
        (runScan (LinkedRules.scan "report") linkedRules (.directory ⟨"/"⟩) "")
        (runScan (LinkedRules.scan "report")
          (runScan (LinkedRules.scan "report") linkedRules (.directory ⟨"/"⟩) "").files
          (runScan (LinkedRules.scan "report") linkedRules (.directory ⟨"/"⟩) "").workbook
          later) := by
  have chosen : "report" ∈ ["report", "result"] := by decide
  obtain ⟨items, notices, -, outcome⟩ := LinkedRules.runScan_eq chosen ""
  have success : (runScan (LinkedRules.scan "report") linkedRules (.directory ⟨"/"⟩) "").result =
      .ok items := congrArg ScanOutcome.result outcome
  refine ⟨items, success, runScan_repeats LinkedRules.hasNames LinkedRules.isTree rfl (by decide)
    LinkedRules.noLinks success fun _ location opened file reads leads => ?_⟩
  rw [outcome] at leads
  obtain ⟨own, place, -, -, located⟩ := leads
  exact LinkedRules.report_apart opened reads place located

/-- Where the result sheet becomes a file of rules, the next scan may find no script any more. -/
theorem runScan_not_repeats_linkedRules :
    ∃ items, (runScan (LinkedRules.scan "result") linkedRules (.directory ⟨"/"⟩) "").result =
        .ok items ∧
      (LinkedRules.scan "result").write = true ∧
      (LinkedRules.scan "result").resultSheet ∉ (LinkedRules.scan "result").sheets ∧
      linkedRules.HasNames ∧ linkedRules.IsTree ∧ Workbook.NoLinks linkedRules (.directory ⟨"/"⟩) ∧
      ∀ later, ¬ Repeats items
        (runScan (LinkedRules.scan "result") linkedRules (.directory ⟨"/"⟩) "")
        (runScan (LinkedRules.scan "result")
          (runScan (LinkedRules.scan "result") linkedRules (.directory ⟨"/"⟩) "").files
          (runScan (LinkedRules.scan "result") linkedRules (.directory ⟨"/"⟩) "").workbook
          later) := by
  have chosen : "result" ∈ ["report", "result"] := by decide
  obtain ⟨items, notices, two, outcome⟩ := LinkedRules.runScan_eq chosen ""
  refine ⟨items, congrArg ScanOutcome.result outcome, rfl, by decide, LinkedRules.hasNames,
    LinkedRules.isTree, LinkedRules.noLinks, fun later repeats => ?_⟩
  rw [outcome] at repeats
  simp only at repeats
  obtain ⟨again, success, same⟩ := repeats.items
  obtain ⟨joined, told, written, kept, result, -, reported, -⟩ := runScan_eq_of_write rfl success
  obtain ⟨paths, selected, more, discovered, sheets, tabulated, some⟩ :=
    ScanRequest.table_eq_ok result
  obtain rfl : [] = paths := Except.ok.inj (LinkedRules.discover_written.symm.trans discovered)
  have empty := ScanRequest.joined_tabulate .nil
    (ScanRequest.joined_empty (LinkedRules.scan "result") (LinkedRules.written "result")
      (.directory ⟨"/"⟩) []) tabulated
  have noRows : joined.rows = [] := by
    have rows : joined.rows.map ScanRow.path = [] := by rw [empty.rows, ite_self]
    exact List.map_eq_nil_iff.mp rows
  have lengths := congrArg List.length same
  simp [reported, noRows, two] at lengths

end

end SqlColumns
