import SqlColumns.Corpus.Discovery
import SqlColumns.Notices
import SqlColumns.Report.Item
import SqlColumns.Scan.Table

/-!
# Scanning a repository

The SQL files of a repository are scanned once for each selected sheet, and the scans are joined in
one table. The report has an item for each file; on request the table is also written into the
workbook, and a last item says so.
-/

set_option autoImplicit false

namespace SqlColumns

/-- What to scan: the root of the repository, the sheets (none for all that list identifiers), and
whether to write the table as the result sheet. -/
structure ScanRequest where
  root : Path
  sheets : List String
  layout : Layout
  resultSheet : String
  filter : Corpus.Filter
  write : Bool
  deriving DecidableEq, Repr

/-- What became of a scan: its report or failure, the files and the workbook afterwards, and what
was told meanwhile. -/
structure ScanOutcome where
  result : Except Failure (List ReportItem)
  files : FileSystem
  workbook : Workbook
  notices : List Notice

namespace ScanRequest

variable [PatternLibrary] [Corpus.UserRules]

/-- Whether the sheets were asked for by name, so that each must have its columns. -/
def explicit (request : ScanRequest) : Bool :=
  !request.sheets.isEmpty

def skipping (label header : String) : Notice :=
  .detail s!"skipping sheet '{label}': no '{header}' column"

def scanning (targets : TargetSet) : List Notice :=
  let label := targets.label
  if targets.identifiers.isEmpty then [.warning s!"sheet '{label}' lists no identifiers"] else []

def scanned (targets : TargetSet) (results : List FileCounts) : List Notice :=
  let label := targets.label
  let listed := targets.identifiers.length
  let matched := (results.filter fun result => 0 < result.counts.total).length
  scanning targets ++ [.detail s!"{label}: {listed} identifiers, {matched} files with matches"]

/-- Joins the scans for the given sheets to a table, in order. -/
def tabulate (request : ScanRequest) (files : FileSystem) (workbook : Workbook)
    (paths : List Path) (table : ScanTable) :
    List String → Except Failure ScanTable × List Notice
  | [] => (.ok table, [])
  | label :: labels =>
      match workbook.loadTargets files label request.layout with
      | .error failure =>
          match failure, request.explicit with
          | .missingHeader _ header, false =>
              let (joined, notices) := tabulate request files workbook paths table labels
              (joined, skipping label header :: notices)
          | _, _ => (.error failure, [])
      | .ok targets =>
          match scanFiles files paths targets with
          | .error failure => (.error failure, scanning targets)
          | .ok results =>
              let (joined, notices) :=
                tabulate request files workbook paths (table.merge label results) labels
              (joined, scanned targets results ++ notices)

def rowItem (request : ScanRequest) (files : FileSystem) (labels : List String) (row : ScanRow) :
    ReportItem :=
  { kind := .scan
    path := some (request.root.display row.path)
    data := some (row.toJson labels)
    metadata := { size := (files.size row.path).toOption } }

def summaryItem (request : ScanRequest) (table : ScanTable) (time : String) : ReportItem :=
  { kind := .sheet
    label := some request.resultSheet
    data := some (.sorted [("rows", .number table.rows.length), ("labels", .strings table.labels)])
    metadata := { changed := true, generatedAt := some time } }

def table (request : ScanRequest) (files : FileSystem) (workbook : Workbook) :
    Except Failure ScanTable × List Notice :=
  match Corpus.discover files request.root request.filter with
  | .error failure => (.error failure, [])
  | .ok paths =>
      match workbook.selectSheets files request.sheets request.resultSheet with
      | .error failure => (.error failure, [])
      | .ok labels =>
          let number := paths.length
          let start := Notice.note s!"Scanning {number} SQL files"
          match request.tabulate files workbook paths .empty labels with
          | (.error failure, notices) => (.error failure, start :: notices)
          | (.ok joined, notices) =>
              if joined.labels.isEmpty then (.error .nothingToScan, start :: notices)
              else if joined.rows.isEmpty then
                let root := request.root.shown
                (.ok joined, start :: notices ++ [.warning s!"no SQL files under {root}"])
              else (.ok joined, start :: notices)

def wrote (request : ScanRequest) (table : ScanTable) : Notice :=
  let number := table.rows.length
  let sheet := request.resultSheet
  .success s!"Wrote {number} rows to sheet '{sheet}'"

end ScanRequest

def runScan [PatternLibrary] [Corpus.UserRules] (request : ScanRequest) (files : FileSystem)
    (workbook : Workbook) (time : String) : ScanOutcome :=
  match request.table files workbook with
  | (.error failure, notices) => ⟨.error failure, files, workbook, notices⟩
  | (.ok table, notices) =>
      let items := table.rows.map (request.rowItem files table.labels)
      if request.write then
        match table.write files workbook request.resultSheet request.root with
        | .error failure => ⟨.error failure, files, workbook, notices⟩
        | .ok (written, kept) =>
            ⟨.ok (items ++ [request.summaryItem table time]), written, kept,
              notices ++ [request.wrote table]⟩
      else ⟨.ok items, files, workbook, notices⟩

end SqlColumns
