import SqlColumns.Json.Printer
import SqlColumns.Report.Item
import SqlColumns.Text.Case

/-!
# Renderings of reports

A report is rendered as lines of JSON, as one JSON array or as Markdown. Nothing is lost in the
two JSON forms. Markdown groups the items by kind and shows what a reader looks for in each.
-/

set_option autoImplicit false

namespace SqlColumns

namespace Report

/-- The form of a rendering. -/
inductive Format where
  | jsonl
  | json
  | markdown
  deriving DecidableEq, Repr

def Format.ofName? (name : String) : Option Format :=
  let lowered := Text.lowerString name
  if lowered = "jsonl" then some .jsonl
  else if lowered = "json" then some .json
  else if lowered = "md" ∨ lowered = "markdown" then some .markdown
  else none

def unknownFormat (name : String) : String :=
  s!"Unknown format: {name}"

def jsonText (isPretty : Bool) (value : Json) : String :=
  if isPretty then value.pretty else value.compact

def renderLines (isPretty : Bool) (items : List ReportItem) : String :=
  (if isPretty then "\n\n" else "\n").intercalate
    (items.map fun item => jsonText isPretty item.toJson)

def renderArray (isPretty : Bool) (items : List ReportItem) : String :=
  jsonText isPretty (.array (items.map ReportItem.toJson))

/-- A section with its lines, or nothing where no item belongs to it. -/
def titled (title : String) (items : List ReportItem) (lines : ReportItem → String) : String :=
  if items.isEmpty then ""
  else "## " ++ title ++ "\n\n" ++ String.join (items.map lines) ++ "\n"

def issueLines (item : ReportItem) : String :=
  String.join (item.issues.map fun issue => s!"- **{issue.code}**: {issue.message}\n")

def sheetLine (item : ReportItem) : String :=
  match item.label with
  | some label => s!"- `{label}`\n"
  | none => ""

/-- The counts of one label: each identifier with its number, `none` for no identifier, and a
dash for a file that the label does not cover. -/
def countsText : Json → String
  | .object [] => "none"
  | .object counts =>
      ", ".intercalate (counts.map fun one => s!"{one.1} ×{one.2.compact}")
  | _ => "-"

def labelLines : Option Json → String
  | some (.object (label :: labels)) =>
      String.join ((label :: labels).map fun one => s!"- **{one.1}**: {countsText one.2}\n")
  | _ => "- none\n"

def scanPart (item : ReportItem) : String :=
  match item.path with
  | some path => s!"### `{path}`\n\n" ++ labelLines item.data ++ "\n"
  | none => ""

def scanSection (items : List ReportItem) : String :=
  if items.isEmpty then "" else "## Column Occurrences\n\n" ++ String.join (items.map scanPart)

def renameLine (item : ReportItem) : String :=
  let path := item.path.getD "?"
  let excerpt := item.excerpt.getD ""
  let marker := if item.metadata.changed then "" else " (unchanged)"
  s!"- `{path}`: {excerpt}{marker}\n"

def stepLine (item : ReportItem) : String :=
  match item.excerpt with
  | some excerpt => s!"- {excerpt}\n"
  | none => ""

def renderMarkdown (items : List ReportItem) : String :=
  let ofKinds (kinds : List Kind) := items.filter fun item => kinds.contains item.kind
  titled "Errors" (ofKinds [.error]) issueLines ++
    titled "Sheets" (ofKinds [.sheet]) sheetLine ++
    scanSection (ofKinds [.scan]) ++
    titled "Renames" (ofKinds [.rename]) renameLine ++
    titled "Steps" (ofKinds [.git, .check]) stepLine

def render (format : Format) (isPretty : Bool) (items : List ReportItem) : String :=
  match format with
  | .jsonl => renderLines isPretty items
  | .json => renderArray isPretty items
  | .markdown => renderMarkdown items

def printed (format : Format) (isPretty : Bool) (items : List ReportItem) : String :=
  render format isPretty items ++ "\n"

end Report

end SqlColumns
