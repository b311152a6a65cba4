import SqlColumns.Git.Flow
import SqlColumns.Notices
import SqlColumns.Rename
import SqlColumns.Report.Item
import SqlColumns.Workbook

/-!
# Renaming in a repository

The rows of the selected sheets that are marked as renamings are applied in order. Everything that
they need is looked up before anything is touched. With a push request, git makes a branch ready
before the first file changes, and commits and pushes after the last one, if any did.
-/

set_option autoImplicit false

namespace SqlColumns

/-- What to push: the branch to start from, the branch to create, and the message of the commit. -/
structure PushRequest where
  defaultBranch : String
  branch : String
  message : String
  deriving DecidableEq, Repr

/-- What to rename: the root of the repository, the sheets (none for all with the columns of
renamings), whether files stay as they are, and what to push. -/
structure RenameRequest where
  root : Path
  sheets : List String
  layout : Layout
  resultSheet : String
  dryRun : Bool
  push : Option PushRequest
  deriving DecidableEq, Repr

/-- What became of a renaming: its report or failure, the files afterwards, the calls made, and what
was told meanwhile. -/
structure RenameRun where
  result : Except Failure (List ReportItem)
  files : FileSystem
  calls : List Call
  notices : List Notice

/-- A renaming and the sheet that asks for it. -/
structure LabelledRenaming where
  label : String
  mapping : Renaming
  deriving DecidableEq, Repr

namespace RenameRequest

/-- The ending of a noun of which there are `number`. -/
def plural (number : Nat) : String :=
  if number = 1 then "" else "s"

/-- Whether the sheets were asked for by name, so that each must have its columns. -/
def explicit (request : RenameRequest) : Bool :=
  !request.sheets.isEmpty

/-- The renamings of the given sheets, in order, and what is told of each sheet. -/
def collectFrom (request : RenameRequest) (files : FileSystem) (workbook : Workbook) :
    List String → Except Failure (List LabelledRenaming) × List Notice
  | [] => (.ok [], [])
  | label :: labels =>
      match workbook.loadRenamings files label request.layout request.root with
      | .error failure =>
          match failure, request.explicit with
          | .missingHeader _ header, false =>
              let (collected, notices) := collectFrom request files workbook labels
              (collected, .detail s!"skipping sheet '{label}': no '{header}' column" :: notices)
          | _, _ => (.error failure, [])
      | .ok mappings =>
          let number := mappings.length
          let told := Notice.detail s!"{label}: {number} rename rows"
          match collectFrom request files workbook labels with
          | (.error failure, notices) => (.error failure, told :: notices)
          | (.ok others, notices) =>
              (.ok (mappings.map (fun mapping => ⟨label, mapping⟩) ++ others), told :: notices)

/-- The first renaming whose file is not there, as a failure. -/
def missing? (files : FileSystem) (collected : List LabelledRenaming) : Option Failure :=
  (collected.find? fun one => !files.isFile one.mapping.file).map fun one =>
    .missingFile one.label one.mapping.file

/-- The renamings of a request, all of their files being there. -/
def collect (request : RenameRequest) (files : FileSystem) (workbook : Workbook) :
    Except Failure (List LabelledRenaming) × List Notice :=
  match workbook.selectSheets files request.sheets request.resultSheet with
  | .error failure => (.error failure, [])
  | .ok labels =>
      match request.collectFrom files workbook labels with
      | (.error failure, notices) => (.error failure, notices)
      | (.ok collected, notices) =>
          match missing? files collected with
          | some failure => (.error failure, notices)
          | none => (.ok collected, notices)

/-- Makes the branch ready, where there is one to push. -/
def prepare (request : RenameRequest) (runner : CommandRunner) (files : FileSystem) :
    Except Failure Unit × GitFlow × List Notice :=
  let flow := GitFlow.start request.root
  match request.push with
  | none => (.ok (), flow, [])
  | some push =>
      let branch := push.branch
      let base := push.defaultBranch
      let (result, after) := flow.prepare runner files base branch
      (result, after, [.note s!"Creating branch '{branch}' from '{base}'"])

/-- Commits and pushes what was changed, where that was asked for. -/
def publish (request : RenameRequest) (runner : CommandRunner) (files : FileSystem)
    (flow : GitFlow) (changed : Nat) : Except Failure Unit × GitFlow × List Notice :=
  match request.push with
  | none => (.ok (), flow, [])
  | some push =>
      if changed = 0 then
        (.ok (), flow, [.warning "nothing changed; skipping commit and push"])
      else
        let branch := push.branch
        let (result, after) := flow.publish runner files branch push.message
        (result, after, [.note s!"Pushing '{branch}' to origin"])

def applied (report : RenameReport) (changed : Nat) : List Notice :=
  let replaced := report.totalReplacements
  let pluralReplaced := plural replaced
  let pluralChanged := plural changed
  (if report.dryRun then [.note "Dry run: no files were written"] else []) ++
    [.success s!"{replaced} replacement{pluralReplaced} across {changed} file{pluralChanged}"]

def stepItem (step : GitStep) : ReportItem :=
  { kind := .git
    excerpt := some step.command.line
    data := some (.sorted [("stdout", .string (Text.trimStringEnd step.output.output)),
      ("stderr", .string (Text.trimStringEnd step.output.errors))]) }

def outcomeItem (request : RenameRequest) (label : String) (outcome : RenameOutcome) : ReportItem :=
  let old := outcome.mapping.old
  let new := outcome.mapping.new
  let number := outcome.replacements
  let ending := plural number
  { kind := .rename
    path := some (request.root.display outcome.mapping.file)
    label := some label
    excerpt := some s!"{old} → {new} ({number} replacement{ending})"
    data := some (.sorted [("old", .string old), ("new", .string new),
      ("replacements", .number number), ("dry_run", .bool request.dryRun)])
    metadata := { digest := some outcome.digest, changed := outcome.changed } }

/-- The items of a run: the steps before the renamings, the renamings, and the steps after them. -/
def items (request : RenameRequest) (prepared : Nat) (steps : List GitStep) (labels : List String)
    (outcomes : List RenameOutcome) : List ReportItem :=
  (steps.take prepared).map stepItem ++
    List.zipWith request.outcomeItem labels outcomes ++
    (steps.drop prepared).map stepItem

def apply [PatternLibrary] (request : RenameRequest) (runner : CommandRunner) (files : FileSystem)
    (collected : List LabelledRenaming) : RenameRun :=
  match request.prepare runner files with
  | (.error failure, flow, told) => ⟨.error failure, files, flow.calls, told⟩
  | (.ok _, prepared, told) =>
      match applyRenamings files (collected.map LabelledRenaming.mapping) request.dryRun with
      | (.error failure, after) => ⟨.error failure, after, prepared.calls, told⟩
      | (.ok report, after) =>
          let changed := report.filesChanged after
          let meanwhile := told ++ applied report changed
          match request.publish runner after prepared changed with
          | (.error failure, flow, last) => ⟨.error failure, after, flow.calls, meanwhile ++ last⟩
          | (.ok _, flow, last) =>
              ⟨.ok (request.items prepared.steps.length flow.steps
                (collected.map LabelledRenaming.label) report.outcomes), after, flow.calls,
                meanwhile ++ last⟩

end RenameRequest

def runRename [PatternLibrary] (request : RenameRequest) (runner : CommandRunner)
    (files : FileSystem) (workbook : Workbook) : RenameRun :=
  if request.dryRun && request.push.isSome then ⟨.error .pushWithDryRun, files, [], []⟩
  else
    match request.collect files workbook with
    | (.error failure, notices) => ⟨.error failure, files, [], notices⟩
    | (.ok collected, notices) =>
        let warned := if collected.isEmpty then [.warning "no rename rows found"] else []
        let run := request.apply runner files collected
        { run with notices := notices ++ warned ++ run.notices }

end SqlColumns
