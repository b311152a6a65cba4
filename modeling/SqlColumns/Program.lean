import SqlColumns.CommandLine.Basic
import SqlColumns.Report.Dependency
import SqlColumns.Report.Render
import SqlColumns.Task.Listing
import SqlColumns.Task.Rename
import SqlColumns.Task.Scan

/-!
# Running an invocation

An invocation prints one report: the items of its command, or a single item for what went wrong.
Only a format that is not known prints nothing. The exit code is one exactly when something went
wrong.
-/

set_option autoImplicit false

namespace SqlColumns

/-- What a program finds where it runs: who runs commands, which programs there are, and the
time. -/
structure Machine where
  runner : CommandRunner
  offers : String → Bool
  time : String

/-- Why a command fails: a failure of one of its parts, a root that is no directory, or a push
that lacks a branch or the message. -/
inductive Trouble where
  | within (context : String) (failure : Failure)
  | noRoot (root : Path)
  | incompletePush
  deriving DecidableEq, Repr

namespace Trouble

/-- The code of a trouble: that of the failure in it, if there is one. -/
def code : Trouble → String
  | .within _ failure => failure.code
  | .noRoot _ | .incompletePush => "FAILED"

def message : Trouble → String
  | .within context failure => context ++ ": " ++ failure.chain
  | .noRoot root => "repository root " ++ root.shown ++ " does not exist or is not a directory"
  | .incompletePush => "--push requires --default-branch, --branch and --message"

def item (trouble : Trouble) : ReportItem :=
  { kind := .error, issues := [⟨trouble.code, trouble.message⟩] }

end Trouble

/-- What a command did: its items or its trouble, the files afterwards, the calls made, and what was
told meanwhile. -/
structure Performance where
  result : Except Trouble (List ReportItem)
  files : FileSystem
  calls : List Call
  notices : List Notice

namespace Performance

variable [PatternLibrary] [Corpus.UserRules]

def stopped (files : FileSystem) (trouble : Trouble) : Performance :=
  ⟨.error trouble, files, [], []⟩

/-- A result whose failure is one of the named part of a command. -/
def inContext {α : Type} (context : String) : Except Failure α → Except Trouble α
  | .ok value => .ok value
  | .error failure => .error (.within context failure)

def openWorkbook (files : FileSystem) (path : Path) : Except Trouble Workbook :=
  inContext ("cannot open workbook " ++ path.shown) (Workbook.ofDirectory files path)

def sheets (files : FileSystem) (path : Path) : Performance :=
  match openWorkbook files path with
  | .error trouble => stopped files trouble
  | .ok workbook => ⟨inContext "cannot list sheets" (listSheets files workbook), files, [], []⟩

def scan (machine : Machine) (files : FileSystem) (root : Path)
    (options : CommandLine.ScanOptions) : Performance :=
  if files.isDirectory root then
    match openWorkbook files options.book.workbook with
    | .error trouble => stopped files trouble
    | .ok workbook =>
        let request : ScanRequest :=
          { root := root
            sheets := options.book.sheets
            layout := options.layout
            resultSheet := options.book.resultSheet
            filter := ⟨options.skipHidden, options.respectIgnore⟩
            write := !options.noWrite }
        let outcome := runScan request files workbook machine.time
        ⟨inContext "scan failed" outcome.result, outcome.files, [], outcome.notices⟩
  else stopped files (.noRoot root)

def pushRequest (options : CommandLine.RenameOptions) : Except Trouble (Option PushRequest) :=
  if options.push then
    match options.defaultBranch, options.branch, options.message with
    | some defaultBranch, some branch, some message => .ok (some ⟨defaultBranch, branch, message⟩)
    | _, _, _ => .error .incompletePush
  else .ok none

def rename (machine : Machine) (files : FileSystem) (root : Path)
    (options : CommandLine.RenameOptions) : Performance :=
  if files.isDirectory root then
    match openWorkbook files options.book.workbook with
    | .error trouble => stopped files trouble
    | .ok workbook =>
        match pushRequest options with
        | .error trouble => stopped files trouble
        | .ok push =>
            let request : RenameRequest :=
              { root := root
                sheets := options.book.sheets
                layout := options.layout
                resultSheet := options.book.resultSheet
                dryRun := options.dryRun
                push := push }
            let run := runRename request machine.runner files workbook
            ⟨inContext "rename failed" run.result, run.files, run.calls, run.notices⟩
  else stopped files (.noRoot root)

/-- Checks that the programs that commands rely on are there. -/
def doctor (machine : Machine) (files : FileSystem) : Performance :=
  let items := [(Dependency.git (machine.offers "git")).item]
  let missing := items.any fun item => !item.issues.isEmpty
  ⟨.ok items, files, [], if missing then [.warning "Some dependencies are missing"] else []⟩

def perform (machine : Machine) (files : FileSystem) (root : Path) :
    CommandLine.Action → Performance
  | .sheets workbook => sheets files workbook
  | .scan options => scan machine files root options
  | .rename options => rename machine files root options
  | .doctor => doctor machine files

end Performance

/-- What an invocation leaves behind: the message of its failure, if it failed, what it printed,
what it told, whether there are still colours, the files, and the calls made. -/
structure Execution where
  failure : Option String
  output : String
  told : String
  coloured : Bool
  files : FileSystem
  calls : List Call

namespace Execution

def exitCode (execution : Execution) : Nat :=
  if execution.failure.isSome then 1 else 0

end Execution

namespace Invocation

/-- The root of an invocation, free of links and dots where it exists. -/
def absoluteRoot (invocation : Invocation) (files : FileSystem) : Path :=
  (files.canonical? invocation.root).getD invocation.root

/-- Runs an invocation; `coloured` says whether notices may have colours. -/
def run [PatternLibrary] [Corpus.UserRules] (invocation : Invocation) (machine : Machine)
    (files : FileSystem) (coloured : Bool) : Execution :=
  match Report.Format.ofName? invocation.format with
  | none =>
      { failure := some (Report.unknownFormat invocation.format)
        output := ""
        told := ""
        coloured := coloured
        files := files
        calls := [] }
  | some format =>
      let shown := coloured && !invocation.noColour
      let root := invocation.absoluteRoot files
      let done := Performance.perform machine files root invocation.action
      let items :=
        match done.result with
        | .ok items => items
        | .error trouble => [trouble.item]
      { failure :=
          match done.result with
          | .ok _ => none
          | .error trouble => some trouble.message
        output := Report.printed format invocation.pretty items
        told := Notice.tell ⟨invocation.quiet, invocation.verbose⟩ shown done.notices
        coloured := shown
        files := done.files
        calls := done.calls }

end Invocation

end SqlColumns
