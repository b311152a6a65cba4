import SqlColumns.Proofs.Program.Footprint

/-!
# What an invocation prints

An invocation prints either the items of its command, none of which is an error, or a single error item
for what stopped the command. Which of both it is shows in the exit code. Only a format that is not
known prints nothing.
-/

set_option autoImplicit false

namespace SqlColumns

/-!
## Kinds of items
-/

theorem Listing.kind_of_items {files : FileSystem} {workbook : Workbook} {names : List String}
    {listed : List ReportItem} (success : items files workbook names = .ok listed) :
    ∀ item ∈ listed, item.kind = .sheet := by
  induction names generalizing listed with
  | nil =>
      cases success
      intro item member
      cases member
  | cons name rest ih =>
      unfold items at success
      split at success
      · cases success
      · split at success
        · cases success
        · next others behind =>
            cases success
            exact List.forall_mem_cons.mpr ⟨rfl, ih behind⟩

theorem kind_of_listSheets {files : FileSystem} {workbook : Workbook} {items : List ReportItem}
    (success : listSheets files workbook = .ok items) : ∀ item ∈ items, item.kind = .sheet := by
  unfold listSheets at success
  split at success
  · cases success
  · exact Listing.kind_of_items success

theorem kind_of_runScan [PatternLibrary] [Corpus.UserRules] {request : ScanRequest}
    {files : FileSystem} {workbook : Workbook} {time : String} {items : List ReportItem}
    (success : (runScan request files workbook time).result = .ok items) :
    ∀ item ∈ items, item.kind = .scan ∨ item.kind = .sheet := by
  unfold runScan at success
  split at success
  · cases success
  · next table notices joined =>
      have rows : ∀ item ∈ table.rows.map (request.rowItem files table.labels),
          item.kind = .scan ∨ item.kind = .sheet := by
        intro item member
        obtain ⟨row, -, rfl⟩ := List.mem_map.mp member
        exact .inl rfl
      simp only at success
      split at success
      · split at success
        · cases success
        · cases success
          refine List.forall_mem_append.mpr ⟨rows, ?_⟩
          exact List.forall_mem_singleton.mpr (.inr rfl)
      · cases success
        exact rows

theorem RenameRequest.kind_of_items (request : RenameRequest) (prepared : Nat) (steps : List GitStep)
    (labels : List String) (outcomes : List RenameOutcome) :
    ∀ item ∈ request.items prepared steps labels outcomes,
      item.kind = .git ∨ item.kind = .rename := by
  have git : ∀ some : List GitStep, ∀ item ∈ some.map stepItem,
      item.kind = .git ∨ item.kind = .rename := by
    intro some item member
    obtain ⟨step, -, rfl⟩ := List.mem_map.mp member
    exact .inl rfl
  refine List.forall_mem_append.mpr ⟨List.forall_mem_append.mpr ⟨git _, ?_⟩, git _⟩
  intro item member
  rw [← List.map_uncurry_zip_eq_zipWith] at member
  obtain ⟨pair, -, rfl⟩ := List.mem_map.mp member
  exact .inr rfl

theorem kind_of_runRename [PatternLibrary] {request : RenameRequest} {runner : CommandRunner}
    {files : FileSystem} {workbook : Workbook} {items : List ReportItem}
    (success : (runRename request runner files workbook).result = .ok items) :
    ∀ item ∈ items, item.kind = .git ∨ item.kind = .rename := by
  unfold runRename at success
  split at success
  · cases success
  · split at success
    · cases success
    · simp only [RenameRequest.apply] at success
      split at success
      · cases success
      · split at success
        · cases success
        · split at success
          · cases success
          · cases success
            exact RenameRequest.kind_of_items request _ _ _ _

/-!
## What stops a command
-/

def CommandLine.ScanOptions.request (options : ScanOptions) (root : Path) : ScanRequest :=
  { root := root
    sheets := options.book.sheets
    layout := options.layout
    resultSheet := options.book.resultSheet
    filter := ⟨options.skipHidden, options.respectIgnore⟩
    write := !options.noWrite }

namespace CommandLine.Action

def book? : Action → Option Path
  | .sheets path => some path
  | .scan options => some options.book.workbook
  | .rename options => some options.book.workbook
  | .doctor => none

/-- Commands that work on a repository, which must be there before anything else is looked at. -/
def OnRepository : Action → Prop
  | .scan _ | .rename _ => True
  | .sheets _ | .doctor => False

def kinds : Action → List Report.Kind
  | .sheets _ => [.sheet]
  | .scan _ => [.scan, .sheet]
  | .rename _ => [.git, .rename]
  | .doctor => [.check]

end CommandLine.Action

namespace Trouble

def failure? : Trouble → Option Failure
  | .within _ failure => some failure
  | .noRoot _ | .incompletePush => none

def links : Trouble → List String
  | .within context failure => context :: failure.message :: failure.causes
  | .noRoot root => ["repository root " ++ root.shown ++ " does not exist or is not a directory"]
  | .incompletePush => ["--push requires --default-branch, --branch and --message"]

/-- Whatever contexts are put around a failure, its code is the one that is reported. -/
theorem code_eq (trouble : Trouble) :
    trouble.code = (trouble.failure?.map Failure.code).getD "FAILED" := by
  cases trouble <;> rfl

theorem message_eq (trouble : Trouble) : trouble.message = ": ".intercalate trouble.links := by
  cases trouble with
  | within context failure => exact String.intercalate_cons_cons.symm
  | noRoot root => exact String.intercalate_singleton.symm
  | incompletePush => exact String.intercalate_singleton.symm

end Trouble

/-- What stops a command: a directory that is not there, options that lack something, or the failure of
one of its parts, told apart by the context that it is reported in. -/
inductive Stops [PatternLibrary] [Corpus.UserRules] (machine : Machine) (files : FileSystem)
    (root : Path) : CommandLine.Action → Trouble → Prop where
  | noRoot {action : CommandLine.Action} :
      action.OnRepository → files.isDirectory root = false →
      Stops machine files root action (.noRoot root)
  | unopened {action : CommandLine.Action} {path : Path} {failure : Failure} :
      (action.OnRepository → files.isDirectory root = true) →
      action.book? = some path → Workbook.ofDirectory files path = .error failure →
      Stops machine files root action (.within ("cannot open workbook " ++ path.shown) failure)
  | unlisted {path : Path} {workbook : Workbook} {failure : Failure} :
      Workbook.ofDirectory files path = .ok workbook →
      listSheets files workbook = .error failure →
      Stops machine files root (.sheets path) (.within "cannot list sheets" failure)
  | unscanned {options : CommandLine.ScanOptions} {workbook : Workbook} {failure : Failure} :
      files.isDirectory root = true →
      Workbook.ofDirectory files options.book.workbook = .ok workbook →
      (runScan (options.request root) files workbook machine.time).result = .error failure →
      Stops machine files root (.scan options) (.within "scan failed" failure)
  | incompletePush {options : CommandLine.RenameOptions} {workbook : Workbook} :
      files.isDirectory root = true →
      Workbook.ofDirectory files options.book.workbook = .ok workbook →
      options.push = true →
      options.defaultBranch = none ∨ options.branch = none ∨ options.message = none →
      Stops machine files root (.rename options) .incompletePush
  | unrenamed {options : CommandLine.RenameOptions} {workbook : Workbook}
      {push : Option PushRequest} {failure : Failure} :
      files.isDirectory root = true →
      Workbook.ofDirectory files options.book.workbook = .ok workbook →
      Performance.pushRequest options = .ok push →
      (runRename (options.request root push) machine.runner files workbook).result =
        .error failure →
      Stops machine files root (.rename options) (.within "rename failed" failure)

namespace Performance

variable {machine : Machine} {files : FileSystem} {root : Path} {action : CommandLine.Action}
  {trouble : Trouble} {context : String}

theorem inContext_eq_error_iff {α : Type} {result : Except Failure α} :
    inContext context result = .error trouble ↔
      ∃ failure, result = .error failure ∧ trouble = .within context failure := by
  cases result <;> simp [inContext, eq_comm]

theorem inContext_eq_ok_iff {α : Type} {result : Except Failure α} {value : α} :
    inContext context result = .ok value ↔ result = .ok value := by
  cases result <;> simp [inContext]

theorem pushRequest_eq_error_iff {options : CommandLine.RenameOptions} :
    pushRequest options = .error trouble ↔ trouble = .incompletePush ∧ options.push = true ∧
      (options.defaultBranch = none ∨ options.branch = none ∨ options.message = none) := by
  unfold pushRequest
  cases pushes : options.push with
  | false => simp
  | true =>
      cases options.defaultBranch <;> cases options.branch <;> cases options.message <;>
        simp [eq_comm]

/-- A command that works on a workbook stops at once or does its part with the workbook opened. -/
theorem stops_of_result_error [PatternLibrary] [Corpus.UserRules]
    (failed : (perform machine files root action).result = .error trouble) :
    Stops machine files root action trouble := by
  cases action with
  | sheets path =>
      simp only [perform, sheets] at failed
      split at failed
      · next cause unopened =>
          cases failed
          obtain ⟨failure, refused, rfl⟩ := inContext_eq_error_iff.mp unopened
          exact .unopened nofun rfl refused
      · next workbook opened =>
          obtain ⟨failure, unlisted, rfl⟩ := inContext_eq_error_iff.mp failed
          exact .unlisted (inContext_eq_ok_iff.mp opened) unlisted
  | scan options =>
      simp only [perform, scan] at failed
      split at failed
      · next there =>
          split at failed
          · next cause unopened =>
              cases failed
              obtain ⟨failure, refused, rfl⟩ := inContext_eq_error_iff.mp unopened
              exact .unopened (fun _ => there) rfl refused
          · next workbook opened =>
              obtain ⟨failure, unscanned, rfl⟩ := inContext_eq_error_iff.mp failed
              exact .unscanned there (inContext_eq_ok_iff.mp opened) unscanned
      · next missing =>
          cases failed
          exact .noRoot trivial (by simpa using missing)
  | rename options =>
      simp only [perform, rename] at failed
      split at failed
      · next there =>
          split at failed
          · next cause unopened =>
              cases failed
              obtain ⟨failure, refused, rfl⟩ := inContext_eq_error_iff.mp unopened
              exact .unopened (fun _ => there) rfl refused
          · next workbook opened =>
              split at failed
              · next cause incomplete =>
                  cases failed
                  obtain ⟨rfl, pushes, lacks⟩ := pushRequest_eq_error_iff.mp incomplete
                  exact .incompletePush there (inContext_eq_ok_iff.mp opened) pushes lacks
              · next push asked =>
                  obtain ⟨failure, unrenamed, rfl⟩ := inContext_eq_error_iff.mp failed
                  exact .unrenamed there (inContext_eq_ok_iff.mp opened) asked unrenamed
      · next missing =>
          cases failed
          exact .noRoot trivial (by simpa using missing)
  | doctor => cases failed

theorem openWorkbook_error {path : Path} {failure : Failure}
    (refused : Workbook.ofDirectory files path = .error failure) :
    openWorkbook files path = .error (.within ("cannot open workbook " ++ path.shown) failure) :=
  inContext_eq_error_iff.mpr ⟨failure, refused, rfl⟩

theorem result_error_of_stops [PatternLibrary] [Corpus.UserRules]
    (stops : Stops machine files root action trouble) :
    (perform machine files root action).result = .error trouble := by
  cases stops with
  | noRoot repository missing =>
      cases action with
      | scan options => simp only [perform, scan, missing]; rfl
      | rename options => simp only [perform, rename, missing]; rfl
      | sheets path => cases repository
      | doctor => cases repository
  | @unopened _ path failure there book refused =>
      have unopened := openWorkbook_error refused
      cases action with
      | sheets other =>
          cases book
          simp only [perform, sheets, unopened]
          rfl
      | scan options =>
          cases book
          simp only [perform, scan, there trivial, if_true, unopened]
          rfl
      | rename options =>
          cases book
          simp only [perform, rename, there trivial, if_true, unopened]
          rfl
      | doctor => cases book
  | unlisted opened unlisted =>
      simp only [perform, sheets, openWorkbook, opened, inContext, unlisted]
  | unscanned there opened unscanned =>
      simp only [perform, scan, there, if_true, openWorkbook, opened, inContext]
      exact inContext_eq_error_iff.mpr ⟨_, unscanned, rfl⟩
  | incompletePush there opened pushes lacks =>
      have incomplete := pushRequest_eq_error_iff.mpr ⟨rfl, pushes, lacks⟩
      simp only [perform, rename, there, if_true, openWorkbook, opened, inContext, incomplete]
      rfl
  | unrenamed there opened asked unrenamed =>
      simp only [perform, rename, there, if_true, openWorkbook, opened, inContext, asked]
      exact inContext_eq_error_iff.mpr ⟨_, unrenamed, rfl⟩

/-- A command fails for what stops it and for nothing else. -/
theorem result_eq_error_iff [PatternLibrary] [Corpus.UserRules] :
    (perform machine files root action).result = .error trouble ↔
      Stops machine files root action trouble :=
  ⟨stops_of_result_error, result_error_of_stops⟩

theorem kind_of_result [PatternLibrary] [Corpus.UserRules] {items : List ReportItem}
    (success : (perform machine files root action).result = .ok items) :
    ∀ item ∈ items, item.kind ∈ action.kinds := by
  cases action with
  | sheets path =>
      simp only [perform, sheets] at success
      split at success
      · cases success
      · intro item member
        have kind := kind_of_listSheets (inContext_eq_ok_iff.mp success) item member
        simp [CommandLine.Action.kinds, kind]
  | scan options =>
      simp only [perform, scan] at success
      split at success
      · split at success
        · cases success
        · intro item member
          have kind := kind_of_runScan (inContext_eq_ok_iff.mp success) item member
          simpa [CommandLine.Action.kinds] using kind
      · cases success
  | rename options =>
      rcases rename_cases machine files root options with ⟨trouble, same⟩ | ⟨push, same⟩
      · rw [perform, same] at success
        cases success
      · rw [perform, same] at success
        intro item member
        have kind := kind_of_runRename (inContext_eq_ok_iff.mp success) item member
        simpa [CommandLine.Action.kinds] using kind
  | doctor =>
      cases success
      simp [Dependency.item, CommandLine.Action.kinds]

end Performance

namespace Invocation

variable [PatternLibrary] [Corpus.UserRules] {invocation : Invocation} {machine : Machine}
  {files : FileSystem}

/-- The command went through, and its items are printed, none of which is an error. -/
structure Reports (invocation : Invocation) (machine : Machine) (files : FileSystem)
    (format : Report.Format) (done : Execution) : Prop where
  exitCode : done.exitCode = 0
  printed : ∃ items, (Performance.perform machine files (invocation.absoluteRoot files)
      invocation.action).result = .ok items ∧
    done.output = Report.render format invocation.pretty items ++ "\n" ∧
    ∀ item ∈ items, item.kind ∈ invocation.action.kinds ∧ item.kind ≠ .error

/-- The command was stopped, and all that is printed is one item with one issue: the code of the failure
that stopped it, and the messages from the outside to the innermost cause. -/
structure Complains (invocation : Invocation) (machine : Machine) (files : FileSystem)
    (format : Report.Format) (done : Execution) : Prop where
  exitCode : done.exitCode = 1
  printed : ∃ trouble,
    Stops machine files (invocation.absoluteRoot files) invocation.action trouble ∧
      done.output = Report.render format invocation.pretty
        [{ kind := .error
           issues := [⟨(trouble.failure?.map Failure.code).getD "FAILED",
            ": ".intercalate trouble.links⟩] }] ++ "\n"

omit [PatternLibrary] [Corpus.UserRules] in
theorem kind_ne_error {action : CommandLine.Action} {kind : Report.Kind}
    (own : kind ∈ action.kinds) : kind ≠ .error := by
  rintro rfl
  cases action <;> simp [CommandLine.Action.kinds] at own

/-- An invocation reports all of its items or complains of what stopped it, and prints nothing at all
only when its format is not known. It complains whenever something stops it, which is whenever a part of
its command fails. -/
theorem run_output (invocation : Invocation) (machine : Machine) (files : FileSystem)
    (coloured : Bool) :
    let done := invocation.run machine files coloured
    match Report.Format.ofName? invocation.format with
    | none => done.exitCode = 1 ∧ done.output = ""
    | some format => done.output ≠ "" ∧
        (invocation.Reports machine files format done ∨
          invocation.Complains machine files format done) ∧
        ∀ trouble,
          (Stops machine files (invocation.absoluteRoot files) invocation.action trouble ↔
            (Performance.perform machine files (invocation.absoluteRoot files)
              invocation.action).result = .error trouble) ∧
          (Stops machine files (invocation.absoluteRoot files) invocation.action trouble →
            invocation.Complains machine files format done) := by
  cases known : Report.Format.ofName? invocation.format with
  | none =>
      simp only [run, known]
      exact ⟨rfl, trivial⟩
  | some format =>
      have complains : ∀ trouble, (Performance.perform machine files (invocation.absoluteRoot files)
          invocation.action).result = .error trouble →
          invocation.Complains machine files format (invocation.run machine files coloured) := by
        intro trouble performed
        refine ⟨?_, trouble, Performance.result_eq_error_iff.mp performed, ?_⟩
        · simp only [run, known, performed]
          rfl
        · simp only [run, known, performed, ← trouble.code_eq, ← trouble.message_eq]
          rfl
      refine ⟨?_, ?_, fun trouble => ⟨Performance.result_eq_error_iff.symm, fun stops =>
        complains trouble (Performance.result_eq_error_iff.mpr stops)⟩⟩
      · simp [run, known, Report.printed]
      · cases performed : (Performance.perform machine files (invocation.absoluteRoot files)
          invocation.action).result with
        | ok items =>
            refine .inl ⟨?_, items, performed, ?_, fun item member => ?_⟩
            · simp only [run, known, performed]
              rfl
            · simp only [run, known, performed]
              rfl
            · have own := Performance.kind_of_result performed item member
              exact ⟨own, kind_ne_error own⟩
        | error trouble => exact .inr (complains trouble performed)

end Invocation

end SqlColumns
