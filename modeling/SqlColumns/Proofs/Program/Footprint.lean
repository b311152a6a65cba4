import SqlColumns.Program
import SqlColumns.Proofs.Task.Footprint

/-!
# What an invocation changes

An invocation that is only to look changes no file. A scan that writes its table changes the file of
the result sheet and nothing when it fails, and a renaming changes the files that the marked rows of
its sheets name and nothing when the sheets cannot be loaded.
-/

set_option autoImplicit false

namespace SqlColumns

open FileSystem

def CommandLine.RenameOptions.request (options : RenameOptions) (root : Path)
    (push : Option PushRequest) : RenameRequest :=
  { root := root
    sheets := options.book.sheets
    layout := options.layout
    resultSheet := options.book.resultSheet
    dryRun := options.dryRun
    push := push }

def CommandLine.Action.OnlyLooks : Action → Prop
  | .sheets _ | .doctor => True
  | .scan options => options.noWrite = true
  | .rename options => options.dryRun = true

namespace Performance

variable [PatternLibrary] [Corpus.UserRules] {files : FileSystem} {path : Path} {workbook : Workbook}

omit [PatternLibrary] [Corpus.UserRules] in
theorem directory_of_openWorkbook (opened : openWorkbook files path = .ok workbook) :
    workbook = .directory path := by
  unfold openWorkbook Workbook.ofDirectory at opened
  split at opened <;> cases opened
  rfl

omit [PatternLibrary] [Corpus.UserRules] in
theorem sheets_files (files : FileSystem) (path : Path) : (sheets files path).files = files := by
  unfold sheets
  split <;> rfl

/-- A scan leaves all files as they are, or it succeeds and puts the file of its result sheet. -/
theorem scan_files (machine : Machine) (files : FileSystem) (root : Path)
    (options : CommandLine.ScanOptions) :
    let done := scan machine files root options
    done.files = files ∨
      options.noWrite = false ∧ (∃ items, done.result = .ok items) ∧
        ∃ path location content,
          Workbook.IsSheetPath files options.book.workbook options.book.resultSheet path ∧
            files.Receives path location ∧ done.files = files.set location (.file content) := by
  unfold scan
  split
  · split
    · exact .inl rfl
    · next workbook opened =>
        obtain rfl := directory_of_openWorkbook opened
        simp only
        rcases runScan_files _ files options.book.workbook machine.time with
          same | ⟨writes, ⟨items, success⟩, path, location, content, named, receives, set⟩
        · exact .inl same
        · refine .inr ⟨by simpa using writes, ⟨items, ?_⟩, path, location, content, named, receives,
            set⟩
          rw [success]
          rfl
  · exact .inl rfl

omit [Corpus.UserRules] in
/-- What a renaming does is refused at once, or done by one of the requests that its options make. -/
theorem rename_cases (machine : Machine) (files : FileSystem) (root : Path)
    (options : CommandLine.RenameOptions) :
    (∃ trouble, rename machine files root options = stopped files trouble) ∨
      ∃ push,
        let run := runRename (options.request root push) machine.runner files
          (.directory options.book.workbook)
        rename machine files root options =
          ⟨inContext "rename failed" run.result, run.files, run.calls, run.notices⟩ := by
  unfold rename
  split
  · split
    · exact .inl ⟨_, rfl⟩
    · next workbook opened =>
        obtain rfl := directory_of_openWorkbook opened
        split
        · exact .inl ⟨_, rfl⟩
        · next push asked => exact .inr ⟨push, rfl⟩
  · exact .inl ⟨_, rfl⟩

omit [Corpus.UserRules] in
theorem rename_files (machine : Machine) (files : FileSystem) (root : Path)
    (options : CommandLine.RenameOptions) :
    let done := rename machine files root options
    let request := options.request root none
    DifferOnlyAt (request.Places files (.directory options.book.workbook)) files done.files ∧
      (options.dryRun = true → done.files = files) ∧
      (request.Unloadable files (.directory options.book.workbook) →
        (∃ trouble, done.result = .error trouble) ∧ done.files = files ∧ done.calls = []) := by
  simp only
  rcases rename_cases machine files root options with ⟨trouble, same⟩ | ⟨push, same⟩
  · rw [same]
    exact ⟨differOnlyAt_refl _ files, fun _ => rfl, fun _ => ⟨⟨trouble, rfl⟩, rfl, rfl⟩⟩
  · rw [same]
    refine ⟨runRename_differOnlyAt (options.request root push) machine.runner files _,
      fun dry => runRename_dry_files dry machine.runner files _, fun unloadable => ?_⟩
    obtain ⟨⟨failure, failed⟩, kept, silent⟩ :=
      runRename_of_unloadable (unloadable.withPush push) machine.runner
    exact ⟨⟨.within "rename failed" failure, congrArg (inContext "rename failed") failed⟩, kept,
      silent⟩

theorem perform_files_of_onlyLooks (machine : Machine) (files : FileSystem) (root : Path)
    {action : CommandLine.Action} (looks : action.OnlyLooks) :
    (perform machine files root action).files = files := by
  cases action with
  | sheets path => exact sheets_files files path
  | doctor => rfl
  | scan options =>
      rcases scan_files machine files root options with same | ⟨writes, -⟩
      · exact same
      · exact absurd looks (by simp [CommandLine.Action.OnlyLooks, writes])
  | rename options => exact (rename_files machine files root options).2.1 looks

end Performance

namespace Invocation

variable [PatternLibrary] [Corpus.UserRules] {invocation : Invocation} {machine : Machine}
  {files : FileSystem} {coloured : Bool}

/-- What an invocation changes, by what it is asked for. -/
structure Footprint (invocation : Invocation) (files : FileSystem) (done : Execution) : Prop where
  unknown : Report.Format.ofName? invocation.format = none → done.files = files
  looks : invocation.action.OnlyLooks → done.files = files
  /-- A scan puts at most one file, and none when it fails. -/
  scans : ∀ options, invocation.action = .scan options → done.files = files ∨
    done.failure = none ∧ ∃ path location content,
      Workbook.IsSheetPath files options.book.workbook options.book.resultSheet path ∧
        files.Receives path location ∧ done.files = files.set location (.file content)
  renames : ∀ options, invocation.action = .rename options →
    let request := options.request (invocation.absoluteRoot files) none
    DifferOnlyAt (request.Places files (.directory options.book.workbook)) files done.files
  /-- A renaming whose sheets cannot be loaded fails before anything is touched. -/
  refuses : ∀ options, invocation.action = .rename options →
    let request := options.request (invocation.absoluteRoot files) none
    request.Unloadable files (.directory options.book.workbook) →
      done.failure ≠ none ∧ done.files = files ∧ done.calls = []

/-- An invocation leaves behind what its command leaves behind, if its format is known. -/
theorem run_eq_perform {format : Report.Format} (machine : Machine) (files : FileSystem)
    (coloured : Bool) (known : Report.Format.ofName? invocation.format = some format) :
    let run := invocation.run machine files coloured
    let done := Performance.perform machine files (invocation.absoluteRoot files) invocation.action
    run.files = done.files ∧ run.calls = done.calls ∧
      (run.failure = none ↔ ∃ items, done.result = .ok items) := by
  simp only [run, known]
  refine ⟨trivial, trivial, ?_⟩
  cases (Performance.perform machine files (invocation.absoluteRoot files) invocation.action).result
  <;> simp

theorem footprint_of_unknown (machine : Machine) (files : FileSystem) (coloured : Bool)
    (unknown : Report.Format.ofName? invocation.format = none) :
    invocation.Footprint files (invocation.run machine files coloured) := by
  simp only [run, unknown]
  refine ⟨fun _ => rfl, fun _ => rfl, fun _ _ => .inl rfl, fun _ _ => differOnlyAt_refl _ files,
    fun _ _ _ => ?_⟩
  simp

/-- Whatever the command line, the files, the machine and the answers of git are, an invocation keeps
to its footprint. Of the runner of the machine it is assumed that it has no file effect. -/
theorem run_footprint (invocation : Invocation) (machine : Machine) (files : FileSystem)
    (coloured : Bool) : invocation.Footprint files (invocation.run machine files coloured) := by
  cases known : Report.Format.ofName? invocation.format with
  | none => exact footprint_of_unknown machine files coloured known
  | some format =>
      obtain ⟨sameFiles, sameCalls, succeeds⟩ := run_eq_perform machine files coloured known
      refine ⟨fun unknown => ?_, fun looks => ?_, fun options asked => ?_, fun options asked => ?_,
        fun options asked unloadable => ?_⟩
      · rw [known] at unknown
        cases unknown
      · rw [sameFiles]
        exact Performance.perform_files_of_onlyLooks machine files _ looks
      · rw [sameFiles, succeeds, asked]
        rcases Performance.scan_files machine files (invocation.absoluteRoot files) options with
          same | ⟨-, success, put⟩
        · exact .inl same
        · exact .inr ⟨success, put⟩
      · rw [sameFiles, asked]
        exact (Performance.rename_files machine files (invocation.absoluteRoot files) options).1
      · obtain ⟨⟨trouble, failed⟩, kept, silent⟩ := (Performance.rename_files machine files
          (invocation.absoluteRoot files) options).2.2 unloadable
        rw [asked] at sameFiles sameCalls succeeds
        refine ⟨fun none => ?_, sameFiles.trans kept, sameCalls.trans silent⟩
        obtain ⟨items, success⟩ := succeeds.mp none
        exact absurd (failed.symm.trans success) nofun

end Invocation

end SqlColumns
