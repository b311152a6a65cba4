import SqlColumns.Proofs.FileSystem.Listing
import SqlColumns.Proofs.Rename.DryRun
import SqlColumns.Proofs.Task.Collected
import SqlColumns.Proofs.Task.Rename
import SqlColumns.Task.Scan

/-!
# Where tasks write

A scan writes the file of its result sheet or none. A renaming writes the files that the marked rows
of its sheets name, and none before all of these rows are read.
-/

set_option autoImplicit false

namespace SqlColumns

/-!
## Places of a change
-/

namespace FileSystem

variable {files now written : FileSystem} {path : Path} {location : Location}
  {places : Location → Prop}

/-- What is written to a path lies at a location, whether a file is there or not. -/
def Receives (files : FileSystem) (path : Path) (location : Location) : Prop :=
  files.find .file path = .ok (.taken location) ∨ files.find .file path = .ok (.free location)

/-- A write puts one file where the path leads, unless it leaves everything as it was. -/
theorem eq_or_set_of_write {bytes : List UInt8} (success : files.write path bytes = .ok written) :
    written = files ∨
      ∃ location, files.Receives path location ∧ written = files.set location (.file bytes) := by
  unfold write at success
  cases found : files.find .file path with
  | error cause =>
      rw [found] at success
      cases success
  | ok place =>
      rw [found] at success
      cases place with
      | free location =>
          cases success
          exact .inr ⟨location, .inr found, rfl⟩
      | taken location =>
          simp only [bind, Except.bind] at success
          split at success
          · cases success
            exact .inr ⟨location, .inl found, rfl⟩
          · split at success <;> cases success
            exact .inl rfl
          · cases success
            exact .inl rfl
          · cases success
          · cases success

/-- Two file systems differ in nothing but the content of regular files at some places. -/
structure DifferOnlyAt (places : Location → Prop) (files now : FileSystem) : Prop where
  shape : SameShape files now
  modes : now.modes = files.modes
  elsewhere : ∀ location, ¬ places location → now.entryAt? location = files.entryAt? location

theorem differOnlyAt_refl (places : Location → Prop) (files : FileSystem) :
    DifferOnlyAt places files files :=
  ⟨.refl files, rfl, fun _ _ => rfl⟩

theorem DifferOnlyAt.set (before : DifferOnlyAt places files now) {content bytes : List UInt8}
    (below : location ≠ []) (holds : now.entryAt? location = some (.file content))
    (allowed : places location) : DifferOnlyAt places files (now.set location (.file bytes)) where
  shape := before.shape.trans (sameShape_set below holds bytes)
  modes := before.modes
  elsewhere other apart := by
    have different : other ≠ location := fun same => apart (same.symm ▸ allowed)
    rw [entryAt?_set_of_ne different]
    exact before.elsewhere other apart

end FileSystem

open FileSystem

/-!
## Scans
-/

/-- The path of a sheet in a directory: that of the first file with its name, or of a new one. -/
def Workbook.IsSheetPath (files : FileSystem) (folder : Path) (name : String) (path : Path) : Prop :=
  ∃ existing, locate files folder name = .ok existing ∧
    path = existing.getD (folder.append ⟨Sheet.fileNameOf name⟩)

theorem Workbook.eq_or_set_of_writeSheet {files written : FileSystem} {folder : Path} {sheet : Sheet}
    {kept : Workbook} (success : writeSheet files (.directory folder) sheet = .ok (written, kept)) :
    written = files ∨ ∃ path location content, IsSheetPath files folder sheet.name path ∧
      files.Receives path location ∧ written = files.set location (.file content) := by
  unfold writeSheet at success
  simp only at success
  split at success
  · cases success
  · next existing located =>
      split at success
      · next changed result =>
          cases success
          rcases eq_or_set_of_write result with same | ⟨location, receives, set⟩
          · exact .inl same
          · exact .inr ⟨_, location, _, ⟨existing, located, rfl⟩, receives, set⟩
      · split at success <;> cases success
      · cases success

/-- A scan leaves all files as they are, or it succeeds and puts one file where the path of its result
sheet leads. -/
theorem runScan_files [PatternLibrary] [Corpus.UserRules] (request : ScanRequest)
    (files : FileSystem) (folder : Path) (time : String) :
    let outcome := runScan request files (.directory folder) time
    outcome.files = files ∨
      (request.write = true ∧ (∃ items, outcome.result = .ok items) ∧
        ∃ path location content, Workbook.IsSheetPath files folder request.resultSheet path ∧
          files.Receives path location ∧ outcome.files = files.set location (.file content)) := by
  unfold runScan
  split
  · exact .inl rfl
  · next table notices joined =>
      simp only
      split
      · next writes =>
          split
          · exact .inl rfl
          · next written kept stored =>
              rcases Workbook.eq_or_set_of_writeSheet stored with
                same | ⟨path, location, content, named, receives, set⟩
              · exact .inl same
              · exact .inr ⟨writes, ⟨_, rfl⟩, path, location, content, named, receives, set⟩
      · exact .inl rfl

namespace RenameRequest

variable {request : RenameRequest} {runner : CommandRunner} {files : FileSystem}
  {workbook : Workbook} {names : List String} {name : String} {sheet : Sheet}
  {columns : Sheet.RenameColumns} {row : List String} {collected : List LabelledRenaming}
  {notices : List Notice}

/-- A selected sheet has a marked row that names a file. -/
def Names (request : RenameRequest) (files : FileSystem) (workbook : Workbook) (path : Path) : Prop :=
  ∃ name sheet columns row,
    workbook.Selects files request.sheets request.resultSheet name ∧
      workbook.readSheet files name = .ok sheet ∧
      sheet.renameColumns request.layout = .ok columns ∧
      row ∈ Sheet.markedRows request.layout columns sheet.rows ∧
      path = request.root.resolveUnder (Sheet.cell row columns.file)

/-- The ways in which the sheets or rows of a request cannot be loaded. A sheet that was not asked for
by name and lacks a column is passed over. -/
inductive Unloadable (request : RenameRequest) (files : FileSystem) (workbook : Workbook) : Prop where
  /-- The sheets cannot be listed, or one that is asked for is not there. -/
  | selection {failure : Failure} :
      workbook.selectSheets files request.sheets request.resultSheet = .error failure →
      Unloadable request files workbook
  | sheet {name : String} {failure : Failure} :
      workbook.Selects files request.sheets request.resultSheet name →
      workbook.readSheet files name = .error failure →
      Unloadable request files workbook
  | column {name : String} {sheet : Sheet} {failure : Failure} :
      request.sheets ≠ [] →
      workbook.Selects files request.sheets request.resultSheet name →
      workbook.readSheet files name = .ok sheet →
      sheet.renameColumns request.layout = .error failure →
      Unloadable request files workbook
  | row {name : String} {sheet : Sheet} {columns : Sheet.RenameColumns} {row : List String} :
      workbook.Selects files request.sheets request.resultSheet name →
      workbook.readSheet files name = .ok sheet →
      sheet.renameColumns request.layout = .ok columns →
      row ∈ Sheet.markedRows request.layout columns sheet.rows →
      ¬ Sheet.IsComplete columns row →
      Unloadable request files workbook

/-- What is pushed does not matter to what is loaded. -/
theorem Unloadable.withPush (unloadable : request.Unloadable files workbook)
    (push : Option PushRequest) :
    ({ request with push := push } : RenameRequest).Unloadable files workbook := by
  cases unloadable with
  | selection failed => exact .selection failed
  | sheet chosen unread => exact .sheet chosen unread
  | column asked chosen read missing => exact .column asked chosen read missing
  | row chosen read found marked incomplete => exact .row chosen read found marked incomplete

theorem Unloadable.collect_error (unloadable : request.Unloadable files workbook) :
    ∃ failure notices, request.collect files workbook = (.error failure, notices) := by
  cases found : request.collect files workbook with
  | mk produced notices =>
      cases produced with
      | error failure => exact ⟨failure, notices, rfl⟩
      | ok collected =>
          obtain ⟨labels, selected, accepted, -, -⟩ := collect_eq_ok found
          have accepts : ∀ {name}, workbook.Selects files request.sheets request.resultSheet name →
              request.Accepts files workbook name :=
            fun chosen => accepted _ ((Workbook.mem_of_selectSheets selected).mpr chosen)
          cases unloadable with
          | selection failed =>
              rw [selected] at failed
              cases failed
          | sheet chosen unread =>
              rcases accepts chosen with ⟨sheet, columns, read, -⟩ | ⟨-, sheet, _, _, read, -⟩
              · rw [unread] at read
                cases read
              · rw [unread] at read
                cases read
          | column asked chosen read missing =>
              rcases accepts chosen with ⟨sheet, columns, again, own, -⟩ | ⟨wide, -⟩
              · rw [read] at again
                cases again
                rw [missing] at own
                cases own
              · exact absurd wide asked
          | row chosen read own marked incomplete =>
              rcases accepts chosen with
                ⟨sheet, columns, again, found, complete⟩ | ⟨-, sheet, _, _, again, missing⟩
              · rw [read] at again
                cases again
                rw [own] at found
                cases found
                exact absurd (complete _ marked) incomplete
              · rw [read] at again
                cases again
                rw [own] at missing
                cases missing

/-- What is collected are renamings in files that are there and that marked rows name. -/
theorem names_of_collect (collects : request.collect files workbook = (.ok collected, notices))
    {one : LabelledRenaming} (member : one ∈ collected) :
    request.Names files workbook one.mapping.file ∧ files.isFile one.mapping.file = true := by
  obtain ⟨labels, selected, -, rfl, there⟩ := collect_eq_ok collects
  refine ⟨?_, there one member⟩
  obtain ⟨row, inside, rfl⟩ := List.mem_map.mp member
  obtain ⟨label, among, own⟩ := List.mem_flatMap.mp inside
  obtain ⟨-, sheet, columns, cells, read, found, marked, same⟩ := Workbook.cells_of_mem_marked own
  have chosen := (Workbook.mem_of_selectSheets selected).mp among
  exact ⟨label, sheet, columns, cells, chosen, read, found, marked,
    by simp only [labelled, MarkedRow.mapping, same]⟩

end RenameRequest

/-!
## Steps in files that are there
-/

namespace Rename

variable {files : FileSystem} {places : Location → Prop} {draft next last : Draft}
  {mapping : Renaming} {outcome : RenameOutcome} {renamings : List Renaming}
  {outcomes : List RenameOutcome}

def LeadsInto (files : FileSystem) (places : Location → Prop) (path : Path) : Prop :=
  ∃ location content, files.LeadsTo path location content ∧ places location

theorem step_differOnlyAt [PatternLibrary] (before : DifferOnlyAt places files draft.files)
    (leads : LeadsInto files places mapping.file)
    (result : step false draft mapping = .ok (outcome, next)) :
    DifferOnlyAt places files next.files := by
  obtain ⟨identifier, text, -, -, -, after⟩ := step_eq_ok_iff.mp result
  unfold Draft.after at after
  split at after
  · cases after
    exact before
  · -- Only the content of the file can have changed since, so it is where it was.
    obtain ⟨location, content, own, allowed⟩ := leads
    obtain ⟨kept, holds⟩ := before.shape.exists_file own.holds
    have now : draft.files.LeadsTo mapping.file location kept :=
      ⟨before.shape.locate_eq mapping.file ▸ own.located, holds⟩
    simp only [Draft.store, Bool.false_eq_true, if_false, TextFile.write, now.write_eq] at after
    cases after
    exact before.set now.below_root holds allowed

theorem Steps.differOnlyAt [PatternLibrary] (steps : Steps false draft renamings outcomes last)
    (before : DifferOnlyAt places files draft.files)
    (lead : ∀ mapping ∈ renamings, LeadsInto files places mapping.file) :
    DifferOnlyAt places files last.files := by
  induction steps with
  | done => exact before
  | step first rest ih =>
      obtain ⟨own, others⟩ := List.forall_mem_cons.mp lead
      exact ih (step_differOnlyAt before own first) others

end Rename

/-- Renamings in files that are there change nothing but the content of these files. -/
theorem applyRenamings_differOnlyAt [PatternLibrary] {files : FileSystem} {places : Location → Prop}
    {renamings : List Renaming} (dryRun : Bool)
    (lead : ∀ mapping ∈ renamings, Rename.LeadsInto files places mapping.file) :
    DifferOnlyAt places files (applyRenamings files renamings dryRun).2 := by
  have start := differOnlyAt_refl places files
  cases dryRun with
  | true =>
      rw [applyRenamings_dry_files]
      exact start
  | false =>
      cases result : applyRenamings files renamings false with
      | mk produced after =>
          cases produced with
          | error failure =>
              obtain ⟨before, _, _, _, last, rfl, steps, -, rfl⟩ :=
                applyRenamings_eq_error_iff.mp result
              exact steps.differOnlyAt start fun mapping member =>
                lead mapping (List.mem_append_left _ member)
          | ok report =>
              obtain ⟨last, steps, rfl, -⟩ := applyRenamings_eq_ok_iff.mp result
              exact steps.differOnlyAt start lead

/-!
## Renamings
-/

namespace RenameRequest

variable {request : RenameRequest} {runner : CommandRunner} {files after : FileSystem}
  {workbook : Workbook} {result : Except Failure (List ReportItem)} {calls : List Call}

def Places (request : RenameRequest) (files : FileSystem) (workbook : Workbook)
    (location : Location) : Prop :=
  ∃ path, request.Names files workbook path ∧ files.locate path = .ok location

/-- Whatever way a renaming goes, the files are those that it found or those that its renamings left. -/
theorem Course.files_eq [PatternLibrary]
    (course : request.Course runner files workbook result after calls) :
    after = files ∨ ∃ collected, (request.collect files workbook).1 = .ok collected ∧
      after = (applyRenamings files (collected.map LabelledRenaming.mapping) request.dryRun).2 := by
  have applied : ∀ {flow report}, request.Applied runner files workbook flow report after →
      ∃ collected, (request.collect files workbook).1 = .ok collected ∧
        after = (applyRenamings files (collected.map LabelledRenaming.mapping) request.dryRun).2 := by
    rintro flow report ⟨-, collected, found, applied⟩
    exact ⟨collected, found, by rw [applied]⟩
  cases course with
  | refused => exact .inl rfl
  | unprepared => exact .inl rfl
  | unapplied _ found failed => exact .inr ⟨_, found, by rw [failed]⟩
  | unpushed done => exact .inr (applied done)
  | unnamed done => exact .inr (applied done)
  | unpublished done => exact .inr (applied done)
  | published done => exact .inr (applied done)

end RenameRequest

/-- A renaming changes nothing but the content of files that marked rows of its sheets name. -/
theorem runRename_differOnlyAt [PatternLibrary] (request : RenameRequest) (runner : CommandRunner)
    (files : FileSystem) (workbook : Workbook) :
    DifferOnlyAt (request.Places files workbook) files
      (runRename request runner files workbook).files := by
  rcases (runRename_course request runner files workbook).files_eq with
    same | ⟨collected, found, same⟩
  · rw [same]
    exact differOnlyAt_refl _ files
  · rw [same]
    refine applyRenamings_differOnlyAt request.dryRun fun mapping member => ?_
    obtain ⟨one, inside, rfl⟩ := List.mem_map.mp member
    cases result : request.collect files workbook with
    | mk produced notices =>
        rw [result] at found
        obtain rfl : produced = .ok collected := found
        obtain ⟨names, there⟩ := RenameRequest.names_of_collect result inside
        obtain ⟨location, content, leads⟩ := isFile_iff.mp there
        exact ⟨location, content, leads, one.mapping.file, names, leads.located⟩

/-- A dry run changes nothing. -/
theorem runRename_dry_files [PatternLibrary] {request : RenameRequest} (dry : request.dryRun = true)
    (runner : CommandRunner) (files : FileSystem) (workbook : Workbook) :
    (runRename request runner files workbook).files = files := by
  rcases (runRename_course request runner files workbook).files_eq with
    same | ⟨collected, -, same⟩
  · exact same
  · rw [same, dry, applyRenamings_dry_files]

/-- When not all sheets and rows can be loaded, nothing was called and nothing changed. -/
theorem runRename_of_unloadable [PatternLibrary] {request : RenameRequest} {files : FileSystem}
    {workbook : Workbook} (unloadable : request.Unloadable files workbook)
    (runner : CommandRunner) :
    let run := runRename request runner files workbook
    (∃ failure, run.result = .error failure) ∧ run.files = files ∧ run.calls = [] := by
  obtain ⟨failure, notices, collected⟩ := unloadable.collect_error
  unfold runRename
  split
  · exact ⟨⟨_, rfl⟩, rfl, rfl⟩
  · rw [collected]
    exact ⟨⟨failure, rfl⟩, rfl, rfl⟩

end SqlColumns
