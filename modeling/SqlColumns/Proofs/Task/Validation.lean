import Mathlib
import SqlColumns.Proofs.Task.Rename
import SqlColumns.Proofs.TextFile

/-!
# What is validated first

A renaming that is refused has called nothing and changed nothing, with two exceptions. The message of
the commit is looked at only when files were changed and something is to be committed, and the pattern
of an identifier is compiled only when it is the turn of its renaming.
-/

set_option autoImplicit false

namespace SqlColumns

/-- Failures that come from what was asked for, and not from files or commands. -/
def Failure.IsValidation (failure : Failure) : Prop :=
  failure.code ∈ ["INVALID_INPUT", "INVALID_BRANCH", "UNKNOWN_SHEET", "MISSING_HEADER"]

instance (failure : Failure) : Decidable failure.IsValidation :=
  inferInstanceAs (Decidable (_ ∈ _))

/-!
## Files and commands
-/

theorem TextFile.not_isValidation_of_read {files : FileSystem} {path : Path} {failure : Failure}
    (failed : read files path = .error failure) : ¬ failure.IsValidation := by
  unfold read at failed
  split at failed
  · cases failed
    simp [Failure.IsValidation, Failure.code]
  · split at failed <;> cases failed
    simp [Failure.IsValidation, Failure.code]

theorem TextFile.not_isValidation_of_write {files : FileSystem} {path : Path} {text : List Char}
    {failure : Failure} (failed : write files path text = .error failure) :
    ¬ failure.IsValidation := by
  unfold write at failed
  split at failed <;> cases failed
  simp [Failure.IsValidation, Failure.code]

namespace Rename

variable {dryRun : Bool} {draft : Draft} {mapping : Renaming} {path : Path} {text : List Char}
  {failure : Failure}

theorem Draft.not_isValidation_of_current (failed : draft.current path = .error failure) :
    ¬ failure.IsValidation := by
  unfold current at failed
  split at failed
  · cases failed
  · exact TextFile.not_isValidation_of_read failed

theorem Draft.not_isValidation_of_store
    (failed : draft.store dryRun path text = .error failure) : ¬ failure.IsValidation := by
  unfold store at failed
  split at failed
  · cases failed
  · split at failed
    · next cause written =>
        cases failed
        exact TextFile.not_isValidation_of_write written
    · cases failed

/-- A step is refused for nothing but the pattern of its identifier. -/
theorem refusedPattern_of_step [PatternLibrary]
    (failed : step dryRun draft mapping = .error failure) (validation : failure.IsValidation) :
    ∃ complaint, PatternLibrary.refusal? mapping.old.toList = some complaint ∧
      failure = .refusedPattern mapping.old complaint := by
  rcases step_eq_error_iff.mp failed with
    uncompiled | ⟨-, -, current⟩ | ⟨identifier, text, -, -, after⟩
  · generalize spelled : mapping.old.toList = spelling at uncompiled
    cases uncompiled with
    | empty => exact absurd validation (by decide)
    | @refused _ complaint _ refusal =>
        subst spelled
        exact ⟨complaint, refusal, by rw [String.ofList_toList]⟩
  · exact absurd validation (Draft.not_isValidation_of_current current)
  · unfold Draft.after at after
    split at after
    · cases after
    · exact absurd validation (Draft.not_isValidation_of_store after)

end Rename

/-- A run is refused for nothing but the pattern of an identifier, behind the renamings before it. -/
theorem refusedPattern_of_applyRenamings [PatternLibrary] {files after : FileSystem}
    {renamings : List Renaming} {dryRun : Bool} {failure : Failure}
    (failed : applyRenamings files renamings dryRun = (.error failure, after))
    (validation : failure.IsValidation) :
    ∃ before mapping behind report complaint, renamings = before ++ mapping :: behind ∧
      applyRenamings files before dryRun = (.ok report, after) ∧
      PatternLibrary.refusal? mapping.old.toList = some complaint ∧
      failure = .refusedPattern mapping.old complaint := by
  obtain ⟨before, mapping, behind, outcomes, last, split, steps, stopped, left⟩ :=
    applyRenamings_eq_error_iff.mp failed
  obtain ⟨complaint, refusal, same⟩ := Rename.refusedPattern_of_step stopped validation
  exact ⟨before, mapping, behind, ⟨outcomes, dryRun⟩, complaint, split,
    applyRenamings_eq_ok_iff.mpr ⟨last, steps, left, rfl⟩, refusal, same⟩

theorem GitFlow.Stops.not_isValidation {runner : CommandRunner} {files : FileSystem}
    {flow last : GitFlow} {commands : List (List String)} {failure : Failure}
    (stops : GitFlow.Stops runner files flow commands failure last) : ¬ failure.IsValidation := by
  obtain ⟨before, arguments, behind, middle, -, -, stop⟩ := stops
  obtain ⟨complaint, -, rfl, -⟩ := GitFlow.run_eq_error_iff.mp stop
  simp [Failure.IsValidation, Failure.code]

/-!
## Refusals
-/

namespace RenameRequest

variable {request : RenameRequest} {runner : CommandRunner} {files after : FileSystem}
  {workbook : Workbook} {failure : Failure} {calls : List Call}

section

variable [PatternLibrary]

/-- What was done when the message of the commit turns out to be blank: the commands that make the
branch ready were called, every renaming was applied, and one of them changed its file. -/
structure RefusedLate (request : RenameRequest) (push : PushRequest) (files : FileSystem)
    (workbook : Workbook) (after : FileSystem) (calls : List Call) : Prop where
  pushes : request.push = some push
  blank : Text.isBlankString push.message = true
  called : calls.map Call.command =
    [["stash"], ["checkout", push.defaultBranch], ["checkout", "-b", push.branch]].map
      (Command.mk "git")
  changed : ∃ collected report, (request.collect files workbook).1 = .ok collected ∧
    applyRenamings files (collected.map LabelledRenaming.mapping) false = (.ok report, after) ∧
    ∃ outcome ∈ report.outcomes, outcome.changed = true

/-- What was done when the pattern of an identifier turns out to be refused: the commands that make the
branch ready were called, where there is one to push, and the renamings before that of the identifier
were applied. -/
structure PatternRefused (request : RenameRequest) (spelling complaint : String)
    (files : FileSystem) (workbook : Workbook) (after : FileSystem) (calls : List Call) : Prop where
  refusal : PatternLibrary.refusal? spelling.toList = some complaint
  called : calls.map Call.command =
    match request.push with
    | none => []
    | some push =>
        [["stash"], ["checkout", push.defaultBranch], ["checkout", "-b", push.branch]].map
          (Command.mk "git")
  reached : ∃ collected before mapping behind report,
    (request.collect files workbook).1 = .ok collected ∧
    collected.map LabelledRenaming.mapping = before ++ mapping :: behind ∧ mapping.old = spelling ∧
    applyRenamings files before request.dryRun = (.ok report, after)

/-- What a refusal leaves of the calls and the files: nothing called and nothing changed, but for the
two that come late. -/
def Leaves (request : RenameRequest) (files : FileSystem) (workbook : Workbook)
    (after : FileSystem) (calls : List Call) : Failure → Prop
  | .emptyMessage => ∃ push, request.RefusedLate push files workbook after calls
  | .refusedPattern spelling complaint =>
      request.PatternRefused spelling complaint files workbook after calls
  | _ => calls = [] ∧ after = files

omit [PatternLibrary] in
theorem Ready.called {flow : GitFlow} (ready : request.Ready runner files flow) :
    flow.calls.map Call.command =
      match request.push with
      | none => []
      | some push =>
          [["stash"], ["checkout", push.defaultBranch], ["checkout", "-b", push.branch]].map
            (Command.mk "git") := by
  cases pushes : request.push with
  | none =>
      rw [Ready, pushes] at ready
      rw [ready]
      rfl
  | some push =>
      obtain ⟨-, -, -, made⟩ := ready.spec pushes
      rw [made, GitFlow.map_command_callOf]
      rfl

theorem Course.validates_first
    (course : request.Course runner files workbook (.error failure) after calls)
    (validation : failure.IsValidation) : request.Leaves files workbook after calls failure := by
  cases course with
  | refused early _ =>
      unfold Leaves
      split
      · exact absurd trivial early
      · exact absurd trivial early
      · exact ⟨rfl, rfl⟩
  | unprepared _ stops => exact absurd validation stops.not_isValidation
  | unapplied ready found failed =>
      obtain ⟨before, mapping, behind, report, complaint, split, applied, refusal, rfl⟩ :=
        refusedPattern_of_applyRenamings failed validation
      exact ⟨refusal, ready.called, _, before, mapping, behind, report, found, split, rfl, applied⟩
  | @unnamed push flow report after done pushes changed blank =>
      obtain ⟨wet, -, -, -⟩ := done.ready.spec pushes
      obtain ⟨collected, found, applied⟩ := done.applied
      have called := done.ready.called
      rw [wet] at applied
      rw [pushes] at called
      exact ⟨push, pushes, blank, called, collected, report, found, applied, changed⟩
  | unpublished _ _ _ stops => exact absurd validation stops.not_isValidation

end

end RenameRequest

/-- A renaming that is refused has called no command and changed no file, unless it is refused for
the message of the commit or for the pattern of an identifier: then the branch was made, and all
renamings or those before that of the identifier are in the files. Of the runner it is assumed that it
has no file effect and command failures only. -/
theorem runRename_validates_first [PatternLibrary] {request : RenameRequest}
    {runner : CommandRunner} {files : FileSystem} {workbook : Workbook} {failure : Failure}
    (refused : (runRename request runner files workbook).result = .error failure)
    (validation : failure.IsValidation) :
    let run := runRename request runner files workbook
    request.Leaves files workbook run.files run.calls failure := by
  have course := runRename_course request runner files workbook
  simp only [refused] at course
  exact course.validates_first validation

def idToKey : Workbook :=
  .memory [⟨"s", ["Change Type", "Search Key", "Renamed objects", "File"],
    [["COL RENAME", "id", "key", "a.sql"]]⟩]

def pushWithoutMessage : RenameRequest :=
  ⟨⟨"/"⟩, [], {}, "result", false, some ⟨"main", "b", " "⟩⟩

/-- A request that selects the only sheet collects its renaming. -/
theorem collect_idToKey (request : RenameRequest) (text : List Char)
    (root : request.root = ⟨"/"⟩) (layout : request.layout = {})
    (selected : idToKey.selectSheets (singleScript text) request.sheets request.resultSheet =
      .ok ["s"]) :
    request.collect (singleScript text) idToKey =
      (.ok [⟨"s", ⟨"id", "key", ⟨"/a.sql"⟩⟩⟩], [.detail "s: 1 rename rows"]) := by
  have loaded : idToKey.loadRenamings (singleScript text) "s" request.layout request.root =
      .ok [⟨"id", "key", ⟨"/a.sql"⟩⟩] := by
    rw [root, layout]
    rfl
  have located := (singleScript_holdsText text).located
  have isFile : (singleScript text).isFile ⟨"/a.sql"⟩ = true := by
    simp only [FileSystem.isFile, FileSystem.lookup, located]
    rfl
  simp only [RenameRequest.collect, selected, RenameRequest.collectFrom, loaded,
    RenameRequest.missing?]
  simp [isFile]
  rfl

section

attribute [local instance] PatternLibrary.sizeLimited

private theorem applyRenamings_idToKey :
    ∃ outcome, outcome.changed = true ∧
      applyRenamings (singleScript "id".toList) [⟨"id", "key", ⟨"/a.sql"⟩⟩] false =
        (.ok ⟨[outcome], false⟩, singleScript "key".toList) := by
  have holds := singleScript_holdsText "id".toList
  let identifier : Identifier := ⟨['i', 'd'], by decide⟩
  have replaced : identifier.replaceAll "id".toList "key".toList = "key".toList := by cbv
  refine ⟨Rename.outcomeOf ⟨"id", "key", ⟨"/a.sql"⟩⟩ identifier "id".toList, ?_,
    applyRenamings_eq_ok_iff.mpr ⟨⟨singleScript "key".toList, []⟩, .single ?_, rfl, rfl⟩⟩
  · simp only [Rename.outcomeOf, replaced]
    rfl
  · refine Rename.step_eq_ok_iff.mpr
      ⟨identifier, "id".toList, rfl, TextFile.read_of_holdsText holds, rfl, ?_⟩
    simp only [Rename.Draft.after, replaced, Rename.Draft.store, TextFile.write_of_holdsText holds]
    rfl

def everyCommandSucceeds : CommandRunner := fun _ _ => .ok ⟨"", ""⟩

/-- The message is refused when the script is changed and the branch is there. -/
theorem runRename_validates_first_blankMessage :
    let files := singleScript "id".toList
    let run := runRename pushWithoutMessage everyCommandSucceeds files idToKey
    run.result = .error .emptyMessage ∧ Failure.emptyMessage.IsValidation ∧
      run.files = singleScript "key".toList ∧
      ∃ push, pushWithoutMessage.RefusedLate push files idToKey run.files run.calls := by
  intro files run
  obtain ⟨outcome, changed, applied⟩ := applyRenamings_idToKey
  have found := collect_idToKey pushWithoutMessage "id".toList rfl rfl rfl
  obtain ⟨flow, told, prepared⟩ : ∃ flow told,
      pushWithoutMessage.prepare everyCommandSucceeds files = (.ok (), flow, told) :=
    ⟨_, _, rfl⟩
  have some : RenameReport.filesChanged ⟨[outcome], false⟩ (singleScript "key".toList) ≠ 0 := by
    rw [Ne, RenameReport.filesChanged_eq_zero_iff]
    simp [changed]
  obtain ⟨last, published⟩ : ∃ last, pushWithoutMessage.publish everyCommandSucceeds
      (singleScript "key".toList) flow
      (RenameReport.filesChanged ⟨[outcome], false⟩ (singleScript "key".toList)) =
        (.error .emptyMessage, flow, last) := by
    unfold RenameRequest.publish
    exact ⟨_, if_neg some⟩
  have ends : run.result = .error .emptyMessage ∧ run.files = singleScript "key".toList := by
    simp only [run, runRename]
    rw [if_neg (by decide), found]
    simp only [RenameRequest.apply, files, prepared]
    rw [show pushWithoutMessage.dryRun = false from rfl]
    simp only [List.map_cons, List.map_nil, applied, published]
    exact ⟨trivial, trivial⟩
  have validation : Failure.emptyMessage.IsValidation := by decide
  exact ⟨ends.1, validation, ends.2, runRename_validates_first ends.1 validation⟩

end

end SqlColumns
