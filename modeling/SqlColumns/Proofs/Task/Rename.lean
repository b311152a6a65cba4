import SqlColumns.Proofs.Git.Flow
import SqlColumns.Proofs.Rename.Steps
import SqlColumns.Proofs.Workbook
import SqlColumns.Task.Rename

/-!
# The course of a renaming

A renaming goes one of a few ways: something is refused, a command or a file stops it, or it comes to
its end. Each way says which calls were made and what became of the files.
-/

set_option autoImplicit false

namespace SqlColumns

/-!
## Files that changed
-/

theorem RenameReport.filesChanged_eq_zero_iff {report : RenameReport} {files : FileSystem} :
    report.filesChanged files = 0 ↔ ∀ outcome ∈ report.outcomes, outcome.changed = false := by
  have empty : ∀ keys : List (List Path.Component), keys.eraseDups = [] ↔ keys = [] := by
    intro keys
    cases keys with
    | nil => simp
    | cons key rest => simp [List.eraseDups_cons]
  rw [filesChanged, List.length_eq_zero_iff, changedFiles, empty, List.map_eq_nil_iff,
    List.filter_eq_nil_iff]
  simp

/-- Failures that are found only when renamings are applied or their changes committed. -/
def Failure.IsLate : Failure → Prop
  | .emptyMessage | .refusedPattern _ _ => True
  | _ => False

theorem Failure.OfSheets.not_isLate {failure : Failure} (ofSheets : failure.OfSheets) :
    ¬ failure.IsLate := by
  cases failure <;> first | exact id | exact absurd ofSheets id

namespace RenameRequest

variable {request : RenameRequest} {runner : CommandRunner} {files after : FileSystem}
  {workbook : Workbook} {collected : List LabelledRenaming} {flow : GitFlow} {failure : Failure}
  {notices : List Notice}

/-!
## Looking up the renamings
-/

theorem ofSheets_of_collectFrom {labels : List String}
    (failed : request.collectFrom files workbook labels = (.error failure, notices)) :
    failure.OfSheets := by
  induction labels generalizing notices with
  | nil => simp [collectFrom] at failed
  | cons label labels ih =>
      unfold collectFrom at failed
      split at failed
      · next cause loaded =>
          split at failed
          · -- A sheet without a column is passed over unless it was asked for.
            cases others : request.collectFrom files workbook labels with
            | mk produced told =>
                simp only [others, Prod.mk.injEq] at failed
                obtain ⟨rfl, -⟩ := failed
                exact ih others
          · cases failed
            exact Workbook.ofSheets_of_loadRenamings loaded
      · simp only at failed
        split at failed
        · next cause told others =>
            cases failed
            exact ih others
        · simp at failed

/-- Collecting fails for a sheet, or for a file that is not there. -/
theorem ofSheets_of_collect
    (failed : request.collect files workbook = (.error failure, notices)) :
    failure.OfSheets ∨ ∃ label path, failure = .missingFile label path := by
  unfold collect at failed
  split at failed
  · next cause selected =>
      cases failed
      exact .inl (Workbook.ofSheets_of_selectSheets selected)
  · split at failed
    · next cause told from_ =>
        cases failed
        exact .inl (ofSheets_of_collectFrom from_)
    · split at failed
      · next cause missing =>
          cases failed
          obtain ⟨one, -, rfl⟩ := Option.map_eq_some_iff.mp missing
          exact .inr ⟨_, _, rfl⟩
      · simp at failed

/-!
## The ways to go
-/

/-- Nothing is refused before the first command: what is pushed is no dry run and has names of
branches, and the renamings are found with their files. -/
structure Accepted (request : RenameRequest) (push : PushRequest) (files : FileSystem)
    (workbook : Workbook) : Prop where
  wet : request.dryRun = false
  base : Branch.check push.defaultBranch = .ok ()
  branch : Branch.check push.branch = .ok ()
  collected : ∃ collected, (request.collect files workbook).1 = .ok collected

def Ready (request : RenameRequest) (runner : CommandRunner) (files : FileSystem)
    (flow : GitFlow) : Prop :=
  match request.push with
  | none => flow = .start request.root
  | some push => request.dryRun = false ∧ Branch.check push.branch = .ok () ∧
      GitFlow.Runs runner files (.start request.root)
        (GitFlow.prepareCommands push.defaultBranch push.branch) flow

theorem Ready.spec {push : PushRequest} (pushes : request.push = some push)
    (ready : request.Ready runner files flow) :
    request.dryRun = false ∧ AllSucceed runner flow.calls ∧ flow.folder = request.root ∧
      flow.calls = (GitFlow.prepareCommands push.defaultBranch push.branch).map
        (GitFlow.callOf request.root files) := by
  rw [Ready, pushes] at ready
  obtain ⟨wet, -, runs⟩ := ready
  obtain ⟨folder, calls⟩ := runs.calls_eq
  exact ⟨wet, runs.allSucceed .nil, folder, by simpa [GitFlow.start] using calls⟩

theorem Ready.length_eq {push : PushRequest} (pushes : request.push = some push)
    (ready : request.Ready runner files flow) : flow.calls.length = 3 := by
  obtain ⟨-, -, -, calls⟩ := ready.spec pushes
  rw [calls]
  rfl

theorem ready_of_prepare {told : List Notice} {answer : Unit}
    (wet : request.push.isSome = true → request.dryRun = false)
    (prepared : request.prepare runner files = (.ok answer, flow, told)) :
    request.Ready runner files flow := by
  unfold prepare at prepared
  unfold Ready
  cases pushes : request.push with
  | none =>
      simp only [pushes, Prod.mk.injEq] at prepared
      exact prepared.2.1.symm
  | some push =>
      cases result : (GitFlow.start request.root).prepare runner files push.defaultBranch push.branch
      with
      | mk produced after =>
          simp only [pushes, result, Prod.mk.injEq] at prepared
          obtain ⟨rfl, rfl, -⟩ := prepared
          obtain ⟨-, accepted, runs⟩ := GitFlow.prepare_eq_ok_iff.mp result
          exact ⟨wet (by rw [pushes]; rfl), accepted, runs⟩

theorem exists_changed_of_filesChanged_ne_zero {report : RenameReport}
    (changed : report.filesChanged files ≠ 0) :
    ∃ outcome ∈ report.outcomes, outcome.changed = true := by
  rw [Ne, RenameReport.filesChanged_eq_zero_iff] at changed
  simpa using changed

def Published (request : RenameRequest) (runner : CommandRunner) (after : FileSystem)
    (report : RenameReport) (flow last : GitFlow) : Prop :=
  ((request.push = none ∨ ∀ outcome ∈ report.outcomes, outcome.changed = false) ∧ last = flow) ∨
    ∃ push, request.push = some push ∧ (∃ outcome ∈ report.outcomes, outcome.changed = true) ∧
      GitFlow.Runs runner after flow (GitFlow.publishCommands push.branch push.message) last

theorem published_of_publish {report : RenameReport} {last : GitFlow} {answer : Unit}
    (published : request.publish runner after flow (report.filesChanged after) =
      (.ok answer, last, notices)) :
    request.Published runner after report flow last := by
  unfold publish at published
  cases pushes : request.push with
  | none =>
      simp only [pushes, Prod.mk.injEq] at published
      exact .inl ⟨.inl pushes, published.2.1.symm⟩
  | some push =>
      by_cases none : report.filesChanged after = 0
      · simp only [pushes, none, if_true, Prod.mk.injEq] at published
        exact .inl ⟨.inr (RenameReport.filesChanged_eq_zero_iff.mp none), published.2.1.symm⟩
      · cases result : flow.publish runner after push.branch push.message with
        | mk produced behind =>
            simp only [pushes, none, if_false, result, Prod.mk.injEq] at published
            obtain ⟨rfl, rfl, -⟩ := published
            exact .inr ⟨push, pushes, exists_changed_of_filesChanged_ne_zero none,
              (GitFlow.publish_eq_ok_iff.mp result).2.2⟩

section

variable [PatternLibrary]

/-- All renamings of the request were applied behind the commands that make the branch ready. -/
structure Applied (request : RenameRequest) (runner : CommandRunner) (files : FileSystem)
    (workbook : Workbook) (flow : GitFlow) (report : RenameReport) (after : FileSystem) : Prop where
  ready : request.Ready runner files flow
  applied : ∃ collected, (request.collect files workbook).1 = .ok collected ∧
    applyRenamings files (collected.map LabelledRenaming.mapping) request.dryRun =
      (.ok report, after)

/-- The ways in which a renaming can go: how it ends, the files afterwards, and the calls made. -/
inductive Course (request : RenameRequest) (runner : CommandRunner) (files : FileSystem)
    (workbook : Workbook) :
    Except Failure (List ReportItem) → FileSystem → List Call → Prop where
  /-- Something is refused at once. -/
  | refused {failure : Failure} :
      ¬ failure.IsLate → (∀ push, request.push = some push → ¬ request.Accepted push files workbook) →
      Course request runner files workbook (.error failure) files []
  /-- A command before the renamings fails. -/
  | unprepared {push : PushRequest} {failure : Failure} {flow : GitFlow} :
      request.push = some push →
      GitFlow.Stops runner files (.start request.root)
        (GitFlow.prepareCommands push.defaultBranch push.branch) failure flow →
      Course request runner files workbook (.error failure) files flow.calls
  /-- A renaming fails. -/
  | unapplied {collected : List LabelledRenaming} {flow : GitFlow} {failure : Failure}
      {after : FileSystem} :
      request.Ready runner files flow →
      (request.collect files workbook).1 = .ok collected →
      applyRenamings files (collected.map LabelledRenaming.mapping) request.dryRun =
        (.error failure, after) →
      Course request runner files workbook (.error failure) after flow.calls
  /-- There is nothing to push. -/
  | unpushed {flow : GitFlow} {report : RenameReport} {after : FileSystem}
      {items : List ReportItem} :
      request.Applied runner files workbook flow report after →
      (request.push = none ∨ ∀ outcome ∈ report.outcomes, outcome.changed = false) →
      Course request runner files workbook (.ok items) after flow.calls
  /-- The message of the commit is blank. -/
  | unnamed {push : PushRequest} {flow : GitFlow} {report : RenameReport} {after : FileSystem} :
      request.Applied runner files workbook flow report after →
      request.push = some push →
      (∃ outcome ∈ report.outcomes, outcome.changed = true) →
      Text.isBlankString push.message = true →
      Course request runner files workbook (.error .emptyMessage) after flow.calls
  /-- A command behind the renamings fails. -/
  | unpublished {push : PushRequest} {flow last : GitFlow} {report : RenameReport}
      {after : FileSystem} {failure : Failure} :
      request.Applied runner files workbook flow report after →
      request.push = some push →
      (∃ outcome ∈ report.outcomes, outcome.changed = true) →
      GitFlow.Stops runner after flow (GitFlow.publishCommands push.branch push.message) failure
        last →
      Course request runner files workbook (.error failure) after last.calls
  | published {push : PushRequest} {flow last : GitFlow} {report : RenameReport}
      {after : FileSystem} {items : List ReportItem} :
      request.Applied runner files workbook flow report after →
      request.push = some push →
      (∃ outcome ∈ report.outcomes, outcome.changed = true) →
      GitFlow.Runs runner after flow (GitFlow.publishCommands push.branch push.message) last →
      Course request runner files workbook (.ok items) after last.calls

theorem course_of_prepare_error {told : List Notice}
    (prepared : request.prepare runner files = (.error failure, flow, told)) :
    request.Course runner files workbook (.error failure) files flow.calls := by
  unfold prepare at prepared
  cases pushes : request.push with
  | none => simp [pushes] at prepared
  | some push =>
      cases result : (GitFlow.start request.root).prepare runner files push.defaultBranch push.branch
      with
      | mk produced after =>
          simp only [pushes, result, Prod.mk.injEq] at prepared
          obtain ⟨rfl, rfl, -⟩ := prepared
          rcases GitFlow.prepare_eq_error_iff.mp result with
            ⟨rfl, first | ⟨-, second⟩⟩ | ⟨-, -, stops⟩
          · rw [GitFlow.eq_of_check_error first]
            refine .refused id fun other own accepted => ?_
            rw [pushes] at own
            cases own
            rw [accepted.base] at first
            cases first
          · rw [GitFlow.eq_of_check_error second]
            refine .refused id fun other own accepted => ?_
            rw [pushes] at own
            cases own
            rw [accepted.branch] at second
            cases second
          · exact .unprepared pushes stops

theorem Applied.course_of_publish_error {report : RenameReport} {last : GitFlow}
    (done : request.Applied runner files workbook flow report after)
    (published : request.publish runner after flow (report.filesChanged after) =
      (.error failure, last, notices)) :
    request.Course runner files workbook (.error failure) after last.calls := by
  unfold publish at published
  cases pushes : request.push with
  | none => simp [pushes] at published
  | some push =>
      by_cases none : report.filesChanged after = 0
      · simp [pushes, none] at published
      · have changed := exists_changed_of_filesChanged_ne_zero none
        cases result : flow.publish runner after push.branch push.message with
        | mk produced behind =>
            simp only [pushes, none, if_false, result, Prod.mk.injEq] at published
            obtain ⟨rfl, rfl, -⟩ := published
            rcases GitFlow.publish_eq_error_iff.mp result with
              ⟨rfl, refused | ⟨-, blank, rfl⟩⟩ | ⟨-, -, stops⟩
            · -- The branch was accepted before it was made.
              have ready := done.ready
              rw [Ready, pushes] at ready
              rw [ready.2.1] at refused
              cases refused
            · exact .unnamed done pushes changed blank
            · exact .unpublished done pushes changed stops

theorem Applied.course_of_publish_ok {report : RenameReport} {last : GitFlow} {answer : Unit}
    (done : request.Applied runner files workbook flow report after)
    (published : request.publish runner after flow (report.filesChanged after) =
      (.ok answer, last, notices)) (items : List ReportItem) :
    request.Course runner files workbook (.ok items) after last.calls := by
  rcases published_of_publish published with ⟨nothing, rfl⟩ | ⟨push, pushes, changed, runs⟩
  · exact .unpushed done nothing
  · exact .published done pushes changed runs

theorem course_of_apply (found : (request.collect files workbook).1 = .ok collected)
    (wet : request.push.isSome = true → request.dryRun = false) :
    let run := request.apply runner files collected
    request.Course runner files workbook run.result run.files run.calls := by
  unfold apply
  split
  · next failure flow told prepared => exact course_of_prepare_error prepared
  · next answer flow told prepared =>
      have ready := ready_of_prepare wet prepared
      split
      · next failure after applied => exact .unapplied ready found applied
      · next report after applied =>
          have done : request.Applied runner files workbook flow report after :=
            ⟨ready, collected, found, applied⟩
          simp only
          split
          · next failure last notices published => exact done.course_of_publish_error published
          · next answer last notices published => exact done.course_of_publish_ok published _

end

end RenameRequest

/-- Every renaming goes one of the ways. -/
theorem runRename_course [PatternLibrary] (request : RenameRequest) (runner : CommandRunner)
    (files : FileSystem) (workbook : Workbook) :
    let run := runRename request runner files workbook
    request.Course runner files workbook run.result run.files run.calls := by
  unfold runRename
  by_cases both : (request.dryRun && request.push.isSome) = true
  · rw [if_pos both]
    refine .refused id fun push _ accepted => ?_
    rw [accepted.wet] at both
    cases both
  · rw [if_neg both]
    cases found : request.collect files workbook with
    | mk produced notices =>
        cases produced with
        | error failure =>
            have never : ∀ push, request.push = some push →
                ¬ request.Accepted push files workbook := by
              rintro push - ⟨-, -, -, collected, done⟩
              rw [found] at done
              cases done
            rcases RenameRequest.ofSheets_of_collect found with ofSheets | ⟨label, path, rfl⟩
            · exact .refused ofSheets.not_isLate never
            · exact .refused id never
        | ok collected =>
            refine RenameRequest.course_of_apply (by rw [found]) fun pushes => ?_
            simpa [pushes] using both

end SqlColumns
