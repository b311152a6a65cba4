import SqlColumns.Proofs.Task.Rename

/-!
# The order of git steps and file writes

Commands of git run in one order and only in the root of the request. Files change between the
commands that make the branch ready and those that publish it, and nothing is published unless some
renaming changed its file.
-/

set_option autoImplicit false

namespace SqlColumns

def PushRequest.commands (push : PushRequest) : List Command :=
  [["stash"], ["checkout", push.defaultBranch], ["checkout", "-b", push.branch],
    ["add", "."], ["commit", "-m", push.message], ["push", "origin", push.branch]].map
    (Command.mk "git")

def RenameRequest.preparing (request : RenameRequest) (push : PushRequest) (files : FileSystem) :
    List Call :=
  (GitFlow.prepareCommands push.defaultBranch push.branch).map
    (GitFlow.callOf request.root files)

/-- What the calls, the files and the result of a renaming with a push request have to do with each
other. -/
structure RenameRun.Orderly [PatternLibrary] (run : RenameRun) (request : RenameRequest)
    (push : PushRequest)
    (runner : CommandRunner) (files : FileSystem) (workbook : Workbook) : Prop where
  commands : run.calls.map Call.command <+: push.commands
  folder : ∀ call ∈ run.calls, call.folder = request.root
  /-- Where nothing is refused and the runner answers them, the first three calls are made. -/
  prepared : request.Accepted push files workbook →
    AllSucceed runner (request.preparing push files) → request.preparing push files <+: run.calls
  /-- A call that fails is the last one, and the run fails with its complaint. -/
  failing : ∀ number call complaint, run.calls[number]? = some call →
    runner (run.calls.take number) call = .error complaint →
    run.calls.length = number + 1 ∧ run.result = .error (.commandFailed call.command.line complaint)
  /-- The first three calls see the files as they were, and the others see them as they are left. -/
  seen : ∀ number call, run.calls[number]? = some call →
    call.files = if number < 3 then files else run.files
  /-- Files change only when the first three calls succeeded. -/
  written : run.files ≠ files → ∀ number < 3, Succeeds runner run.calls number
  /-- The fourth call is made only when every renaming was applied and one changed its file. -/
  fourth : 3 < run.calls.length → ∃ collected report,
    (request.collect files workbook).1 = .ok collected ∧
      applyRenamings files (collected.map LabelledRenaming.mapping) false = (.ok report, run.files) ∧
      ∃ outcome ∈ report.outcomes, outcome.changed = true
  /-- When every renaming is applied and none changes its file, the run succeeds without a fourth
  call. -/
  idle : (∀ number < 3, Succeeds runner run.calls number) → ∀ collected report after,
    (request.collect files workbook).1 = .ok collected →
    applyRenamings files (collected.map LabelledRenaming.mapping) false = (.ok report, after) →
    (∀ outcome ∈ report.outcomes, outcome.changed = false) →
    run.calls.length = 3 ∧ ∃ items, run.result = .ok items

namespace RenameRequest

variable {request : RenameRequest} {push : PushRequest} {runner : CommandRunner}
  {files after : FileSystem} {workbook : Workbook} {flow : GitFlow} {calls : List Call}
  {result : Except Failure (List ReportItem)} {report : RenameReport}

/-!
## Calls in order
-/

/-- Calls up to some point of the flow: those that make the branch ready see the files as they were,
those that publish it see the files as they are left. -/
inductive InOrder (request : RenameRequest) (push : PushRequest) (files after : FileSystem) :
    List Call → Prop where
  | preparing {tried : List (List String)} :
      tried <+: GitFlow.prepareCommands push.defaultBranch push.branch →
      InOrder request push files after (tried.map (GitFlow.callOf request.root files))
  | publishing {tried : List (List String)} :
      tried <+: GitFlow.publishCommands push.branch push.message →
      InOrder request push files after
        ((GitFlow.prepareCommands push.defaultBranch push.branch).map
            (GitFlow.callOf request.root files) ++
          tried.map (GitFlow.callOf request.root after))

theorem InOrder.commands (order : request.InOrder push files after calls) :
    calls.map Call.command <+: push.commands := by
  have all : push.commands = (GitFlow.prepareCommands push.defaultBranch push.branch ++
      GitFlow.publishCommands push.branch push.message).map (Command.mk "git") := rfl
  rw [all]
  cases order with
  | preparing before =>
      rw [GitFlow.map_command_callOf]
      exact (before.trans (List.prefix_append _ _)).map _
  | publishing before =>
      rw [List.map_append, GitFlow.map_command_callOf, GitFlow.map_command_callOf, ← List.map_append]
      exact ((List.prefix_append_right_inj _).mpr before).map _

theorem InOrder.folder (order : request.InOrder push files after calls) :
    ∀ call ∈ calls, call.folder = request.root := by
  cases order with
  | preparing before =>
      intro call member
      obtain ⟨arguments, -, rfl⟩ := List.mem_map.mp member
      rfl
  | publishing before =>
      intro call member
      rcases List.mem_append.mp member with member | member <;>
        obtain ⟨arguments, -, rfl⟩ := List.mem_map.mp member <;> rfl

theorem InOrder.seen (order : request.InOrder push files after calls) {number : Nat} {call : Call}
    (made : calls[number]? = some call) : call.files = if number < 3 then files else after := by
  cases order with
  | @preparing tried before =>
      have few : tried.length ≤ 3 := before.length_le
      obtain ⟨bound, -⟩ := List.getElem?_eq_some_iff.mp made
      rw [List.length_map] at bound
      obtain ⟨arguments, -, rfl⟩ := List.mem_map.mp (List.mem_of_getElem? made)
      rw [if_pos (by omega)]
      rfl
  | publishing before =>
      by_cases early : number < 3
      · rw [List.getElem?_append_left early] at made
        obtain ⟨arguments, -, rfl⟩ := List.mem_map.mp (List.mem_of_getElem? made)
        rw [if_pos early]
        rfl
      · rw [List.getElem?_append_right (Nat.le_of_not_lt early)] at made
        obtain ⟨arguments, -, rfl⟩ := List.mem_map.mp (List.mem_of_getElem? made)
        rw [if_neg early]
        rfl

/-!
## The first three calls
-/

section

variable (pushes : request.push = some push)

include pushes

theorem Ready.succeeds (ready : request.Ready runner files flow) :
    ∀ number < 3, Succeeds runner flow.calls number := by
  intro number early
  refine (ready.spec pushes).2.1 number ?_
  rw [ready.length_eq pushes]
  exact early

theorem Ready.still_succeeds (ready : request.Ready runner files flow) (later : List Call) :
    ∀ number < 3, Succeeds runner (flow.calls ++ later) number := by
  intro number early
  have made : number < flow.calls.length := by
    rw [ready.length_eq pushes]
    exact early
  exact (succeeds_append made).mpr (ready.succeeds pushes number early)

theorem Ready.no_fourth (ready : request.Ready runner files flow) : ¬ 3 < flow.calls.length := by
  rw [ready.length_eq pushes]
  exact Nat.lt_irrefl 3

theorem Applied.ran [PatternLibrary] (done : request.Applied runner files workbook flow report after) :
    ∃ collected, (request.collect files workbook).1 = .ok collected ∧
      applyRenamings files (collected.map LabelledRenaming.mapping) false = (.ok report, after) := by
  rw [← (done.ready.spec pushes).1]
  exact done.applied

/-- What is pushed is what the renamings of the request make of the files. -/
theorem Applied.report_eq [PatternLibrary] {collected : List LabelledRenaming} {other : RenameReport}
    {behind : FileSystem} (done : request.Applied runner files workbook flow report after)
    (found : (request.collect files workbook).1 = .ok collected)
    (applied : applyRenamings files (collected.map LabelledRenaming.mapping) false =
      (.ok other, behind)) : report = other := by
  obtain ⟨own, foundToo, result⟩ := done.ran pushes
  rw [found] at foundToo
  cases foundToo
  rw [applied] at result
  cases result
  rfl

end

theorem Ready.inOrder (pushes : request.push = some push)
    (ready : request.Ready runner files flow) : request.InOrder push files after flow.calls := by
  obtain ⟨-, -, -, calls⟩ := ready.spec pushes
  rw [calls]
  exact .preparing (List.prefix_refl _)

/-!
## Every way to go
-/

variable [PatternLibrary] (pushes : request.push = some push)
  (course : request.Course runner files workbook result after calls)

include pushes course

theorem Course.inOrder : request.InOrder push files after calls := by
  -- Only a command that fails, and the commands that publish, add calls of their own to those that
  -- made the branch ready.
  cases course with
  | refused _ _ => exact .preparing List.nil_prefix
  | unprepared own stops =>
      rw [pushes] at own
      cases own
      obtain ⟨tried, before, calls⟩ := stops.calls_eq
      rw [calls]
      exact .preparing before
  | unapplied ready _ _ => exact ready.inOrder pushes
  | unpushed done _ => exact done.ready.inOrder pushes
  | unnamed done _ _ _ => exact done.ready.inOrder pushes
  | unpublished done own _ stops =>
      rw [pushes] at own
      cases own
      obtain ⟨-, -, folder, first⟩ := done.ready.spec pushes
      obtain ⟨tried, before, calls⟩ := stops.calls_eq
      rw [calls, folder, first]
      exact .publishing before
  | published done own _ runs =>
      rw [pushes] at own
      cases own
      obtain ⟨-, -, folder, first⟩ := done.ready.spec pushes
      rw [runs.calls_eq.2, folder, first]
      exact .publishing (List.prefix_refl _)

/-- Calls all succeed, or the last one fails and the run with it. -/
theorem Course.answered : AllSucceed runner calls ∨
    ∃ failure, result = .error failure ∧ LastFails runner calls failure := by
  cases course with
  | refused _ _ => exact .inl .nil
  | unprepared _ stops => exact .inr ⟨_, rfl, stops.lastFails .nil⟩
  | unapplied ready _ _ => exact .inl (ready.spec pushes).2.1
  | unpushed done _ => exact .inl (done.ready.spec pushes).2.1
  | unnamed done _ _ _ => exact .inl (done.ready.spec pushes).2.1
  | unpublished done _ _ stops =>
      exact .inr ⟨_, rfl, stops.lastFails (done.ready.spec pushes).2.1⟩
  | published done _ _ runs => exact .inl (runs.allSucceed (done.ready.spec pushes).2.1)

theorem Course.prepared (accepted : request.Accepted push files workbook)
    (answered : AllSucceed runner (request.preparing push files)) :
    request.preparing push files <+: calls := by
  have made : ∀ {flow : GitFlow}, request.Ready runner files flow →
      request.preparing push files <+: flow.calls := by
    intro flow ready
    rw [(ready.spec pushes).2.2.2]
    exact List.prefix_refl _
  cases course with
  | refused _ never => exact absurd accepted (never push pushes)
  | @unprepared _ _ flow own stops =>
      -- Up to the call that failed, the calls are those that the runner answers.
      rw [pushes] at own
      cases own
      obtain ⟨number, early, failed⟩ := (stops.lastFails .nil).exists_not_succeeds
      obtain ⟨tried, before, calls⟩ := stops.calls_eq
      obtain ⟨later, whole⟩ := before.map (GitFlow.callOf request.root files)
      have first : request.preparing push files = flow.calls ++ later := by
        rw [preparing, ← whole, calls]
        rfl
      rw [first] at answered
      have late : number < (flow.calls ++ later).length := by
        rw [List.length_append]
        exact Nat.lt_add_right _ early
      exact absurd ((succeeds_append early).mp (answered number late)) failed
  | unapplied ready _ _ => exact made ready
  | unpushed done _ => exact made done.ready
  | unnamed done _ _ _ => exact made done.ready
  | unpublished done _ _ stops =>
      obtain ⟨tried, -, calls⟩ := stops.calls_eq
      rw [calls]
      exact (made done.ready).trans (List.prefix_append _ _)
  | published done _ _ runs =>
      rw [runs.calls_eq.2]
      exact (made done.ready).trans (List.prefix_append _ _)

theorem Course.written (changed : after ≠ files) : ∀ number < 3, Succeeds runner calls number := by
  cases course with
  | refused _ _ => exact absurd rfl changed
  | unprepared _ _ => exact absurd rfl changed
  | unapplied ready _ _ => exact ready.succeeds pushes
  | unpushed done _ => exact done.ready.succeeds pushes
  | unnamed done _ _ _ => exact done.ready.succeeds pushes
  | unpublished done _ _ stops =>
      obtain ⟨tried, -, calls⟩ := stops.calls_eq
      rw [calls]
      exact done.ready.still_succeeds pushes _
  | published done _ _ runs =>
      rw [runs.calls_eq.2]
      exact done.ready.still_succeeds pushes _

theorem Course.fourth (more : 3 < calls.length) : ∃ collected report,
    (request.collect files workbook).1 = .ok collected ∧
      applyRenamings files (collected.map LabelledRenaming.mapping) false = (.ok report, after) ∧
      ∃ outcome ∈ report.outcomes, outcome.changed = true := by
  cases course with
  | refused _ _ => exact absurd more (Nat.not_lt_zero 3)
  | unprepared own stops => exact absurd more (Nat.not_lt.mpr stops.length_le)
  | unapplied ready _ _ => exact absurd more (ready.no_fourth pushes)
  | unpushed done _ => exact absurd more (done.ready.no_fourth pushes)
  | unnamed done _ _ _ => exact absurd more (done.ready.no_fourth pushes)
  | unpublished done _ changed _ =>
      obtain ⟨collected, found, result⟩ := done.ran pushes
      exact ⟨collected, _, found, result, changed⟩
  | published done _ changed _ =>
      obtain ⟨collected, found, result⟩ := done.ran pushes
      exact ⟨collected, _, found, result, changed⟩

theorem Course.idle (ready : ∀ number < 3, Succeeds runner calls number)
    {collected : List LabelledRenaming} {behind : FileSystem}
    (found : (request.collect files workbook).1 = .ok collected)
    (applied : applyRenamings files (collected.map LabelledRenaming.mapping) false =
      (.ok report, behind))
    (same : ∀ outcome ∈ report.outcomes, outcome.changed = false) :
    calls.length = 3 ∧ ∃ items, result = .ok items := by
  have unchanged : ∀ {flow : GitFlow} {other : RenameReport},
      request.Applied runner files workbook flow other after →
      ¬ ∃ outcome ∈ other.outcomes, outcome.changed = true := by
    intro flow other done
    rw [done.report_eq pushes found applied]
    rintro ⟨outcome, member, changed⟩
    rw [same outcome member] at changed
    cases changed
  cases course with
  | refused _ _ =>
      obtain ⟨call, output, none, -⟩ := ready 0 (by decide)
      cases none
  | unprepared own stops =>
      -- The call that failed is one of the first three.
      obtain ⟨number, made, failed⟩ := (stops.lastFails .nil).exists_not_succeeds
      exact absurd (ready number (Nat.lt_of_lt_of_le made stops.length_le)) failed
  | unapplied readyToo foundToo failed =>
      rw [found] at foundToo
      cases foundToo
      rw [(readyToo.spec pushes).1, applied] at failed
      cases failed
  | unpushed done _ => exact ⟨done.ready.length_eq pushes, _, rfl⟩
  | unnamed done _ changed _ => exact absurd changed (unchanged done)
  | unpublished done _ changed _ => exact absurd changed (unchanged done)
  | published done _ changed _ => exact absurd changed (unchanged done)

theorem Course.orderly (notices : List Notice) :
    RenameRun.Orderly ⟨result, after, calls, notices⟩ request push runner files workbook where
  commands := (course.inOrder pushes).commands
  folder := (course.inOrder pushes).folder
  prepared := course.prepared pushes
  failing number call complaint made answer := by
    rcases course.answered pushes with all | ⟨failure, rfl, stopped⟩
    · obtain ⟨bound, -⟩ := List.getElem?_eq_some_iff.mp made
      exact absurd (all number bound) (not_succeeds made answer)
    · obtain ⟨length, rfl⟩ := stopped.eq_of_error made answer
      exact ⟨length, rfl⟩
  seen number call made := (course.inOrder pushes).seen made
  written := course.written pushes
  fourth := course.fourth pushes
  idle ready collected report behind found applied same :=
    course.idle pushes ready found applied same

omit pushes in
theorem Course.no_calls (none : request.push = none) : calls = [] := by
  have start : ∀ {flow : GitFlow}, request.Ready runner files flow → flow.calls = [] := by
    intro flow ready
    rw [Ready, none] at ready
    rw [ready, GitFlow.start]
  cases course with
  | refused _ _ => rfl
  | unprepared own _ =>
      rw [none] at own
      cases own
  | unapplied ready _ _ => exact start ready
  | unpushed done _ => exact start done.ready
  | unnamed done _ _ _ => exact start done.ready
  | unpublished _ own _ _ =>
      rw [none] at own
      cases own
  | published _ own _ _ =>
      rw [none] at own
      cases own

end RenameRequest

/-- A renaming without a push request calls nothing, and one with a push request calls git in order
around its changes to files. Of the runner it is assumed that it has no file effect and command
failures only. -/
theorem runRename_in_order [PatternLibrary] (request : RenameRequest) (runner : CommandRunner)
    (files : FileSystem) (workbook : Workbook) :
    let run := runRename request runner files workbook
    match request.push with
    | none => run.calls = []
    | some push => run.Orderly request push runner files workbook := by
  have course := runRename_course request runner files workbook
  split
  · next none => exact course.no_calls none
  · next push pushes => exact course.orderly pushes _

end SqlColumns
