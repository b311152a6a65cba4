import SqlColumns.Git.Flow

/-!
# Commands of git

A part of the flow is a chain of commands that succeed, or such a chain before one that fails. Either
way the calls are recorded in the order in which they were made, and none is made behind one that
failed.
-/

set_option autoImplicit false

namespace SqlColumns

def Succeeds (runner : CommandRunner) (calls : List Call) (number : Nat) : Prop :=
  ∃ call output, calls[number]? = some call ∧ runner (calls.take number) call = .ok output

def AllSucceed (runner : CommandRunner) (calls : List Call) : Prop :=
  ∀ number < calls.length, Succeeds runner calls number

/-- The last call failed, which is the failure, and every call before it succeeded. -/
def LastFails (runner : CommandRunner) (calls : List Call) (failure : Failure) : Prop :=
  ∃ earlier call complaint, calls = earlier ++ [call] ∧ AllSucceed runner earlier ∧
    runner earlier call = .error complaint ∧
    failure = .commandFailed call.command.line complaint

section Calls

variable {runner : CommandRunner} {calls later : List Call} {call : Call} {complaint : String}
  {output : CommandOutput} {failure : Failure} {number : Nat}

theorem succeeds_append (made : number < calls.length) :
    Succeeds runner (calls ++ later) number ↔ Succeeds runner calls number := by
  unfold Succeeds
  rw [List.getElem?_append_left made, List.take_append_of_le_length (Nat.le_of_lt made)]

theorem AllSucceed.nil : AllSucceed runner [] :=
  fun number made => absurd made (Nat.not_lt_zero number)

theorem not_succeeds (made : calls[number]? = some call)
    (answer : runner (calls.take number) call = .error complaint) :
    ¬ Succeeds runner calls number := by
  rintro ⟨other, output, same, success⟩
  rw [made] at same
  cases same
  rw [answer] at success
  cases success

theorem AllSucceed.snoc (all : AllSucceed runner calls) (answer : runner calls call = .ok output) :
    AllSucceed runner (calls ++ [call]) := by
  intro number made
  rw [List.length_append, List.length_singleton] at made
  rcases Nat.lt_succ_iff_lt_or_eq.mp made with earlier | rfl
  · exact (succeeds_append earlier).mpr (all number earlier)
  · exact ⟨call, output, by simp, by simpa using answer⟩

/-- A call that fails is the last one. -/
theorem LastFails.eq_of_error (stopped : LastFails runner calls failure)
    (made : calls[number]? = some call) (answer : runner (calls.take number) call = .error complaint) :
    calls.length = number + 1 ∧ failure = .commandFailed call.command.line complaint := by
  obtain ⟨earlier, last, reason, rfl, all, failed, rfl⟩ := stopped
  obtain ⟨bound, -⟩ := List.getElem?_eq_some_iff.mp made
  rw [List.length_append, List.length_singleton] at bound
  rcases Nat.lt_succ_iff_lt_or_eq.mp bound with before | rfl
  · exact absurd ((succeeds_append before).mpr (all number before)) (not_succeeds made answer)
  · obtain rfl : last = call := by simpa using made
    simp only [List.take_left', failed, Except.error.injEq] at answer
    exact ⟨by simp, by rw [answer]⟩

/-- Some call did not succeed. -/
theorem LastFails.exists_not_succeeds (stopped : LastFails runner calls failure) :
    ∃ number < calls.length, ¬ Succeeds runner calls number := by
  obtain ⟨earlier, call, complaint, rfl, -, failed, -⟩ := stopped
  have last : (earlier ++ [call])[earlier.length]? = some call := by simp
  exact ⟨earlier.length, by simp, not_succeeds last (by simpa using failed)⟩

end Calls

namespace GitFlow

def callOf (folder : Path) (files : FileSystem) (arguments : List String) : Call :=
  ⟨⟨"git", arguments⟩, folder, files⟩

theorem map_command_callOf (folder : Path) (files : FileSystem) (commands : List (List String)) :
    (commands.map (callOf folder files)).map Call.command = commands.map (Command.mk "git") := by
  rw [List.map_map]
  rfl

variable {runner : CommandRunner} {files : FileSystem} {flow next last : GitFlow}
  {arguments : List String} {commands : List (List String)} {failure : Failure}

/-!
## One command
-/

theorem run_eq :
    run runner files flow arguments =
      match runner flow.calls (callOf flow.folder files arguments) with
      | .error complaint => (.error (.commandFailed (Command.line ⟨"git", arguments⟩) complaint),
          ⟨flow.folder, flow.calls ++ [callOf flow.folder files arguments], flow.steps⟩)
      | .ok output => (.ok (), ⟨flow.folder, flow.calls ++ [callOf flow.folder files arguments],
          flow.steps ++ [⟨⟨"git", arguments⟩, output⟩]⟩) :=
  rfl

theorem run_eq_ok_iff :
    run runner files flow arguments = (.ok (), next) ↔ ∃ output,
      runner flow.calls (callOf flow.folder files arguments) = .ok output ∧
        next = ⟨flow.folder, flow.calls ++ [callOf flow.folder files arguments],
          flow.steps ++ [⟨⟨"git", arguments⟩, output⟩]⟩ := by
  rw [run_eq]
  cases answer : runner flow.calls (callOf flow.folder files arguments) with
  | error complaint => simp
  | ok output => simp [eq_comm]

theorem run_eq_error_iff :
    run runner files flow arguments = (.error failure, next) ↔ ∃ complaint,
      runner flow.calls (callOf flow.folder files arguments) = .error complaint ∧
        failure = .commandFailed (Command.line ⟨"git", arguments⟩) complaint ∧
        next = ⟨flow.folder, flow.calls ++ [callOf flow.folder files arguments], flow.steps⟩ := by
  rw [run_eq]
  cases answer : runner flow.calls (callOf flow.folder files arguments) with
  | error complaint => simp [eq_comm]
  | ok output => simp

/-!
## Commands in order
-/

inductive Runs (runner : CommandRunner) (files : FileSystem) :
    GitFlow → List (List String) → GitFlow → Prop where
  | done {flow : GitFlow} : Runs runner files flow [] flow
  | step {flow next last : GitFlow} {arguments : List String} {rest : List (List String)} :
      run runner files flow arguments = (.ok (), next) →
      Runs runner files next rest last →
      Runs runner files flow (arguments :: rest) last

def Stops (runner : CommandRunner) (files : FileSystem) (flow : GitFlow)
    (commands : List (List String)) (failure : Failure) (last : GitFlow) : Prop :=
  ∃ before arguments behind middle, commands = before ++ arguments :: behind ∧
    Runs runner files flow before middle ∧
    run runner files middle arguments = (.error failure, last)

theorem runAll_eq_ok_iff :
    runAll runner files flow commands = (.ok (), last) ↔ Runs runner files flow commands last := by
  induction commands generalizing flow with
  | nil =>
      constructor
      · intro result
        obtain rfl := (Prod.mk.inj result).2
        exact .done
      · intro runs
        cases runs
        rfl
  | cons arguments rest ih =>
      constructor
      · intro result
        unfold runAll at result
        split at result
        · simp at result
        · next answer next first => exact .step first (ih.mp result)
      · intro runs
        cases runs with
        | step first others =>
            rw [runAll, first]
            exact ih.mpr others

theorem runAll_eq_error_iff :
    runAll runner files flow commands = (.error failure, last) ↔
      Stops runner files flow commands failure last := by
  induction commands generalizing flow with
  | nil => simp [runAll, Stops]
  | cons arguments rest ih =>
      constructor
      · intro result
        unfold runAll at result
        split at result
        · next cause next first =>
            obtain ⟨same, rfl⟩ := Prod.mk.inj result
            cases same
            exact ⟨[], arguments, rest, flow, rfl, .done, first⟩
        · next answer next first =>
            obtain ⟨before, failed, behind, middle, rfl, runs, stop⟩ := ih.mp result
            exact ⟨arguments :: before, failed, behind, middle, rfl, .step first runs, stop⟩
      · rintro ⟨before, failed, behind, middle, split, runs, stop⟩
        cases runs with
        | done =>
            obtain ⟨rfl, rfl⟩ := List.cons.inj split
            rw [runAll, stop]
        | step first others =>
            obtain ⟨rfl, rfl⟩ := List.cons.inj split
            rw [runAll, first]
            exact ih.mpr ⟨_, failed, behind, middle, rfl, others, stop⟩

/-- Commands that succeed are called in order, in the folder of the flow. -/
theorem Runs.calls_eq (runs : Runs runner files flow commands last) :
    last.folder = flow.folder ∧
      last.calls = flow.calls ++ commands.map (callOf flow.folder files) := by
  induction runs with
  | done => exact ⟨rfl, (List.append_nil _).symm⟩
  | step first others ih =>
      obtain ⟨output, -, rfl⟩ := run_eq_ok_iff.mp first
      obtain ⟨folder, calls⟩ := ih
      exact ⟨folder, by rw [calls, List.map_cons, ← List.append_cons]⟩

theorem Runs.allSucceed (runs : Runs runner files flow commands last)
    (before : AllSucceed runner flow.calls) : AllSucceed runner last.calls := by
  induction runs with
  | done => exact before
  | step first others ih =>
      obtain ⟨output, answer, rfl⟩ := run_eq_ok_iff.mp first
      exact ih (before.snoc answer)

/-- When a command fails, those behind it are not called. -/
theorem Stops.calls_eq (stops : Stops runner files flow commands failure last) :
    ∃ tried, tried <+: commands ∧
      last.calls = flow.calls ++ tried.map (callOf flow.folder files) := by
  obtain ⟨before, arguments, behind, middle, rfl, runs, stop⟩ := stops
  obtain ⟨folder, calls⟩ := runs.calls_eq
  obtain ⟨complaint, -, -, rfl⟩ := run_eq_error_iff.mp stop
  exact ⟨before ++ [arguments], ⟨behind, by simp⟩, by simp [folder, calls]⟩

theorem Stops.length_le (stops : Stops runner files flow commands failure last) :
    last.calls.length ≤ flow.calls.length + commands.length := by
  obtain ⟨tried, before, calls⟩ := stops.calls_eq
  rw [calls, List.length_append, List.length_map]
  exact Nat.add_le_add_left before.length_le _

theorem Stops.lastFails (stops : Stops runner files flow commands failure last)
    (before : AllSucceed runner flow.calls) : LastFails runner last.calls failure := by
  obtain ⟨earlier, arguments, behind, middle, -, runs, stop⟩ := stops
  obtain ⟨complaint, answer, rfl, rfl⟩ := run_eq_error_iff.mp stop
  exact ⟨middle.calls, _, complaint, rfl, runs.allSucceed before, answer, rfl⟩

/-!
## Parts of the flow
-/

theorem eq_of_check_error {name : String} (failed : Branch.check name = .error failure) :
    failure = .badBranch name := by
  unfold Branch.check at failed
  split at failed <;> cases failed
  rfl

variable {base branch message : String}

theorem prepare_eq_ok_iff :
    prepare runner files flow base branch = (.ok (), last) ↔
      Branch.check base = .ok () ∧ Branch.check branch = .ok () ∧
        Runs runner files flow (prepareCommands base branch) last := by
  unfold prepare
  cases Branch.check base with
  | error failure => simp
  | ok _ =>
      cases Branch.check branch with
      | error failure => simp
      | ok _ => simp [runAll_eq_ok_iff]

theorem prepare_eq_error_iff :
    prepare runner files flow base branch = (.error failure, last) ↔
      (last = flow ∧ (Branch.check base = .error failure ∨
        Branch.check base = .ok () ∧ Branch.check branch = .error failure)) ∨
      Branch.check base = .ok () ∧ Branch.check branch = .ok () ∧
        Stops runner files flow (prepareCommands base branch) failure last := by
  unfold prepare
  cases Branch.check base with
  | error failure => simp [and_comm, eq_comm]
  | ok _ =>
      cases Branch.check branch with
      | error failure => simp [and_comm, eq_comm]
      | ok _ => simp [runAll_eq_error_iff]

theorem publish_eq_ok_iff :
    publish runner files flow branch message = (.ok (), last) ↔
      Branch.check branch = .ok () ∧ Text.isBlankString message = false ∧
        Runs runner files flow (publishCommands branch message) last := by
  unfold publish
  cases Branch.check branch with
  | error failure => simp
  | ok _ =>
      cases Text.isBlankString message with
      | true => simp
      | false => simp [runAll_eq_ok_iff]

theorem publish_eq_error_iff :
    publish runner files flow branch message = (.error failure, last) ↔
      (last = flow ∧ (Branch.check branch = .error failure ∨
        Branch.check branch = .ok () ∧ Text.isBlankString message = true ∧
          failure = .emptyMessage)) ∨
      Branch.check branch = .ok () ∧ Text.isBlankString message = false ∧
        Stops runner files flow (publishCommands branch message) failure last := by
  unfold publish
  cases Branch.check branch with
  | error cause =>
      simp only [Prod.mk.injEq, Except.error.injEq, reduceCtorEq, false_and, or_false]
      constructor <;> rintro ⟨rfl, rfl⟩ <;> exact ⟨rfl, rfl⟩
  | ok _ =>
      cases Text.isBlankString message with
      | true =>
          simp only [if_true, Prod.mk.injEq, Except.error.injEq, reduceCtorEq, true_and, false_and,
            and_false, false_or, or_false]
          constructor <;> rintro ⟨rfl, rfl⟩ <;> exact ⟨rfl, rfl⟩
      | false => simp [runAll_eq_error_iff]

end GitFlow

end SqlColumns
