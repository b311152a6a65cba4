import Mathlib.Data.List.Basic
import SqlColumns.Proofs.Git.Flow

/-!
# Histories of a flow

A flow can make branches ready and publish them any number of times, in any order. Whatever was
refused and whatever failed before, its steps are the calls that succeeded, each with what it printed.
-/

set_option autoImplicit false

namespace SqlColumns

/-!
## Calls that succeeded
-/

def answer? (runner : CommandRunner) (calls : List Call) (number : Nat) :
    Option (Call × CommandOutput) :=
  calls[number]?.bind fun call =>
    (runner (calls.take number) call).toOption.map fun output => (call, output)

def answered (runner : CommandRunner) (calls : List Call) : List (Call × CommandOutput) :=
  (List.range calls.length).filterMap (answer? runner calls)

theorem answer?_append {runner : CommandRunner} {calls : List Call} {number : Nat}
    (made : number < calls.length) (later : List Call) :
    answer? runner (calls ++ later) number = answer? runner calls number := by
  rw [answer?, answer?, List.getElem?_append_left made,
    List.take_append_of_le_length (Nat.le_of_lt made)]

/-- A further call leaves the answers to those before it as they are. -/
theorem answered_snoc (runner : CommandRunner) (calls : List Call) (call : Call) :
    answered runner (calls ++ [call]) = answered runner calls ++
      ((runner calls call).toOption.map fun output => (call, output)).toList := by
  have earlier : (List.range calls.length).filterMap (answer? runner (calls ++ [call])) =
      answered runner calls :=
    List.filterMap_congr fun number made => answer?_append (List.mem_range.mp made) [call]
  have last : answer? runner (calls ++ [call]) calls.length =
      (runner calls call).toOption.map fun output => (call, output) := by
    simp [answer?]
  rw [answered, List.length_append, List.length_singleton, List.range_succ, List.filterMap_append,
    earlier, List.filterMap_cons, last, List.filterMap_nil]
  cases (runner calls call).toOption <;> rfl

namespace GitFlow

/-!
## Parts
-/

inductive Part where
  | prepare (defaultBranch branch : String)
  | publish (branch message : String)
  deriving DecidableEq, Repr

namespace Part

def Accepted : Part → Prop
  | .prepare base branch =>
      Branch.accepted base.toList = true ∧ Branch.accepted branch.toList = true
  | .publish branch message =>
      Branch.accepted branch.toList = true ∧ Text.isBlankString message = false

instance (part : Part) : Decidable part.Accepted := by
  cases part <;> exact inferInstanceAs (Decidable (_ ∧ _))

/-- What is said of a part that is not accepted: its first bad name, or else its blank message. -/
def refusal : Part → Failure
  | .prepare base branch => .badBranch (if Branch.accepted base.toList then branch else base)
  | .publish branch _ =>
      if Branch.accepted branch.toList then .emptyMessage else .badBranch branch

def commands : Part → List (List String)
  | .prepare base branch => prepareCommands base branch
  | .publish branch message => publishCommands branch message

def perform (runner : CommandRunner) (files : FileSystem) (flow : GitFlow) :
    Part → Except Failure Unit × GitFlow
  | .prepare base branch => flow.prepare runner files base branch
  | .publish branch message => flow.publish runner files branch message

/-- A part that is accepted runs its commands, and any other one does nothing. -/
theorem perform_eq (runner : CommandRunner) (files : FileSystem) (flow : GitFlow) (part : Part) :
    part.perform runner files flow =
      if part.Accepted then runAll runner files flow part.commands
      else (.error part.refusal, flow) := by
  have check : ∀ name : String, Branch.check name =
      if Branch.accepted name.toList then .ok () else .error (.badBranch name) := fun _ => rfl
  cases part with
  | prepare base branch =>
      change GitFlow.prepare runner files flow base branch = _
      unfold GitFlow.prepare
      rw [check, check]
      by_cases first : Branch.accepted base.toList = true
      · by_cases second : Branch.accepted branch.toList = true
        · simp only [first, second, if_true]
          exact (if_pos ⟨first, second⟩).symm
        · have rejected : ¬ (Part.prepare base branch).Accepted := fun both => second both.2
          simp only [first, second, if_true, if_false, Bool.false_eq_true, if_neg rejected, refusal]
      · have rejected : ¬ (Part.prepare base branch).Accepted := fun both => first both.1
        simp only [first, Bool.false_eq_true, if_false, if_neg rejected, refusal]
  | publish branch message =>
      change GitFlow.publish runner files flow branch message = _
      unfold GitFlow.publish
      rw [check]
      by_cases named : Branch.accepted branch.toList = true
      · cases blank : Text.isBlankString message with
        | true =>
            have rejected : ¬ (Part.publish branch message).Accepted := fun both => by
              rw [both.2] at blank
              cases blank
            simp only [named, if_true, if_neg rejected, refusal]
        | false =>
            simp only [named, if_true, Bool.false_eq_true, if_false]
            exact (if_pos ⟨named, blank⟩).symm
      · have rejected : ¬ (Part.publish branch message).Accepted := fun both => named both.1
        simp only [named, Bool.false_eq_true, if_false, if_neg rejected, refusal]

inductive Effect (part : Part) (runner : CommandRunner) (files : FileSystem) (flow : GitFlow) :
    Except Failure Unit → GitFlow → Prop where
  /-- A part that is not accepted leaves the calls and the steps as they are. -/
  | refused :
      ¬ part.Accepted → Effect part runner files flow (.error part.refusal) flow
  /-- A command that fails is the last one that is called, and those before it have become steps. -/
  | stopped {done skipped : List (List String)} {failing : List String} {added : List GitStep}
      {complaint : String} :
      part.Accepted →
      part.commands = done ++ failing :: skipped →
      runner (flow.calls ++ done.map (callOf flow.folder files))
        (callOf flow.folder files failing) = .error complaint →
      added.map GitStep.command = done.map (Command.mk "git") →
      Effect part runner files flow
        (.error (.commandFailed (Command.line ⟨"git", failing⟩) complaint))
        ⟨flow.folder, flow.calls ++ (done ++ [failing]).map (callOf flow.folder files),
          flow.steps ++ added⟩
  /-- All three commands have become steps. -/
  | completed {added : List GitStep} :
      part.Accepted →
      added.map GitStep.command = part.commands.map (Command.mk "git") →
      added.length = 3 →
      Effect part runner files flow (.ok ())
        ⟨flow.folder, flow.calls ++ part.commands.map (callOf flow.folder files),
          flow.steps ++ added⟩

end Part

/-!
## What a part adds
-/

section Steps

variable {runner : CommandRunner} {files : FileSystem} {flow last : GitFlow}
  {commands : List (List String)} {failure : Failure}

/-- Commands that succeed are called in order and add a step each. -/
theorem Runs.eq_added (runs : Runs runner files flow commands last) :
    ∃ added, added.map GitStep.command = commands.map (Command.mk "git") ∧
      last = ⟨flow.folder, flow.calls ++ commands.map (callOf flow.folder files),
        flow.steps ++ added⟩ := by
  induction runs with
  | @done flow => exact ⟨[], rfl, by simp⟩
  | @step flow next last arguments rest first others ih =>
      obtain ⟨output, -, rfl⟩ := run_eq_ok_iff.mp first
      obtain ⟨added, same, rfl⟩ := ih
      exact ⟨⟨⟨"git", arguments⟩, output⟩ :: added, by simp [same], by simp⟩

theorem Runs.steps_eq (runs : Runs runner files flow commands last) :
    ∃ added, added.map GitStep.command = commands.map (Command.mk "git") ∧
      last.steps = flow.steps ++ added := by
  obtain ⟨added, same, rfl⟩ := runs.eq_added
  exact ⟨added, same, rfl⟩

theorem Part.effect_perform (part : Part) (runner : CommandRunner) (files : FileSystem)
    (flow : GitFlow) :
    part.Effect runner files flow (part.perform runner files flow).1
      (part.perform runner files flow).2 := by
  rw [Part.perform_eq]
  by_cases accepted : part.Accepted
  · rw [if_pos accepted]
    cases result : runAll runner files flow part.commands with
    | mk produced last =>
        cases produced with
        | error failure =>
            obtain ⟨done, failing, skipped, middle, parts, runs, stop⟩ :=
              runAll_eq_error_iff.mp result
            obtain ⟨added, same, rfl⟩ := runs.eq_added
            obtain ⟨complaint, answer, rfl, rfl⟩ := run_eq_error_iff.mp stop
            have whole : part.Effect runner files flow _ _ := .stopped accepted parts answer same
            rwa [List.map_append, ← List.append_assoc] at whole
        | ok answer =>
            obtain ⟨added, same, rfl⟩ := (runAll_eq_ok_iff.mp result).eq_added
            have three : added.length = 3 := by
              rw [← List.length_map GitStep.command, same]
              cases part <;> rfl
            exact .completed accepted same three
  · rw [if_neg accepted]
    exact .refused accepted

end Steps

/-!
## Faithful steps
-/

/-- The steps of a flow are the calls that succeeded, in order, each with its command and what it
printed. All calls are made to git in one directory. -/
structure Faithful (runner : CommandRunner) (repository : Path) (flow : GitFlow) : Prop where
  folder : flow.folder = repository
  calls : ∀ call ∈ flow.calls, call.command.program = "git" ∧ call.folder = repository
  steps : flow.steps = (answered runner flow.calls).map fun one => ⟨one.1.command, one.2⟩

namespace Faithful

variable {runner : CommandRunner} {repository : Path} {flow : GitFlow}

theorem start (runner : CommandRunner) (repository : Path) :
    Faithful runner repository (.start repository) :=
  ⟨rfl, by simp [GitFlow.start], rfl⟩

theorem run (faithful : Faithful runner repository flow) (files : FileSystem)
    (arguments : List String) :
    Faithful runner repository (flow.run runner files arguments).2 := by
  have calls : ∀ call ∈ flow.calls ++ [callOf flow.folder files arguments],
      call.command.program = "git" ∧ call.folder = repository := by
    intro call member
    rcases List.mem_append.mp member with before | new
    · exact faithful.calls call before
    · rw [List.mem_singleton.mp new]
      exact ⟨rfl, faithful.folder⟩
  have more := answered_snoc runner flow.calls (callOf flow.folder files arguments)
  rw [run_eq]
  cases answer : runner flow.calls (callOf flow.folder files arguments) with
  | error complaint =>
      refine ⟨faithful.folder, calls, ?_⟩
      simp [more, answer, faithful.steps, Except.toOption]
  | ok output =>
      refine ⟨faithful.folder, calls, ?_⟩
      rw [more, answer, List.map_append, ← faithful.steps]
      rfl

theorem runAll (faithful : Faithful runner repository flow) (files : FileSystem)
    (commands : List (List String)) :
    Faithful runner repository (flow.runAll runner files commands).2 := by
  induction commands generalizing flow with
  | nil => exact faithful
  | cons arguments rest ih =>
      have first := faithful.run files arguments
      unfold GitFlow.runAll
      split
      · next failure next stopped =>
          rw [stopped] at first
          exact first
      · next answer next went =>
          rw [went] at first
          exact ih first

theorem runs {files : FileSystem} {commands : List (List String)} {last : GitFlow}
    (faithful : Faithful runner repository flow) (runs : Runs runner files flow commands last) :
    Faithful runner repository last := by
  have behind := faithful.runAll files commands
  rwa [runAll_eq_ok_iff.mpr runs] at behind

theorem perform (faithful : Faithful runner repository flow) (files : FileSystem) (part : Part) :
    Faithful runner repository (part.perform runner files flow).2 := by
  rw [Part.perform_eq]
  split
  · exact faithful.runAll files part.commands
  · exact faithful

end Faithful

/-- A flow behind a history of parts, each with the files that its commands see. -/
def performAll (runner : CommandRunner) (flow : GitFlow) (history : List (FileSystem × Part)) :
    GitFlow :=
  history.foldl (fun flow one => (one.2.perform runner one.1 flow).2) flow

theorem Faithful.performAll {runner : CommandRunner} {repository : Path} {flow : GitFlow}
    (faithful : Faithful runner repository flow) (history : List (FileSystem × Part)) :
    Faithful runner repository (flow.performAll runner history) := by
  induction history generalizing flow with
  | nil => exact faithful
  | cons one rest ih => exact ih (faithful.perform one.1 one.2)

/-- Behind any history the steps of a flow are the calls that succeeded, each with the line of its
command and what it printed. A further part that is not accepted changes nothing, one with a command
that fails adds the steps before this command and calls nothing behind it, and any other one adds its
three steps. Of the runner command failures only are assumed. -/
theorem performAll_records (runner : CommandRunner) (repository : Path)
    (history : List (FileSystem × Part)) :
    let flow := performAll runner (.start repository) history
    Faithful runner repository flow ∧
      flow.steps.map (fun step => (step.command.line, step.output)) =
        (answered runner flow.calls).map (fun one =>
          (" ".intercalate (one.1.command.program :: one.1.command.arguments), one.2)) ∧
      ∀ (files : FileSystem) (part : Part), part.Effect runner files flow
        (part.perform runner files flow).1 (part.perform runner files flow).2 := by
  intro flow
  have faithful : Faithful runner repository flow :=
    (Faithful.start runner repository).performAll history
  refine ⟨faithful, ?_, fun files part => part.effect_perform runner files flow⟩
  rw [faithful.steps, List.map_map]
  rfl

/-- The second call fails, so the branch is made ready again; a blank message is refused. -/
example :
    let files : FileSystem := ⟨[], [], [], by decide⟩
    let script : Script := ⟨some 1, "no such branch", []⟩
    let history : List (FileSystem × Part) :=
      [(files, .prepare "main" "b"), (files, .publish "b" " "), (files, .prepare "main" "b")]
    ((performAll script.runner (.start ⟨"/"⟩) history).steps.map fun step => step.command.line) =
      ["git stash", "git stash", "git checkout main", "git checkout -b b"] := by
  decide +kernel

end GitFlow

end SqlColumns
