import SqlColumns.Git.Branch
import SqlColumns.Git.Command

/-!
# The steps of git around a renaming

Before files are renamed, local edits are stashed and a branch is created from the default branch;
afterwards everything is committed and pushed. Names and messages are checked before the first
command of a part runs, and the first command that fails ends the part.
-/

set_option autoImplicit false

namespace SqlColumns

/-- A command that succeeded, and what it printed. -/
structure GitStep where
  command : Command
  output : CommandOutput
  deriving DecidableEq, Repr

/-- The calls made in a repository and the steps that succeeded, in order. -/
structure GitFlow where
  folder : Path
  calls : List Call
  steps : List GitStep
  deriving Repr

namespace GitFlow

def start (folder : Path) : GitFlow := ⟨folder, [], []⟩

def prepareCommands (defaultBranch branch : String) : List (List String) :=
  [["stash"], ["checkout", defaultBranch], ["checkout", "-b", branch]]

def publishCommands (branch message : String) : List (List String) :=
  [["add", "."], ["commit", "-m", message], ["push", "origin", branch]]

def run (runner : CommandRunner) (files : FileSystem) (flow : GitFlow) (arguments : List String) :
    Except Failure Unit × GitFlow :=
  let command : Command := ⟨"git", arguments⟩
  let call : Call := ⟨command, flow.folder, files⟩
  let called := { flow with calls := flow.calls ++ [call] }
  match runner flow.calls call with
  | .error complaint => (.error (.commandFailed command.line complaint), called)
  | .ok output => (.ok (), { called with steps := flow.steps ++ [⟨command, output⟩] })

/-- Runs commands of git in order up to the first one that fails. -/
def runAll (runner : CommandRunner) (files : FileSystem) (flow : GitFlow) :
    List (List String) → Except Failure Unit × GitFlow
  | [] => (.ok (), flow)
  | arguments :: rest =>
      match run runner files flow arguments with
      | (.error failure, after) => (.error failure, after)
      | (.ok _, after) => runAll runner files after rest

/-- Stashes local edits, checks out the default branch and creates a branch from it. -/
def prepare (runner : CommandRunner) (files : FileSystem) (flow : GitFlow)
    (defaultBranch branch : String) : Except Failure Unit × GitFlow :=
  match Branch.check defaultBranch with
  | .error failure => (.error failure, flow)
  | .ok _ =>
      match Branch.check branch with
      | .error failure => (.error failure, flow)
      | .ok _ => runAll runner files flow (prepareCommands defaultBranch branch)

/-- Stages everything, commits it under a message that is not blank and pushes the branch. -/
def publish (runner : CommandRunner) (files : FileSystem) (flow : GitFlow)
    (branch message : String) : Except Failure Unit × GitFlow :=
  match Branch.check branch with
  | .error failure => (.error failure, flow)
  | .ok _ =>
      if Text.isBlankString message then (.error .emptyMessage, flow)
      else runAll runner files flow (publishCommands branch message)

end GitFlow

end SqlColumns
