import SqlColumns.Shell.Entries
import SqlColumns.Shell.Signals
import SqlColumns.Shell.Syntax

/-!
# Running scripts

A running script knows its files, its variables, functions and arguments, where what it writes goes
and what it reads comes from, and how its last command ended. A part of a run may end the parts
around it: a loop, a function, or the whole script.
-/

set_option autoImplicit false

namespace SqlColumns.Shell

namespace Script

/-- Where a number of a process leads: to what is collected under a number, to a file, to what is
read under a number, to nowhere, or to where nothing fits. -/
inductive Channel where
  | output (number : Nat)
  | file (location : Location)
  | feed (number : Nat)
  | nowhere
  | full
  deriving DecidableEq, Repr

/-- A variable: its text if it has one, whether processes get it, and whether it stays as it is. -/
structure Variable where
  text : Option String
  exported : Bool
  fixed : Bool
  deriving DecidableEq, Repr

/-- Why a part of a run does not go on: the script ends, ends because of a fault or is killed, or a
number of loops or a function is left, or loops begin again. -/
inductive Jump where
  | ended
  | fault
  | killed (signal : Nat)
  | leave (loops : Nat)
  | again (loops : Nat)
  | back
  deriving DecidableEq, Repr

/-- A job as the process knows it that has started it: its place among the jobs of the process, its
number among all jobs, and whether it has been waited for. -/
structure Job where
  place : Nat
  number : Nat
  waited : Bool
  deriving DecidableEq, Repr

/-- What a process of a script has of its own. The directory is known by the path that led to it,
`command` is the builtin that runs, `frames` hold the variables that functions hide, `known` the
names of programs that have been looked up, and `place` where reading options stopped: the number of
the next word, and how much of the one before it is read. `job` is the number of the job that it
belongs to, or zero, `jobs` are those that it has started, the latest first, `latest` is the last
one of them, and `reaped` are those of which it knows that they are over. -/
structure Own where
  folder : String
  channels : List (Nat × Channel)
  values : List (String × Variable)
  functions : List (String × Tree)
  arguments : List String
  command : Option String
  options : List Char
  traps : List (Nat × String)
  frames : List (List (String × Option Variable))
  mask : Nat
  line : Nat
  last : Nat
  loops : Nat
  known : List String
  place : Nat × Nat
  job : Nat
  jobs : List Job
  latest : Nat
  reaped : List Nat

/-- A text that was written: under which number, when, and for which job. -/
structure Writing where
  number : Nat
  time : Int
  job : Nat
  text : String

/-- A job that goes on later: its number, when it does, its directory, what it has of its own, what
is left of its commands, and a signal that it gets then. -/
structure Waiting where
  number : Nat
  due : Int
  current : Location
  own : Own
  rest : List Tree
  signal : Option Nat

/-- The end of a job. -/
structure Ending where
  number : Nat
  status : Status
  time : Int

/-- A running script: what the process that runs has of its own, and what all of its processes
share. `written` has the last text first. The clock counts microseconds; jobs that wait go on when
the clock has come to them, and signals are those that jobs have sent to the script, with their
times.
-/
structure State extends Own where
  files : FileSystem
  feeds : List (Nat × Feed)
  written : List Writing
  opened : Nat
  clock : Int
  started : Nat
  waiting : List Waiting
  endings : List Ending
  signals : List (Int × Nat)

abbrev Running := ReaderT Launcher (ExceptT Jump (StateM State))

def selfNumber : Nat := 1

/-- Runs something and changes the state behind it by what it was before, whether it went on or not.
-/
def within {α : Type} (body : Running α) (after : State → State → State) : Running α :=
  fun launch before =>
    match body launch before with
    | (result, state) => (result, after before state)

/-- What becomes of something that may not go on. -/
def attempt {α : Type} (body : Running α) : Running (Except Jump α) := fun launch before =>
  match body launch before with
  | (result, state) => (.ok result, state)

namespace State

def textOf? (state : State) (name : String) : Option String :=
  (state.values.find? fun one => one.1 == name).bind (·.2.text)

def entryOf (state : State) (name : String) : Variable :=
  ((state.values.find? fun one => one.1 == name).map (·.2)).getD ⟨none, false, false⟩

/-- The state with all that is known of a variable. -/
def setEntry (state : State) (name : String) (entry : Variable) : State :=
  { state with values := (name, entry) :: state.values.filter fun one => one.1 != name }

def forget (state : State) (name : String) : State :=
  { state with values := state.values.filter fun one => one.1 != name }

def has (state : State) (option : Char) : Bool :=
  state.options.contains option

def assign (state : State) (name text : String) : State :=
  let entry := state.entryOf name
  state.setEntry name { entry with text := some text, exported := entry.exported || state.has 'a' }

def operands (state : State) : List String :=
  state.arguments.drop 1

/-- The name of the script, the line that runs, and the builtin that does. -/
def title (state : State) : String :=
  let name := state.arguments.headD "sh"
  let line := inBase 10 state.line
  match state.command with
  | some command => s!"{name}: {line}: {command}: "
  | none => s!"{name}: {line}: "

def channel? (state : State) (number : Nat) : Option Channel :=
  (state.channels.find? fun one => one.1 == number).map (·.2)

/-- The state with a number that leads somewhere, or nowhere at all. -/
def direct (state : State) (number : Nat) (channel : Option Channel) : State :=
  let others := state.channels.filter fun one => one.1 != number
  { state with
    channels :=
      match channel with
      | some found => (number, found) :: others
      | none => others }

/-- What there is to read under a number of the process. -/
def feed (state : State) (number : Nat) : Feed :=
  match state.channel? number with
  | some (.feed place) =>
      ((state.feeds.find? fun one => one.1 == place).map (·.2)).getD ⟨"", true⟩
  | _ => ⟨"", true⟩

/-- The state with what is left to read under a number of the process. -/
def setFeed (state : State) (number : Nat) (feed : Feed) : State :=
  match state.channel? number with
  | some (.feed place) =>
      { state with feeds := (place, feed) :: state.feeds.filter fun one => one.1 != place }
  | _ => state

/-- The state with a number of the process that leads to something to read. -/
def attach (state : State) (number : Nat) (feed : Feed) : State :=
  { state.direct number (some (.feed state.opened)) with
    feeds := (state.opened, feed) :: state.feeds
    opened := state.opened + 1 }

/-- The state with more text behind what a channel has got. -/
def send (state : State) (text : String) : Option Channel → State
  | some (.output number) =>
      if text.isEmpty then state
      else { state with written := ⟨number, state.clock, state.job, text⟩ :: state.written }
  | some (.file location) =>
      match state.files.entryAt? location with
      | some (.file content) =>
          let content := content ++ Octets.toBytes text
          { state with files := state.files.set location (.file content) }
      | _ => state
  | _ => state

/-- Whether a text can not be written to a channel. -/
def isStopped (text : String) (channel : Option Channel) : Bool :=
  !text.isEmpty &&
    match channel with
    | some .full | some (.feed _) | none => true
    | _ => false

def scene (state : State) (called : String) : Scene :=
  { files := state.files
    input := state.feed 0
    environment := state.values.filterMap fun one =>
      if one.2.exported then one.2.text.map fun text => (one.1, text) else none
    mask := state.mask
    called }

/-- What was written under some numbers, in the order of time. -/
def history (state : State) (numbers : List Nat) : List Writing :=
  (state.written.filter fun one => numbers.contains one.number).reverse.mergeSort
    fun left right => decide (left.time ≤ right.time)

/-- What was written under a number, in the order of time. -/
def collected (state : State) (number : Nat) : String :=
  String.join ((state.history [number]).map (·.text))

end State

def complain (complaint : String) : Running Unit :=
  modify fun state => state.send s!"{state.title}{complaint}\n" (state.channel? 2)

def exitWith (code : Nat) : Running Unit :=
  modify fun state => { state with last := code }

def fail {α : Type} (complaint : String) : Running α := do
  complain complaint
  exitWith 2
  throw .fault

def print (text : String) : Running Unit := do
  let state ← get
  let channel := state.channel? 1
  if State.isStopped text channel then
    let command := state.command.getD ""
    complain s!"{command}: I/O error"
    exitWith 1
  else set (state.send text channel)

def tell (text : String) : Running Unit :=
  modify fun state => state.send text (state.channel? 2)

def assign (name text : String) : Running Unit := do
  if ((← get).entryOf name).fixed then fail s!"{name}: is read only"
  modify fun state => state.assign name text

/-- What is left of a state behind something that ran on its own: only files, what was written, and
what was read. -/
def State.apart (before after : State) : State :=
  { after with
    toOwn := { before.toOwn with last := after.last }
    files := { after.files with current := before.files.current } }

end Script

end SqlColumns.Shell
