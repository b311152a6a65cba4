import SqlColumns.Shell.Reader
import SqlColumns.Shell.Script.JobTable

/-!
# Jobs

Commands in the background run at the same time as the script. Time passes only where programs are
started and wait; a job is run at once when the clock has come to where it acts for the first time,
and what it writes is put in the order of time with what others write.
-/

set_option autoImplicit false

namespace SqlColumns.Shell.Script

/-- How a command stands among others: whether something looks at how it ends, and whether its
process does nothing behind it. -/
structure Stand where
  tested : Bool
  final : Bool
  deriving DecidableEq, Repr

def Stand.inner (stand : Stand) : Stand :=
  { stand with final := false }

def Stand.looked : Stand :=
  ⟨true, false⟩

abbrev Runner := Stand → Tree → Running Unit

/-- Ends the script if the last command failed, the script is to end then, and nothing looks at it.
-/
def checkExit (stand : Stand) : Running Unit := do
  let state ← get
  if state.has 'e' && !stand.tested && state.last != 0 then throw .ended

/-- Runs the lines of a script, and gives up at one that cannot be read. -/
def runText (run : Runner) (stand : Stand) (script : String) : Running Unit := do
  let (trees, refusal) := Syntax.ofScript script
  let count := trees.length
  if trees.isEmpty && refusal.isNone then exitWith 0
  for (tree, place) in trees.zipIdx do
    if !(← get).has 'n' then
      run { stand with final := stand.final && refusal.isNone && place + 1 == count } tree
  if let some refusal := refusal then
    modify fun state => { state with line := refusal.line }
    fail refusal.cause.message

/-- Runs something as a process of its own does: to its end, and then what is to be done there. -/
def finish (run : Runner) (body : Running Unit) : Running Unit := do
  match ← attempt body with
  | .error (.killed signal) => throw (.killed signal)
  | _ =>
      let state ← get
      let code := state.last % 256
      set { state with last := code, traps := state.traps.filter fun one => one.1 != 0 }
      if let some (_, action) := state.traps.find? fun one => one.1 == 0 then
        match ← attempt (runText run ⟨false, false⟩ action) with
        | .error .ended | .error .fault =>
            modify fun state => { state with last := state.last % 256 }
        | .error (.killed signal) => throw (.killed signal)
        | _ => exitWith code

/-- Sends a signal to the script itself: what is to be done at it is done, or it ends the script
unless it is one that does not. -/
def receive (run : Runner) (signal : Nat) : Running Unit := do
  let state ← get
  match state.traps.find? fun one => one.1 == signal && signal != 9 && signal != 19 with
  | some (_, action) =>
      let last := state.last
      if !action.isEmpty then
        runText run ⟨false, false⟩ action
        exitWith last
  | none => if !([0, 17, 18, 23, 28].contains signal) then throw (.killed signal)

/-- How long it takes until a new process acts, until the one that made it goes on, and until a
program that was started acts, in microseconds. -/
structure Pace where
  begins : Int
  goesOn : Int
  loads : Int

def pace : Pace := ⟨300, 100, 1000⟩

/-- Does the next piece of what a job has to do, and tells what is left: commands in a row follow
each other, and the last one may run in the process of the job itself. -/
def runPiece (run : Runner) : Nat → List Tree → Running (List Tree)
  | 0, _ | _, [] => return []
  | fuel + 1, tree :: rest => do
      match tree, rest with
      | .row .always first second, _ => runPiece run fuel (first :: second :: rest)
      | .row .onSuccess first second, _ =>
          run .looked first
          return if (← get).last = 0 then second :: rest else rest
      | .row .onFailure first second, _ =>
          run .looked first
          return if (← get).last = 0 then rest else second :: rest
      | .alone line body moves, [] | .moved line body moves, [] =>
          exitWith 0
          if !moves.isEmpty then run ⟨false, false⟩ (.simple line [] [executed] moves)
          if (← get).last = 0 then runPiece run fuel [body] else return []
      | _, _ =>
          run ⟨false, false⟩ tree
          return rest
where
  /-- The word before redirections that are for the process itself. -/
  executed : List Piece := "exec".toList.map (.char false)

/-- The longest time in which nothing else is done, in microseconds. -/
def pauseLimit : Int := 5000

/-- Does what a job has to do until it has let time pass; `count` bounds how many pieces are done.
-/
def runUntilPause (run : Runner) (start : Int) : Nat → List Tree → Running (List Tree)
  | 0, rest => return rest
  | count + 1, rest => do
      if rest.isEmpty || pauseLimit < (← get).clock - start then return rest
      else runUntilPause run start count (← runPiece run (count + 1) rest)

/-- How many jobs are run in a row at most, and how many pieces of a job. -/
def jobLimit : Nat := 100000

/-- Runs a job up to its next pause or to its end. One that has paused gets its turn again, even
when nothing is left of it but its end. -/
def runJob (run : Runner) (job : Waiting) : Running Unit := do
  let before ← get
  set { before with
    toOwn := job.own
    files := { before.files with current := job.current }
    clock := job.due }
  let result ← attempt do
    if let some signal := job.signal then receive run signal
    runUntilPause run job.due jobLimit job.rest
  let state ← get
  match result, decide (pauseLimit < state.clock - job.due) with
  | .ok rest, true =>
      let later := { job with
        due := state.clock
        current := state.files.current
        own := state.toOwn
        rest
        signal := none }
      set { state with waiting := state.waiting ++ [later] }
  | result, _ =>
      let ending : Running Unit :=
        match result with
        | .ok _ => pure ()
        | .error jump => throw jump
      let result ← attempt (finish run ending)
      modify fun state =>
        let status : Status :=
          match result with
          | .error (.killed signal) => .killed signal
          | _ => .exited (state.last % 256)
        { state with endings := ⟨job.number, status, state.clock⟩ :: state.endings }
  modify fun after =>
    { after with
      toOwn := before.toOwn
      files := { after.files with current := before.files.current }
      clock := before.clock }

/-- The first of the jobs that wait, and the others. -/
def State.nextJob? (state : State) : Option (Waiting × List Waiting) :=
  match state.waiting.mergeSort fun left right => decide (left.due ≤ right.due) with
  | first :: others => some (first, others)
  | [] => none

/-- Runs jobs as long as there is one that is wanted, the first ones first. -/
def runJobs (run : Runner) (wanted : State → Waiting → Bool) : Nat → Running Unit
  | 0 => return
  | count + 1 => do
      let state ← get
      match state.nextJob? with
      | none => return
      | some (job, others) =>
          if wanted state job then
            set { state with waiting := others }
            runJob run job
            runJobs run wanted count

/-- Receives the signals that have come by now; at most a number of them. -/
def receiveSignals (run : Runner) : Nat → Running Unit
  | 0 => return
  | count + 1 => do
      let state ← get
      match state.signals.find? fun one => one.1 ≤ state.clock with
      | none => return
      | some (time, signal) =>
          set { state with signals := state.signals.erase (time, signal) }
          receive run signal
          receiveSignals run count

/-- Lets everything happen that has to have happened by now. -/
def settle (run : Runner) : Running Unit := do
  runJobs run (fun state job => decide (job.due ≤ state.clock)) jobLimit
  if (← get).job = 0 then receiveSignals run jobLimit

def pass (run : Runner) (length : Int) : Running Unit := do
  modify fun state => { state with clock := state.clock + length }
  settle run

def startJob (body : Tree) : Running Unit :=
  modify fun state =>
    let number := state.started + 1
    let job : Job := ⟨state.nextPlace, number, false⟩
    let state := state.freed
    let attached := state.attach 0 ⟨"", true⟩
    let own := { attached.toOwn with
      traps := state.traps.filter fun one => one.2.isEmpty
      job := number
      jobs := [] }
    let due := state.clock + pace.begins
    let waiting : Waiting := ⟨number, due, state.files.current, own, [body], none⟩
    { state with
      feeds := attached.feeds
      opened := attached.opened
      started := number
      jobs := job :: state.jobs
      latest := number
      waiting := state.waiting ++ [waiting]
      clock := state.clock + pace.goesOn
      last := 0 }

def isSkip : Tree → Bool
  | .skip => true
  | _ => false

/-- Runs the jobs that can write to what is collected under a number, and lets time pass until they
have ended and written. -/
def drain (run : Runner) (number : Nat) : Running Unit := do
  let holds (job : Waiting) : Bool := job.own.channels.any fun one => one.2 == .output number
  let before ← get
  runJobs run (fun state _ => state.waiting.any holds) jobLimit
  modify fun state =>
    let fresh := state.endings.take (state.endings.length - before.endings.length)
    let times := fresh.map (·.time) ++
      (state.written.filter fun one => one.number == number).map (·.time)
    { state with clock := times.foldl max state.clock }

def alone (run : Runner) (body : Running Unit) : Running Unit := do
  within
    (do
      pass run (pace.begins + pace.goesOn)
      modify fun state =>
        { state with traps := state.traps.filter fun one => one.2.isEmpty, jobs := [] }
      finish run body)
    State.apart
  modify State.attended

/-- What something prints when it runs on its own. -/
def capture (run : Runner) (body : Running Unit) : Running String :=
  within
    (do
      let number := (← get).opened
      modify fun state =>
        { state.direct 1 (some (.output number)) with opened := number + 1 }
      alone run body
      drain run number
      let state ← get
      set { state with written := state.written.filter fun one => one.number != number }
      return state.collected number)
    fun before after => { after with channels := before.channels }

/-- What a command in a word gives: what it prints. -/
def substitution (run : Runner) : Substitution := fun body =>
  capture run (if isSkip body then exitWith 0 else run ⟨false, false⟩ body)

/-- The number of the job for which a word asks to be waited, by its place or its process. -/
def awaited? (word : String) : Running (Option Nat) := do
  if word.startsWith "%" then return some (← namedJob false (some word)).number
  else
    let number ← numberOf word
    return if (← get).jobs.any fun one => one.number + selfNumber == number
      then some (number - selfNumber) else none

/-- Waits for jobs, or for all of them. A signal that comes first ends the waiting. -/
def wait (run : Runner) : Builtin := fun words => do
  let (_, words) ← optionsIn "" words
  let named ← words.mapM awaited?
  let before ← get
  let wanted := if words.isEmpty then before.jobs.map (·.number) else named.filterMap id
  let isOpen (state : State) (number : Nat) : Bool :=
    !state.endings.any fun one => one.number == number
  runJobs run (fun state _ => wanted.any (isOpen state)) jobLimit
  let state ← get
  let ended := state.endings.filter fun one => wanted.contains one.number
  let time := (ended.map (·.time)).foldl max state.clock
  match state.signals.find? fun one => state.job == 0 && one.1 < time with
  | some (moment, signal) =>
      set { state with clock := max state.clock moment }
      settle run
      exitWith (128 + signal)
  | none =>
      let jobs := state.jobs.map fun (one : Job) =>
        if wanted.contains one.number then { one with waited := true } else one
      set { state with clock := time, jobs }.reap
      settle run
      exitWith 0
      for (word, number) in words.zip named do
        match ended.find? fun one => some one.number == number with
        | none => exitWith 127
        | some ending =>
            exitWith ending.status.code
            if let .killed signal := ending.status then
              let told := (signalDeath? signal).getD word
              if !told.isEmpty ∧ !before.reaped.contains ending.number then tell (told ++ "\n")

/-- Sends a signal to a job: whether there is such a job. One that has something to do at the signal
does it when it goes on; what another one would have written later is not written. -/
def signalJob (number signal : Nat) : Running Bool := do
  let state ← get
  if number = 0 ∨ state.started < number ∨ state.reaped.contains number then return false
  let isOver := state.endings.any fun one => one.number == number && one.time ≤ state.clock
  let action := (state.waiting.find? fun one => one.number == number).bind fun job =>
    job.own.traps.find? fun one => one.1 == signal && signal != 9 && signal != 19
  match action with
  | some (_, text) =>
      if !text.isEmpty then
        set { state with
          waiting := state.waiting.map fun (job : Waiting) =>
            if job.number = number then { job with signal := some signal } else job }
  | none =>
      if !isOver ∧ !([0, 17, 18, 23, 28].contains signal) then
        let others := state.endings.filter fun one => one.number != number
        set { state with
          waiting := state.waiting.filter fun one => one.number != number
          written := state.written.filter fun one => !(one.job == number && state.clock < one.time)
          endings := ⟨number, .killed signal, state.clock⟩ :: others }
  return true

end SqlColumns.Shell.Script
