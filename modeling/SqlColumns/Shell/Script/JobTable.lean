import SqlColumns.Shell.Script.Builtins

/-!
# The jobs that a process knows

A process knows the jobs that it has started by their places, the latest first. A place gets free
when its job has been shown to be over, or when it is needed and its job has been waited for.
-/

set_option autoImplicit false

namespace SqlColumns.Shell.Script

namespace State

/-- The place that the next job of the process gets: the first one that is free or can be freed. -/
def nextPlace (state : State) : Nat :=
  let kept := state.jobs.filter fun one => !(one.waited && state.reaped.contains one.number)
  let places := (List.range (kept.length + 1)).map (· + 1)
  (places.find? fun place => !kept.any fun one => one.place == place).getD 1

def freed (state : State) : State :=
  { state with jobs := state.jobs.filter fun one => one.place != state.nextPlace }

/-- The state of a process that knows which of its jobs are over. -/
def reap (state : State) : State :=
  let fresh := state.endings.filter fun one =>
    decide (one.time ≤ state.clock) && !state.reaped.contains one.number
  { state with reaped := state.reaped ++ fresh.map (·.number) }

/-- The state of a process that has waited for something it started in its foreground. -/
def attended (state : State) : State :=
  state.freed.reap

def standing (state : State) (job : Job) : String :=
  match state.endings.find? fun one => one.number == job.number with
  | some ending =>
      if !state.reaped.contains job.number then "Running"
      else
        match ending.status with
        | .exited 0 => "Done"
        | .exited code => s!"Done({code})"
        | .killed signal => (signalDeath? signal).getD (signalName signal)
  | none => "Running"

end State

/-- The job that a word names by its place; `controlled` asks for one that can be moved to the
foreground and back, as none here. -/
def namedJob (controlled : Bool) (word : Option String) : Running Job := do
  let state ← get
  let given := word.getD "(null)"
  let found (job : Option Job) (complaint : String) : Running Job :=
    match job with
    | some job =>
        if controlled then fail s!"job {given} not created under job control" else return job
    | none => fail complaint
  match (word.getD "%").toList with
  | ['%'] | ['%', '%'] | ['%', '+'] => found state.jobs.head? "No current job"
  | ['%', '-'] => found state.jobs[1]? "No previous job"
  | '%' :: place =>
      let job := (count? (String.ofList place)).bind fun place =>
        state.jobs.find? fun one => one.place == place
      found job s!"No such job: {given}"
  | _ => fail s!"No such job: {given}"

def showJob (job : Job) : Running Unit := do
  let state ← get
  let places := state.jobs.map (·.place)
  let sign := if places.head? = some job.place then "+"
    else if places[1]? = some job.place then "-" else " "
  let standing := state.standing job
  print (padRight 33 s!"[{inBase 10 job.place}] {sign} {standing}" ++ "\n")
  if standing != "Running" then
    modify fun state => { state with jobs := state.jobs.filter fun one => one.place != job.place }

def showJobs : Builtin := fun words => do
  let (choices, words) ← optionsIn "lp" words
  modify State.reap
  exitWith 0
  let jobs ← if words.isEmpty then pure (← get).jobs
    else words.mapM fun word => namedJob false (some word)
  for job in jobs do
    if given choices 'p' then print (inBase 10 (selfNumber + job.number) ++ "\n")
    else showJob job

/-- Moves jobs to the foreground or to the background, which is refused. -/
def moveJobs : Builtin := fun words => do
  let (_, words) ← optionsIn "" words
  let named := if words.isEmpty then [none] else words.map some
  for word in named do
    let _ ← namedJob true word

end SqlColumns.Shell.Script
