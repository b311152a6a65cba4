import SqlColumns.Shell.Script.Jobs

/-!
# Runs of scripts

A script runs line by line. What runs on its own leaves nothing but files and what it wrote. Loops
make running unbounded, so a number of nested steps and a number of turns bound it.
-/

set_option autoImplicit false

namespace SqlColumns.Shell.Script

/-- What is left of a process that has ended: what it wrote goes where what the script writes goes.
-/
def absorb (run : Runner) (stand : Stand) (called : String) (ended : Ended) : Running Unit := do
  modify fun state =>
    { state.setFeed 0 ended.left with
      files := { ended.files with current := state.files.current } }
  let state ← get
  let output := ended.writtenTo .output
  let stopped := State.isStopped output (state.channel? 1)
  for (stream, text) in ended.written do
    modify fun state =>
      match stream with
      | .output => state.send text (state.channel? 1)
      | .errors => state.send text (state.channel? 2)
      | .clock shift => { state with clock := state.clock + shift }
  settle run
  modify State.attended
  match ended.status with
  | .killed signal =>
      let told := (signalDeath? signal).getD ""
      if stand.final then throw (.killed signal)
      if !told.isEmpty then tell (told ++ "\n")
      exitWith (128 + signal)
  | .exited code =>
      if stopped && code = 0 then
        let reason := if state.channel? 1 = some .full then "No space left on device"
          else "Bad file descriptor"
        tell s!"{called}: write error: {reason}\n"
        exitWith 1
      else exitWith code

/-- The path at which the program with a name is looked for, or why there is none. -/
def State.programPath (state : State) (name : String) : Except OsError String :=
  if name.toList.contains '/' then .ok name
  else if name.isEmpty then .error .permissionDenied
  else if 255 < name.length then .error .nameTooLong
  else
    let found := candidates ((state.textOf? "PATH").getD "") name
    match found.find? fun path => state.files.isFile (pathOf path) with
    | some path => .ok path
    | none => .error .notFound

def startMessage (cause : OsError) : String :=
  match cause with
  | .notFound | .notDirectory => "not found"
  | _ => plainMessage cause

/-- Starts the program that words name; without one, complains and gives the code for that. A file
that is no program is read as a script. -/
def startProgram (run : Runner) (words : List String) : Running (Except Nat Ended) := do
  let launch ← read
  let name := words.headD ""
  match (← get).programPath name with
  | .error cause =>
      complain s!"{name}: {startMessage cause}"
      return .error 127
  | .ok path =>
      pass run pace.loads
      let scene := (← get).scene name
      let result :=
        match launch scene path words with
        | .error .noProgram => launch scene "/bin/sh" ("/bin/sh" :: path :: words.drop 1)
        | result => result
      match result with
      | .ok ended => return .ok ended
      | .error cause =>
          complain s!"{name}: {startMessage cause}"
          let missing : List OsError := [.notFound, .notDirectory, .linkLoop, .nameTooLong]
          return .error (if missing.contains cause then 127 else 126)

def useProgram (run : Runner) (stand : Stand) (words : List String) : Running Unit := do
  let name := words.headD ""
  match ← startProgram run words with
  | .error code => exitWith code
  | .ok ended =>
      modify fun state =>
        if stand.final || name.toList.contains '/' || state.known.contains name then state
        else { state with known := state.known ++ [name] }
      absorb run stand name ended

def useFunction (run : Runner) (stand : Stand) (body : Tree) (words : List String) :
    Running Unit :=
  within
    (do
      modify fun state =>
        { state with
          arguments := state.arguments.take 1 ++ words
          loops := 0
          frames := [] :: state.frames }
      match ← attempt (run stand.inner body) with
      | .ok _ | .error .back => return
      | .error cause => throw cause)
    fun before after =>
      let restored := (after.frames.headD []).foldl (fun (state : State) (name, entry) =>
        match entry with
        | some entry => state.setEntry name entry
        | none => state.forget name) after
      { restored with
        arguments := before.arguments
        loops := before.loops
        frames := before.frames }

/-- Reads a script and runs it as a part of this one. -/
def includeFile (run : Runner) (stand : Stand) : Builtin := fun words => do
  match words with
  | [] => exitWith 0
  | name :: _ =>
      let state ← get
      let path ←
        if name.toList.contains '/' then pure name
        else
          let found := candidates ((state.textOf? "PATH").getD "") name
          match found.find? fun path => state.files.isFile (pathOf path) with
          | some path => pure path
          | none => fail s!"{name}: not found"
      match (state.scene "").read path with
      | .error cause => fail s!"cannot open {path}: {openMessage false cause}"
      | .ok text =>
          modify fun state => { state with command := some path }
          match ← attempt (runText run stand.inner text) with
          | .ok _ | .error .back => return
          | .error cause => throw cause

def replace (run : Runner) (words : List String) : Running Unit := do
  match words with
  | [] => exitWith 0
  | name :: _ =>
      match ← startProgram run words with
      | .error code =>
          exitWith code
          throw .ended
      | .ok ended =>
          modify fun state => { state with traps := [] }
          absorb run ⟨false, true⟩ name ended
          throw .ended

def killUsage : String :=
  "Usage: kill [-s sigspec | -signum | -sigspec] [pid | job]... or\nkill -l [exitstatus]"

def kill (run : Runner) : Builtin := fun words => do
  let send (signal : Nat) (targets : List String) : Running Unit := do
    if targets.isEmpty then fail killUsage
    exitWith 0
    for target in targets do
      let isJob := target.startsWith "%"
      let digits := if target.startsWith "-" then String.ofList (target.toList.drop 1) else target
      let number ← if isJob then pure (← namedJob false (some target)).number else numberOf digits
      let state ← get
      if isJob then
        complain "No such process\n"
        exitWith 1
      else if number = selfNumber ∧ state.job ≠ 0 then
        set { state with signals := state.signals ++ [(state.clock, signal)] }
      else if number = selfNumber ∨ number = 0 then receive run signal
      else if !(← signalJob (number - selfNumber) signal) then
        complain "No such process\n"
        exitWith 1
  let first := words.headD ""
  let dashed := if first.startsWith "-" then some (String.ofList (first.toList.drop 1)) else none
  match dashed.bind signalNumber? with
  | some signal => send signal (words.drop 1)
  | none =>
      let (choices, operands) ← optionsIn "ls:" words
      if given choices 'l' then
        exitWith 0
        match operands with
        | [] => print ("0\n" ++ onLines (signals.map (·.2.1)))
        | word :: _ =>
            let number ← numberOf word
            let signal := if 128 < number then number - 128 else number
            if 0 < signal ∧ signal < 65 then print (signalName signal ++ "\n")
            else fail s!"invalid signal number or exit status: {word}"
      else
        match valueOf? choices 's' with
        | some name =>
            match signalNumber? name with
            | some signal => send signal operands
            | none => fail s!"invalid signal number or name: {name}"
        | none => send 15 operands

/-- Builtins that may run other commands, or that know of jobs. -/
def runningNames : List String :=
  ["eval", ".", "exec", "command", "type", "kill", "times", "wait", "jobs", "fg", "bg"]

def isBuiltin (name : String) : Bool :=
  (plainBuiltin? name).isSome || runningNames.contains name

def isSpecial (name : String) : Bool :=
  Syntax.specialNames.contains name

/-- What a name stands for, in a sentence or as short as can be. -/
def describe (sentence : Bool) (name : String) : Running (Option String) := do
  let state ← get
  let told (kind : String) : Option String := some (if sentence then s!"{name} is {kind}" else name)
  if Syntax.keywords.contains name then return told "a shell keyword"
  else if state.functions.any fun one => one.1 == name then return told "a shell function"
  else if isSpecial name then return told "a special shell builtin"
  else if isBuiltin name then return told "a shell builtin"
  else if name.toList.contains '/' then
    return if (state.files.lookup (pathOf name)).isOk then told name else none
  else
    match state.programPath name with
    | .error _ => return none
    | .ok path =>
        let kind := if state.known.contains name then s!"a tracked alias for {path}" else path
        return if sentence then told kind else some path

def tellTypes : Builtin := fun names => do
  exitWith 0
  for name in names do
    match ← describe true name with
    | some text => print (text ++ "\n")
    | none =>
        print s!"{name}: not found\n"
        exitWith 127

/-- Runs a command by its name, without what it is special for. -/
def useBuiltin (run : Runner) (stand : Stand) (name : String) (words : List String) :
    Running Unit := do
  let plain : Running Unit :=
    match plainBuiltin? name with
    | some builtin => builtin words
    | none => exitWith 0
  match name with
  | "eval" => runText run stand.inner (" ".intercalate words)
  | "." => includeFile run stand words
  | "exec" => replace run words
  | "type" => tellTypes words
  | "kill" => kill run words
  | "wait" => wait run words
  | "jobs" => showJobs words
  | "fg" | "bg" => moveJobs words
  | "times" => print "0m0.000000s 0m0.000000s\n0m0.000000s 0m0.000000s\n"
  | _ => plain

/-- Runs a builtin under its name; faults of builtins that are not special only make it fail. -/
def useNamed (run : Runner) (stand : Stand) (special : Bool) (name : String)
    (words : List String) : Running Unit :=
  within
    (do
      modify fun state => { state with command := some name }
      match ← attempt (useBuiltin run stand name words) with
      | .ok _ => return
      | .error .fault => if special then throw .fault
      | .error cause => throw cause)
    fun before after => { after with command := before.command }

/-- Runs the command that words name; functions count unless the command is asked for by "command".
-/
def useWords (run : Runner) (stand : Stand) : Nat → Bool → List String → Running Unit
  | 0, _, _ => exitWith 0
  | fuel + 1, direct, words => do
      match words with
      | [] => exitWith 0
      | name :: rest =>
          let state ← get
          let body := (state.functions.find? fun one => one.1 == name).map (·.2)
          match body, name with
          | some body, _ =>
              if direct then useFunction run stand body rest
              else if isBuiltin name then useNamed run stand false name rest
              else useProgram run stand words
          | none, "command" =>
              match rest with
              | "-v" :: names => useDescribe false names
              | "-V" :: names => useDescribe true names
              | "--" :: words | "-p" :: words => useWords run stand fuel false words
              | word :: _ =>
                  match word.toList with
                  | '-' :: c :: _ =>
                      within
                        (do
                          modify fun state => { state with command := some "command" }
                          complain s!"Illegal option -{String.singleton c}"
                          exitWith 2)
                        fun before after => { after with command := before.command }
                  | _ => useWords run stand fuel false rest
              | [] => exitWith 0
          | none, _ =>
              if isBuiltin name then useNamed run stand (direct && isSpecial name) name rest
              else useProgram run stand words
where
  /-- Says what the first of some names stands for. -/
  useDescribe (sentence : Bool) (names : List String) : Running Unit := do
    exitWith 0
    if let some name := names.head? then
      match ← describe sentence name with
      | some text => print (text ++ "\n")
      | none =>
          if sentence then print s!"{name}: not found\n"
          exitWith 127

/-- Sets variables to the values of words, and hands them on if it is `handing`. Gives them as they
are shown. -/
def assignAll (substitute : Substitution) (handing : Bool) :
    List (String × List Piece) → Running (List String)
  | [] => return []
  | (name, pieces) :: rest => do
      let text ← valueOf substitute pieces
      assign name text
      if handing then
        modify fun state => state.setEntry name { state.entryOf name with exported := true }
      return s!"{name}={text}" :: (← assignAll substitute handing rest)

def hasCommand (pieces : List Piece) : Bool :=
  pieces.any fun (piece : Piece) =>
    match piece with
    | .command _ _ => true
    | .parameter _ _ (.fallback _ _ inside) | .parameter _ _ (.trim _ _ inside) | .sum _ inside =>
        inside.any fun (piece : Piece) =>
          match piece with
          | .command _ _ => true
          | _ => false
    | _ => false

/-- The words of a command. Values of variables are not cut where the command sets some. -/
def expandWords (substitute : Substitution) : List (List Piece) → Running (List String)
  | [] => return []
  | first :: rest => do
      let names ← wordsOf substitute first
      let sets := names.head?.any ["export", "readonly", "local"].contains
      let words ← rest.mapM fun pieces => do
        match if sets then Syntax.assignment? pieces else none with
        | some (name, value) => return [s!"{name}={← valueOf substitute value}"]
        | none => wordsOf substitute pieces
      return names ++ words.flatten

/-- Shows the words of a command before it runs, if the script is to. -/
def trace (channel : Option Channel) (words : List String) : Running Unit := do
  let state ← get
  if state.has 'x' then
    let lead := (state.textOf? "PS4").getD ""
    modify fun state => state.send (lead ++ " ".intercalate words ++ "\n") channel

/-- Runs a simple command. What words set in front of a command that is not special is taken back
behind it. -/
def runSimple (run : Runner) (substitute : Substitution) (stand : Stand)
    (assigned : List (String × List Piece)) (words : List (List Piece)) (moves : List Move) :
    Running Unit := do
  let texts ← expandWords substitute words
  let errors := (← get).channel? 2
  let name := texts.headD ""
  let isFunction := (← get).functions.any fun one => one.1 == name
  let special := !isFunction && isSpecial name
  redirected substitute moves special
    (do
      if texts.isEmpty then
        if !(assigned.any fun one => hasCommand one.2) && !words.any hasCommand then exitWith 0
        trace errors (← assignAll substitute false assigned)
      else
        within
          (do
            let shown ← assignAll substitute (!special) assigned
            trace errors (shown ++ texts)
            useWords run stand (texts.length + 1) true texts)
          fun before after =>
            if special then after
            else
              assigned.foldl (fun (state : State) (name, _) =>
                match before.values.find? fun one => one.1 == name with
                | some (_, entry) => state.setEntry name entry
                | none => state.forget name) after)
    (texts == ["exec"])

def turn (body : Running Unit) : Running Bool := do
  match ← attempt body with
  | .ok _ => return true
  | .error (.leave loops) => if loops ≤ 1 then return false else throw (.leave (loops - 1))
  | .error (.again loops) => if loops ≤ 1 then return true else throw (.again (loops - 1))
  | .error cause => throw cause

def looping (body : Running Unit) : Running Unit :=
  within
    (do
      modify fun state => { state with loops := state.loops + 1 }
      body)
    fun before after => { after with loops := before.loops }

/-- Repeats turns as long as there may be another one; at most a number of them. -/
def repeated : Nat → Running Bool → Running Unit
  | 0, _ => return
  | count + 1, step => do
      if ← step then repeated count step

def turnLimit : Nat := 1000000

def forEach (name : String) (body : Running Unit) : List String → Running Unit
  | [] => return
  | text :: texts => do
      assign name text
      if ← turn body then forEach name body texts

/-- The body of the first branch of which a pattern stands for a text. -/
def chosen (substitute : Substitution) (text : List Char) :
    List (List (List Piece) × Tree) → Running (Option Tree)
  | [] => return none
  | (patterns, body) :: rest => do
      if ← fits patterns then return some body else chosen substitute text rest
where
  /-- Whether one of some patterns stands for the text. -/
  fits : List (List Piece) → Running Bool
    | [] => return false
    | pattern :: patterns => do
        let field ← fieldOf substitute pattern
        if Pattern.standsFor (Pattern.ofField field) text then return true else fits patterns

/-- Runs a command. At most `fuel` steps are nested in each other; a script that needs more fails.
-/
def run : Nat → Runner
  | 0, _, _ => fail "Maximum function recursion depth (1000) reached"
  | fuel + 1, stand, tree => do
      let runner : Runner := run fuel
      let substitute := substitution runner
      let reach (line : Nat) : Running Unit := modify fun state => { state with line }
      match tree with
      | .skip => return
      | .simple line assigned words moves =>
          reach line
          runSimple runner substitute stand assigned words moves
          checkExit stand
      | .row joint first second =>
          match joint with
          | .always =>
              runner stand.inner first
              runner stand second
          | .onSuccess =>
              runner .looked first
              if (← get).last = 0 then runner stand second
          | .onFailure =>
              runner .looked first
              if (← get).last ≠ 0 then runner stand second
      | .pipe first second =>
          let text ← capture runner (runner ⟨stand.tested, false⟩ first)
          alone runner do
            modify fun state => state.attach 0 ⟨text, false⟩
            runner ⟨stand.tested, false⟩ second
          checkExit stand
      | .opposite body =>
          runner .looked body
          exitWith (if (← get).last = 0 then 1 else 0)
      | .background body => startJob body
      | .alone line body moves =>
          reach line
          redirected substitute moves false (alone runner (runner ⟨stand.tested, false⟩ body)) false
          checkExit stand
      | .moved line body moves =>
          reach line
          redirected substitute moves false (runner stand.inner body) false
      | .choice condition body other =>
          runner .looked condition
          if (← get).last = 0 then runner stand body
          else if isSkip other then exitWith 0
          else runner stand other
      | .loop holds condition body =>
          looping do
            exitWith (← loopStatus runner stand holds condition body)
      | .each line name words body =>
          reach line
          let texts := (← words.mapM (wordsOf substitute)).flatten
          exitWith 0
          looping (forEach name (runner stand.inner body) texts)
      | .select line subject branches =>
          reach line
          let text := (← fieldOf substitute subject).text
          match ← chosen substitute text.toList branches with
          | some body => if isSkip body then exitWith 0 else runner stand body
          | none => exitWith 0
      | .define name body =>
          modify fun state =>
            let others := state.functions.filter fun one => one.1 != name
            { state with functions := (name, body) :: others, last := 0 }
where
  /-- Runs a loop under a condition: what its last turn exited with, or zero without one. -/
  loopStatus (runner : Runner) (stand : Stand) (holds : Bool) (condition body : Tree) :
      Running Nat := do
    let rec go : Nat → Nat → Running Nat
      | 0, status => return status
      | count + 1, status => do
          if !(← turn (runner .looked condition)) then return status
          if ((← get).last == 0) != holds then return status
          let more ← turn (runner stand.inner body)
          let status := (← get).last
          if more then go count status else return status
    go turnLimit 0

/-- How many steps of a script may be nested in each other. -/
def depthLimit : Nat := 10000

/-- What a process wrote that ended at a time, with the clock put forward in between and back to its
end. -/
def State.trace (state : State) (stop : Int) : List (Stream × String) :=
  let (written, time) := (state.history [0, 1]).foldl
    (fun ((written, time) : List (Stream × String) × Int) one =>
      let stream := if one.number = 0 then Stream.output else .errors
      let shift := if one.time = time then [] else [(Stream.clock (one.time - time), "")]
      ((stream, one.text) :: shift ++ written, one.time)) ([], 0)
  written.reverse ++ if time = stop then [] else [(.clock (stop - time), "")]

/-- What a shell is told: its options, whether the script is all that it does, the script, and its
name and arguments. -/
structure Order where
  options : List Char
  whole : Bool
  script : String
  arguments : List String

def start (launch : Launcher) (scene : Scene) (order : Order) : Ended :=
  let named := scene.environment.filter fun one => Syntax.isName one.1.toList
  let given := named.map fun (name, text) => (name, (⟨some text, true, false⟩ : Variable))
  let folder := physical scene.files
  let own (name text : String) : String × Variable := (name, ⟨some text, false, false⟩)
  let usual := [own "PATH" "/usr/local/sbin:/usr/local/bin:/usr/sbin:/usr/bin:/sbin:/bin",
    own "OPTIND" "1", own "PS1" "# ", own "PS2" "> ", own "PS4" "+ ", own "PPID" "0"]
  let missing := usual.filter fun one => !given.any fun other => other.1 == one.1
  let known : State :=
    { files := scene.files
      folder
      channels := [(0, .feed 0), (1, .output 0), (2, .output 1)]
      feeds := [(0, scene.input)]
      written := if order.options.contains 'm'
        then [⟨1, 0, 0, s!"{scene.called}: 0: {noTerminal}\n"⟩] else []
      opened := 2
      values := (given.filter fun one => one.1 != "IFS") ++ missing
      functions := []
      arguments := order.arguments
      command := none
      options := order.options.filter (· != 'm')
      traps := []
      frames := []
      mask := scene.mask
      line := 1
      last := 0
      loops := 0
      known := []
      place := (1, 0)
      job := 0
      jobs := []
      latest := 0
      reaped := []
      clock := 0
      started := 0
      waiting := []
      endings := []
      signals := [] }
  let handed := (known.entryOf "PWD").exported
  let known := (known.setEntry "PWD" ⟨some folder, handed, false⟩).setEntry "IFS"
    ⟨some " \t\n", false, false⟩
  let runner : Runner := run depthLimit
  let (result, state) :=
    finish runner (runText runner ⟨false, order.whole⟩ order.script) launch known
  let status : Status :=
    match result with
    | .error (.killed signal) => .killed signal
    | _ => .exited (state.last % 256)
  let (_, after) := (runJobs runner (fun _ _ => true) jobLimit).run launch state
  let left := ((state.feeds.find? fun one => one.1 == 0).map (·.2)).getD scene.input
  ⟨status, after.trace state.clock, left, after.files⟩

/-- What a shell is told by its words; or its complaint. -/
def orderOf (scene : Scene) : Nat → List Char → Bool → Bool → List String → Except String Order
  | 0, _, _, _, _ => .error ""
  | fuel + 1, options, commanded, fromInput, words =>
      let complaint (text : String) : Except String Order :=
        .error s!"{scene.called}: 0: {text}\n"
      let onward (words : List String) : Except String Order :=
        if commanded then
          match words with
          | [] => complaint "-c requires an argument"
          | script :: arguments =>
              .ok ⟨options, true, script, if arguments.isEmpty then [scene.called] else arguments⟩
        else
          match words, fromInput with
          | name :: _, false =>
              match scene.read name with
              | .ok text => .ok ⟨options, false, text, words⟩
              | .error cause => complaint s!"cannot open {name}: {openMessage false cause}"
          | _, _ => .ok ⟨'s' :: options, false, scene.input.text, scene.called :: words⟩
      match words with
      | "--" :: rest | "-" :: rest => onward rest
      | word :: rest =>
          match word.toList with
          | sign :: letter :: letters =>
              if sign = '-' ∨ sign = '+' then
                if letter = 'o' ∧ letters.isEmpty then
                  match rest with
                  | name :: more =>
                      match optionNamed? name with
                      | some option =>
                          let options := if sign = '-' then option :: options
                            else options.filter (· != option)
                          orderOf scene fuel options commanded fromInput more
                      | none => complaint s!"Illegal option -o {name}"
                  | [] => onward []
                else
                  let known := optionNames.map (·.2)
                  match (letter :: letters).find? fun c => !known.contains c && c != 'c' with
                  | some c => complaint s!"Illegal option -{String.singleton c}"
                  | none =>
                      let set := (letter :: letters).filter fun c => c != 'c' && c != 's'
                      let options := if sign = '-' then set ++ options
                        else options.filter fun c => !set.contains c
                      orderOf scene fuel options (commanded || (letter :: letters).contains 'c')
                        (fromInput || (letter :: letters).contains 's') rest
              else onward words
          | _ => onward words
      | [] => onward []

def shell (launch : Launcher) : Utility := fun scene words =>
  match orderOf scene (words.length + 1) [] false false words with
  | .error complaint => scene.ended 2 "" complaint
  | .ok order =>
      let ended := start launch scene order
      if order.options.contains 's' then ended.afterReading else ended

end SqlColumns.Shell.Script
