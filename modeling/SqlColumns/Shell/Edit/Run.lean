import SqlColumns.Shell.Edit.Syntax
import SqlColumns.Shell.Subtree

/-!
# Running scripts that edit lines

Each line of the input is the text of one cycle, in which the commands follow each other. At the end
of a cycle the text is printed, and behind it what was to be added.
-/

set_option autoImplicit false

namespace SqlColumns.Shell.Edit

/-- A line of the input: its text, whether a mark ends it, the name and the number of its file, its
own number, and whether it is the last one. -/
structure Line where
  text : String
  marked : Bool
  file : String
  fileNumber : Nat
  number : Nat
  last : Bool
  deriving Repr

/-- How a script runs: its commands, whether texts are printed only when commands say so, whether
files are edited where they are, what ends lines, how wide lines are listed, and who starts
programs. -/
structure Setting where
  commands : Array Command
  quiet : Bool
  inPlace : Bool
  mark : Char
  width : Nat
  launch : Launcher
  scene : Scene

/-- What has been written to a file, and whether the last line of it lacks its end. -/
structure Target where
  text : String
  unended : Bool
  deriving Repr

def Target.empty : Target := ⟨"", false⟩

def Target.add (target : Target) (mark : Char) (text : String) : Target :=
  ⟨target.text ++ (if target.unended then String.singleton mark else "") ++ text, false⟩

def Target.addLine (target : Target) (mark : Char) (text : String) (ends : Bool) : Target :=
  let added := target.add mark text
  if ends then ⟨added.text ++ String.singleton mark, false⟩ else ⟨added.text, true⟩

/-- What is added at the end of a cycle: a text, or what a file holds. -/
inductive Added where
  | text (text : String)
  | file (name : String)
  deriving Repr

/-- A text that is worked on, and whether its line had an end. -/
structure Space where
  text : String
  marked : Bool
  deriving Repr

/-- How far a script has come. -/
structure State where
  space : Space
  held : Space
  line : Line
  rest : List Line
  active : List (Nat × Option Nat)
  added : List Added
  replaced : Bool
  sought : Option Finder
  printed : Target
  edited : List (Nat × Target)
  written : List (String × Target)
  reading : List (String × List String)
  files : FileSystem
  errors : String
  fault : Option String

/-- The value under a key, replaced by another one, or put behind the others. -/
def update {α β : Type} [BEq α] (key : α) (usual : β) (change : β → β) (pairs : List (α × β)) :
    List (α × β) :=
  if pairs.any fun one => one.1 == key then
    pairs.map fun one => if one.1 == key then (one.1, change one.2) else one
  else pairs ++ [(key, change usual)]

def State.output (state : State) (setting : Setting) (change : Target → Target) : State :=
  if setting.inPlace then
    { state with edited := update state.line.fileNumber Target.empty change state.edited }
  else { state with printed := change state.printed }

def State.put (state : State) (setting : Setting) (text : String) : State :=
  if text.isEmpty then state else state.output setting fun target => target.add setting.mark text

def State.putLine (state : State) (setting : Setting) (space : Space) : State :=
  state.output setting fun target => target.addLine setting.mark space.text space.marked

def State.writeLine (state : State) (setting : Setting) (name : String) (space : Space) : State :=
  if name = "/dev/stdout" then
    { state with printed := state.printed.addLine setting.mark space.text space.marked }
  else if name = "/dev/stderr" then
    { state with errors := state.errors ++ space.text ++ String.singleton setting.mark }
  else
    let change (target : Target) : Target := target.addLine setting.mark space.text space.marked
    let written := update name Target.empty change state.written
    let text := (written.find? fun one => one.1 == name).elim "" (·.2.text)
    { state with
      written
      files := (setting.scene.write state.files false name text).toOption.getD state.files }

def State.textOf (state : State) (setting : Setting) (name : String) : String :=
  if isInput name then setting.scene.input.text
  else ((state.files.read (pathOf name)).map Octets.ofBytes).toOption.getD ""

def State.flush (state : State) (setting : Setting) : State :=
  let state := state.added.foldl (fun state added =>
    match added with
    | .text text => state.put setting text
    | .file name => state.put setting (state.textOf setting name)) state
  { state with added := [] }

def State.add (state : State) (added : Added) : State :=
  { state with added := state.added ++ [added] }

/-- Where something is found in the text, and the state that knows what was looked for; what is
looked for last is looked for again when nothing is told. -/
def State.find (state : State) (finder : Option Finder) : Option Regex.Found × State :=
  match finder.or state.sought with
  | none => (none, { state with fault := some "no previous regular expression" })
  | some finder =>
      let chars := state.space.text.toList.toArray
      (finder.regex.search? finder.manner chars 0, { state with sought := some finder })

def Place.holds (place : Place) (state : State) : Bool × State :=
  let number := state.line.number
  match place with
  | .line wanted => (number == wanted, state)
  | .each start step =>
      let isLater := decide (start ≤ number) && (number - start) % step == 0
      (if step = 0 then number == start else isLater, state)
  | .last => (state.line.last, state)
  | .finding finder =>
      let (found, state) := state.find finder
      (found.isSome, state)

/-- The number of the line at which a range that begins at a line ends, if that is known. -/
def Stop.number? (stop : Stop) (line : Nat) : Option Nat :=
  match stop with
  | .place (.line number) => some number
  | .after count => some (line + count)
  | .multiple divisor => some (if divisor = 0 then line else (line / divisor + 1) * divisor)
  | .place _ => none

/-- Whether the line is in a range, and the state in which it has begun or ended. -/
def inRange (index : Nat) (first : Place) (stop : Stop) (state : State) : Bool × State :=
  let number := state.line.number
  let close (state : State) : State :=
    { state with active := state.active.filter fun one => one.1 != index }
  match state.active.find? fun one => one.1 == index with
  | some (_, some limit) => (decide (number ≤ limit), if limit ≤ number then close state else state)
  | some (_, none) =>
      match stop with
      | .place place =>
          let (holds, state) := place.holds state
          (true, if holds then close state else state)
      | _ => (true, close state)
  | none =>
      let (holds, state) := first.holds state
      let limit := stop.number? number
      if !holds then (false, state)
      else if limit.any (· ≤ number) then (true, state)
      else (true, { state with active := (index, limit) :: state.active })

def Command.selects (command : Command) (index : Nat) (state : State) : Bool × State :=
  let (holds, state) := match command.first, command.stop with
    | none, _ => (true, state)
    | some first, none => first.holds state
    | some first, some stop => inRange index first stop state
  (holds != command.opposite, state)

/-- How letters are turned: all of those that follow, and the next one. -/
structure Turning where
  all : Option Bool
  next : Option Bool

def turned (capitals : Option Bool) (c : Char) : Char :=
  match capitals with
  | some true => c.toUpper
  | some false => c.toLower
  | none => c

def Turning.apply (turning : Turning) (text : List Char) : List Char × Turning :=
  match text with
  | [] => ([], turning)
  | first :: rest =>
      (turned (turning.next.or turning.all) first :: rest.map (turned turning.all),
        { turning with next := none })

def expand (chars : Array Char) (found : Regex.Found) (pieces : List Piece) : List Char :=
  (pieces.foldl (fun ((done, turning) : List Char × Turning) piece =>
    match piece with
    | .turn (.all capitals) => (done, ⟨some capitals, none⟩)
    | .turn (.next capitals) => (done, { turning with next := some capitals })
    | .turn .done => (done, ⟨none, none⟩)
    | .text text =>
        let (text, turning) := turning.apply text
        (done ++ text, turning)
    | .group number =>
        let (start, stop) := (found.group? number).getD (0, 0)
        let (text, turning) := turning.apply (Regex.between chars start stop)
        (done ++ text, turning)) ([], ⟨none, none⟩)).1

/-- What a text becomes from a place on, and whether anything was replaced; `before` is where the
last thing was found that is not empty, and `count` how often something was found. At most `fuel`
times something is looked for. -/
def replaceFrom (finder : Finder) (replacing : Replacing) (chars : Array Char) :
    Nat → Nat → Option Nat → Nat → List Char × Bool
  | 0, start, _, _ => (Regex.between chars start chars.size, false)
  | fuel + 1, start, before, count =>
      match finder.regex.search? finder.manner chars start with
      | none => (Regex.between chars start chars.size, false)
      | some found =>
          let front := Regex.between chars start found.start
          let isEmpty := found.start == found.stop
          let behind (count : Nat) : List Char × Bool :=
            if isEmpty then
              if found.stop < chars.size then
                let (rest, replaced) :=
                  replaceFrom finder replacing chars fuel (found.stop + 1) none count
                (Regex.between chars found.stop (found.stop + 1) ++ rest, replaced)
              else ([], false)
            else replaceFrom finder replacing chars fuel found.stop (some found.stop) count
          if isEmpty && before == some found.start then
            let (rest, replaced) := behind count
            (front ++ rest, replaced)
          else if count + 1 < replacing.number then
            let (rest, replaced) := behind (count + 1)
            (front ++ Regex.between chars found.start found.stop ++ rest, replaced)
          else
            let text := front ++ expand chars found replacing.pieces
            if replacing.all then (text ++ (behind (count + 1)).1, true)
            else (text ++ Regex.between chars found.stop chars.size, true)

def listedChar (c : Char) : String :=
  match c with
  | '\\' => "\\\\"
  | '\x07' => "\\a"
  | '\x08' => "\\b"
  | '\x0c' => "\\f"
  | '\n' => "\\n"
  | '\r' => "\\r"
  | '\t' => "\\t"
  | '\x0b' => "\\v"
  | _ =>
      if ' ' ≤ c ∧ c ≤ '~' then String.singleton c
      else
        let digits := inBase 8 c.toNat
        "\\" ++ "".pushn '0' (3 - digits.length) ++ digits

def listed (width : Nat) (text : String) : String :=
  let (shown, _) := text.toList.foldl (fun ((shown, column) : String × Nat) c =>
    let piece := listedChar c
    if width != 0 && width < column + piece.length + 1 then
      (shown ++ "\\\n" ++ piece, piece.length)
    else (shown ++ piece, column + piece.length)) ("", 0)
  shown ++ "$\n"

def Space.firstLine (space : Space) (mark : Char) : Space :=
  let front := space.text.toList.takeWhile (· != mark)
  if front.length = space.text.length then space else ⟨String.ofList front, true⟩

def behindMark? (mark : Char) (text : String) : Option String :=
  match text.toList.dropWhile (· != mark) with
  | [] => none
  | _ :: behind => some (String.ofList behind)

/-- The state in which the next line is read: its text becomes the one that is worked on, or is put
behind it. -/
def State.advance (state : State) (setting : Setting) (joins : Bool) : Option State :=
  match state.rest with
  | [] => none
  | line :: rest =>
      let state := state.flush setting
      let text := if joins then state.space.text ++ String.singleton setting.mark ++ line.text
        else line.text
      some { state with space := ⟨text, line.marked⟩, line, rest, replaced := false }

/-- Starts a command for the shell: what it printed, and the state behind it. -/
def State.start (state : State) (setting : Setting) (command : String) : String × State :=
  let scene := { setting.scene with files := state.files }
  match setting.launch scene "/bin/sh" ["sh", "-c", command] with
  | .ok ended =>
      let files := { ended.files with current := state.files.current }
      (ended.writtenTo .output,
        { state with files, errors := state.errors ++ ended.writtenTo .errors })
  | .error _ => ("", state)

/-- The next line of a file that is read line by line, and the state behind it. -/
def State.nextLine (state : State) (setting : Setting) (name : String) : Option String × State :=
  let lines := match state.reading.find? fun one => one.1 == name with
    | some (_, lines) => lines
    | none => plainLines (state.textOf setting name)
  let reading := (name, lines.drop 1) :: state.reading.filter fun one => one.1 != name
  (lines.head?, { state with reading })

/-- What follows a command: the command at some place, the end of the cycle with its text printed or
not, another cycle with the same text, or the end of it all. -/
inductive Step where
  | go (index : Nat)
  | endCycle (prints : Bool)
  | restart
  | quit (prints : Bool) (code : Nat)

def Space.with (space : Space) (mark : Char) (other : Space) : Space :=
  ⟨space.text ++ String.singleton mark ++ other.text, other.marked⟩

def replace (setting : Setting) (replacing : Replacing) (state : State) : State :=
  match replacing.finder.or state.sought with
  | none => { state with fault := some "no previous regular expression" }
  | some finder =>
      let state := { state with sought := some finder }
      let chars := state.space.text.toList.toArray
      let (text, replaced) := replaceFrom finder replacing chars (chars.size + 2) 0 none 0
      if !replaced then state
      else
        let space := { state.space with text := String.ofList text }
        let state := { state with space, replaced := true }
        let state := if replacing.runs then
            let (output, state) := state.start setting state.space.text
            { state with space := { state.space with text := withoutFeed output } }
          else state
        let state := if replacing.prints then state.putLine setting state.space else state
        match replacing.file with
        | some name => state.writeLine setting name state.space
        | none => state

def jumpTarget (setting : Setting) (label : String) : Nat :=
  if label.isEmpty then setting.commands.size
  else (setting.commands.findIdx? fun command => command.action == .label label).getD
    setting.commands.size

def act (setting : Setting) (index : Nat) (command : Command) (state : State) : Step × State :=
  let mark := setting.mark
  let go (state : State) : Step × State := (.go (index + 1), state)
  let space := state.space
  match command.action with
  | .opening _ | .closing | .label _ | .nothing => go state
  | .append text => go (state.add (.text text))
  | .insert text => go (state.put setting text)
  | .change text =>
      let isOver := command.opposite || !state.active.any fun one => one.1 == index
      (.endCycle false, if isOver then state.put setting text else state)
  | .jump .always label => (.go (jumpTarget setting label), state)
  | .jump .replaced label =>
      if state.replaced then (.go (jumpTarget setting label), { state with replaced := false })
      else go state
  | .jump .unreplaced label =>
      if state.replaced then go { state with replaced := false }
      else (.go (jumpTarget setting label), state)
  | .delete => (.endCycle false, state)
  | .deleteLine =>
      match behindMark? mark space.text with
      | none => (.endCycle false, state)
      | some text => (.restart, { state with space := { space with text } })
  | .run command =>
      if command.isEmpty then
        let (output, state) := state.start setting space.text
        go { state with space := { space with text := withoutFeed output } }
      else
        let (output, state) := state.start setting command
        go (state.put setting output)
  | .fileName => go (state.put setting (state.line.file ++ "\n"))
  | .get => go { state with space := state.held }
  | .getMore => go { state with space := space.with mark state.held }
  | .hold => go { state with held := space }
  | .holdMore => go { state with held := state.held.with mark space }
  | .exchange => go { state with space := state.held, held := space }
  | .list width => go (state.put setting (listed (width.getD setting.width) space.text))
  | .next =>
      if state.rest.isEmpty then (.endCycle true, state)
      else
        let state := if setting.quiet then state else state.putLine setting space
        go ((state.advance setting false).getD state)
  | .nextMore =>
      match state.advance setting true with
      | some state => go state
      | none => (.endCycle true, state)
  | .number => go (state.put setting (inBase 10 state.line.number ++ String.singleton mark))
  | .print => go (state.putLine setting space)
  | .printLine => go (state.putLine setting (space.firstLine mark))
  | .quit prints code => (.quit prints code, state)
  | .readFile name => go (state.add (.file name))
  | .readLine name =>
      let (line, state) := state.nextLine setting name
      go (line.elim state fun line => state.add (.text (line ++ "\n")))
  | .replace replacing => go (replace setting replacing state)
  | .translate pairs =>
      let text := space.text.map fun c =>
        (pairs.find? fun one => one.1 == c).elim c (·.2)
      go { state with space := { space with text } }
  | .write name => go (state.writeLine setting name space)
  | .writeLine name => go (state.writeLine setting name (space.firstLine mark))
  | .clear => go { state with space := { space with text := "" } }

def step (setting : Setting) (index : Nat) (command : Command) (state : State) : Step × State :=
  let (holds, state) := command.selects index state
  match holds, command.action with
  | true, _ => act setting index command state
  | false, .opening length => (.go (index + length + 1), state)
  | false, _ => (.go (index + 1), state)

def State.endCycle (state : State) (setting : Setting) (prints : Bool) : State :=
  let state := if prints && !setting.quiet then state.putLine setting state.space else state
  state.flush setting

/-- Runs the commands from one on; at most `fuel` of them. What is returned is the code with which
the script asks to exit, if it ends before the input does, and the last state. -/
def runFrom (setting : Setting) : Nat → Nat → State → Option Nat × State
  | 0, _, state => (none, state)
  | fuel + 1, index, state =>
      let (next, state) := match setting.commands[index]? with
        | none => (Step.endCycle true, state)
        | some command => step setting index command state
      if state.fault.isSome then (some 1, state)
      else
        match next with
        | .go index => runFrom setting fuel index state
        | .restart => runFrom setting fuel 0 state
        | .quit prints code =>
            let finish (target : Target) : Target := target.add setting.mark ""
            if prints then (some code, (state.endCycle setting true).output setting finish)
            else (some code, state)
        | .endCycle prints =>
            let state := state.endCycle setting prints
            match state.advance setting false with
            | some state => runFrom setting fuel 0 state
            | none => (none, state)

def stepLimit : Nat := 1000000

def run (setting : Setting) (files : FileSystem) (lines : List Line) : Option Nat × State :=
  let nowhere : Line := ⟨"", true, "-", 0, 0, true⟩
  let opened := setting.commands.toList.zipIdx.filterMap fun one =>
    if one.1.first = some (.line 0) then some (one.2, none) else none
  let start : State :=
    { space := ⟨"", true⟩, held := ⟨"", true⟩, line := nowhere, rest := lines, active := opened
      added := [], replaced := false, sought := none, printed := Target.empty, edited := []
      written := [], reading := [], files, errors := "", fault := none }
  match start.advance setting false with
  | none => (none, start)
  | some state => runFrom setting stepLimit 0 state

end SqlColumns.Shell.Edit
