import SqlColumns.Shell.Report
import SqlColumns.Shell.Signals
import SqlColumns.Shell.Tools.Printing

/-!
# Programs that start others

Programs that find other programs, and those that start them: once with another environment or in
another way, or again and again with words that they read.
-/

set_option autoImplicit false

namespace SqlColumns.Shell.Tools

/-- Starts programs by the search path; a file that is no program is read by the shell. -/
def startAny (launch : Launcher) : Starter :=
  startByPath fun scene path words =>
    match launch scene path words with
    | .error .noProgram => launch scene "/bin/sh" ("/bin/sh" :: path :: words.drop 1)
    | result => result

def startCode (cause : OsError) : Nat :=
  if cause = .notFound then 127 else 126

/-- Puts a program in the place of one that complains if it cannot be started. -/
def becomeProgram (launch : Launcher) (refused : String → String) (scene inner : Scene)
    (words : List String) : Ended :=
  match startAny launch inner words with
  | .ok ended => { ended with files := { ended.files with current := scene.files.current } }
  | .error cause =>
      let name := words.headD ""
      scene.failure (startCode cause) s!"{refused name}: {plainMessage cause}"

def assignmentOf? (word : String) : Option (String × String) :=
  if word.toList.contains '=' then
    let name := word.toList.takeWhile (· != '=')
    some (String.ofList name, String.ofList (word.toList.drop (name.length + 1)))
  else none

def setVariable (environment : List (String × String)) (name text : String) :
    List (String × String) :=
  if environment.any fun one => one.1 == name then
    environment.map fun one => if one.1 = name then (name, text) else one
  else environment ++ [(name, text)]

def shownVariables (environment : List (String × String)) (ending : String) : String :=
  String.join (environment.map fun one => one.1 ++ "=" ++ one.2 ++ ending)

def splitWords (text : String) : List String :=
  let (words, word, started, _) := text.toList.foldl
    (fun ((words, word, started, quote) : List String × List Char × Bool × Option Char) c =>
      match quote with
      | some mark =>
          if c = mark then (words, word, true, none) else (words, c :: word, true, quote)
      | none =>
          if c = '\'' ∨ c = '"' then (words, word, true, some c)
          else if isSpace c then
            (if started then words ++ [String.ofList word.reverse] else words, [], false, none)
          else (words, c :: word, true, none)) ([], [], false, none)
  if started then words ++ [String.ofList word.reverse] else words

/-- Starts a program with another environment, or prints the environment. -/
def environment (launch : Launcher) : Utility := fun scene words =>
  let grammar : Grammar := ⟨"i0u:C:S:v", [("ignore-environment", 'i'), ("null", '0'),
    ("unset", 'u'), ("chdir", 'C'), ("split-string", 'S'), ("debug", 'v')]⟩
  withOptions 125 grammar true (fun scene choices operands =>
    let dashed := operands.head? = some "-"
    let operands := (valuesOf choices 'S').flatMap splitWords ++
      if dashed then operands.drop 1 else operands
    let start := if given choices 'i' || dashed then [] else scene.environment
    let kept := start.filter fun one => !(valuesOf choices 'u').contains one.1
    let settings := operands.takeWhile fun word => (assignmentOf? word).isSome
    let changed := (settings.filterMap assignmentOf?).foldl
      (fun environment one => setVariable environment one.1 one.2) kept
    let command := operands.drop settings.length
    let folder := (valueOf? choices 'C').map fun name => (name, scene.files.locate (pathOf name))
    match command, folder with
    | [], none =>
        scene.success (shownVariables changed (if given choices '0' then "\x00" else "\n"))
    | [], some _ => scene.misuse 125 "must specify command with --chdir (-C)"
    | _, some (name, .error cause) =>
        scene.failure 125 s!"cannot change directory to {quoted name}: {plainMessage cause}"
    | command, folder =>
        let current := match folder with
          | some (_, .ok location) => location
          | _ => scene.files.current
        let inner : Scene :=
          { scene with environment := changed, files := { scene.files with current } }
        becomeProgram launch quoted scene inner command)
    scene words

def printEnvironment : Utility :=
  withOptions 2 ⟨"0", [("null", '0')]⟩ true fun scene choices names =>
    let ending := if given choices '0' then "\x00" else "\n"
    if names.isEmpty then scene.success (shownVariables scene.environment ending)
    else
      let texts := names.map scene.textOf?
      let shown := texts.filterMap fun text => text.map (· ++ ending)
      scene.ended (if texts.any Option.isNone then 1 else 0) (String.join shown) ""

def nice (launch : Launcher) : Utility :=
  withOptions 125 ⟨"n:", [("adjustment", 'n')]⟩ true fun scene choices words =>
    match (valueOf? choices 'n').map decimal?, words with
    | some none, _ =>
        scene.failure 125 ("invalid adjustment " ++ cited ((valueOf? choices 'n').getD ""))
    | some _, [] => scene.misuse 125 "a command must be given with an adjustment"
    | none, [] => scene.success "0\n"
    | _, words => becomeProgram launch quoted scene scene words

def keepRunning (launch : Launcher) : Utility :=
  withOptions 125 ⟨"", []⟩ true fun scene _ words =>
    if words.isEmpty then missingOperand 125 "operand" scene words
    else
      becomeProgram launch (fun name => s!"failed to run command {quoted name}") scene scene words

/-- What was written up to a time, and whether something is behind it. -/
def writtenUpTo (limit : Int) : List (Stream × String) → List (Stream × String) × Bool
  | [] => ([], false)
  | (.clock shift, text) :: rest =>
      if limit < shift then ([(.clock limit, text)], true)
      else
        let (written, cut) := writtenUpTo (limit - shift) rest
        ((.clock shift, text) :: written, cut)
  | one :: rest =>
      let (written, cut) := writtenUpTo limit rest
      (one :: written, cut)

/-- Starts a program with a limit of time, at which it is ended by a signal. -/
def limitTime (launch : Launcher) : Utility :=
  withOptions 125 ⟨"k:s:vpf", [("kill-after", 'k'), ("signal", 's'), ("verbose", 'v'),
    ("preserve-status", 'p'), ("foreground", 'f')]⟩ true fun scene choices words =>
      match words with
      | [] | [_] => scene.ended 125 "" scene.hint
      | limit :: words =>
          match pauseOf? [limit] with
          | none => scene.misuse 125 s!"invalid time interval {cited limit}"
          | some length =>
              let ended := becomeProgram launch
                (fun name => s!"failed to run command {quoted name}") scene scene words
              let (written, cut) := writtenUpTo length ended.written
              let signal := ((valueOf? choices 's').bind signalNumber?).getD 15
              let status : Status := if signal = 9 then .killed 9
                else if given choices 'p' then .exited (128 + signal)
                else .exited 124
              if length = 0 ∨ !cut then ended else { ended with status, written }

def plainStart (letters : String) (names : List (String × Char)) (launch : Launcher) : Utility :=
  withOptions 125 ⟨letters, names⟩ true fun scene _ words =>
    if words.isEmpty then missingOperand 125 "operand" scene words
    else
      becomeProgram launch (fun name => s!"failed to run command {quoted name}") scene scene words

def whereIs : Utility := fun scene words =>
  let everywhere := words.head? = some "-a"
  let names := if everywhere then words.drop 1 else words
  let searched := (scene.textOf? "PATH").getD usualSearchPath
  let found (name : String) : List String :=
    let all := (candidates searched name).filter (isProgram scene.files)
    if everywhere then all else all.take 1
  let missing := names.any fun name => (found name).isEmpty
  scene.ended (if missing || names.isEmpty then 1 else 0) (onLines (names.flatMap found)) ""

/-- How words are made of what is read: how they are separated, how many words or lines go into one
call, in place of what they come, and how calls are shown. -/
structure Feeding where
  mark : Option Char
  words : Option Nat
  lines : Option Nat
  replaced : Option String
  never : Bool
  told : Bool
  stopper : Option String

/-- A word that was read: whether it ends a line that does not go on. -/
structure Item where
  text : String
  endsLine : Bool

/-- What is known of a word that is being read. -/
structure ItemReading where
  items : List Item
  word : List Char
  started : Bool
  quote : Option Char
  escaped : Bool

/-- Words of a text, with quotes and backslashes read, or all of each line as one word; and the
quote that is not closed. -/
def readItems (wholeLines : Bool) (text : List Char) : List Item × Option Char :=
  let close (reading : ItemReading) (endsLine : Bool) : ItemReading :=
    if reading.started then
      { reading with
        items := ⟨String.ofList reading.word.reverse, endsLine⟩ :: reading.items
        word := []
        started := false }
    else reading
  let add (reading : ItemReading) (c : Char) : ItemReading :=
    { reading with word := c :: reading.word, started := true, escaped := false }
  let step (state : ItemReading × Option Char) (c : Char) : ItemReading × Option Char :=
    let (reading, failed) := state
    if failed.isSome then state
    else
      if reading.escaped then (add reading c, none)
      else
        match reading.quote with
        | some mark =>
            if c = mark then ({ reading with quote := none }, none)
            else if c = '\n' then (reading, some mark)
            else (add reading c, none)
        | none =>
            if c = '\\' then ({ reading with escaped := true }, none)
            else if c = '\'' ∨ c = '"' then
              ({ reading with quote := some c, started := true }, none)
            else if c = '\n' then (close reading true, none)
            else if c = ' ' ∨ c = '\t' then
              if wholeLines then if reading.started then (add reading c, none) else (reading, none)
              else (close reading false, none)
            else (add reading c, none)
  let (reading, failed) := text.foldl step (⟨[], [], false, none, false⟩, none)
  let failed := failed.or reading.quote
  let reading := if failed.isSome then reading else close reading true
  (reading.items.reverse, failed)

def markedItems (mark : Char) (text : String) : List Item :=
  let parts := text.splitOn (String.singleton mark)
  let parts := if parts.getLast? = some "" then parts.dropLast else parts
  parts.map fun part => ⟨part, true⟩

def wordGroups (count : Nat) : Nat → List String → List (List String)
  | 0, _ | _, [] => []
  | fuel + 1, words => words.take count :: wordGroups count fuel (words.drop count)

def linesOfItems (count : Nat) (items : List Item) : List (List String) :=
  let (groups, group, _) := items.foldl
    (fun ((groups, group, lines) : List (List String) × List String × Nat) item =>
      let group := group ++ [item.text]
      if item.endsLine then
        if lines + 1 = count then (groups ++ [group], [], 0) else (groups, group, lines + 1)
      else (groups, group, lines)) ([], [], 0)
  if group.isEmpty then groups else groups ++ [group]

def Feeding.calls (feeding : Feeding) (command : List String) (items : List Item) :
    List (List String) :=
  let texts := items.map (·.text)
  match feeding.replaced, feeding.lines, feeding.words with
  | some mark, _, _ => texts.map fun text => command.map fun word => word.replace mark text
  | none, some count, _ => (linesOfItems (max count 1) items).map (command ++ ·)
  | none, none, some count =>
      (wordGroups (max count 1) (texts.length + 1) texts).map (command ++ ·)
  | none, none, none => if texts.isEmpty then [] else [command ++ texts]

/-- Calls made one behind the other: where the work stands, the code so far, and whether it is over.
-/
structure Calls where
  files : FileSystem
  written : List (Stream × String)
  code : Nat
  stopped : Bool

def makeCall (launch : Launcher) (scene : Scene) (told : Bool) (calls : Calls)
    (words : List String) : Calls :=
  if calls.stopped then calls
  else
    let written := calls.written ++
      if told then [(Stream.errors, " ".intercalate words ++ "\n")] else []
    let name := words.headD ""
    let inner : Scene := { scene with files := calls.files, input := ⟨"", true⟩ }
    let complaint (text : String) : Stream × String := (.errors, s!"{scene.called}: {text}\n")
    match startAny launch inner words with
    | .error cause =>
        let line := complaint s!"{name}: {plainMessage cause}"
        ⟨calls.files, written ++ [line], startCode cause, true⟩
    | .ok ended =>
        let files := { ended.files with current := calls.files.current }
        let written := written ++ ended.written
        match ended.status with
        | .killed signal =>
            let line := complaint s!"{name}: terminated by signal {inBase 10 signal}"
            ⟨files, written ++ [line], 125, true⟩
        | .exited 255 =>
            let line := complaint s!"{name}: exited with status 255; aborting"
            ⟨files, written ++ [line], 124, true⟩
        | .exited 0 => ⟨files, written, calls.code, false⟩
        | .exited _ => ⟨files, written, 123, false⟩

def feedWords (launch : Launcher) : Utility :=
  withOptions 1 ⟨"0a:d:E:e::I:i::L:l::n:oprs:tP:x", [("null", '0'), ("arg-file", 'a'),
    ("delimiter", 'd'), ("eof", 'e'), ("replace", 'i'), ("max-lines", 'l'), ("max-args", 'n'),
    ("interactive", 'p'), ("no-run-if-empty", 'r'), ("max-chars", 's'), ("verbose", 't'),
    ("max-procs", 'P'), ("exit", 'x')]⟩ true fun scene choices command =>
      let number (letter : Char) : Option (Option Nat) := (valueOf? choices letter).map count?
      let wrong := "nLPs".toList.find? fun letter => number letter = some none
      let mark :=
        match (choices.filter fun choice => "0d".toList.contains choice.letter).getLast? with
        | some ⟨'0', _⟩ => some '\x00'
        | some choice =>
            let text := choice.value.getD ""
            match text.toList with
            | ['\\', 'n'] => some '\n'
            | ['\\', 't'] => some '\t'
            | ['\\', '0'] => some '\x00'
            | c :: _ => some c
            | [] => none
        | none => none
      let last := (lastOf? choices "IiLln").getD ' '
      let feeding : Feeding :=
        { mark
          words := if last = 'n' then (number 'n').getD none else none
          lines := if last = 'L' then (number 'L').getD none
            else if last = 'l' then some (((valueOf? choices 'l').bind count?).getD 1) else none
          replaced := if last = 'I' then valueOf? choices 'I'
            else if last = 'i' then some ((valueOf? choices 'i').getD "\x7b\x7d") else none
          never := given choices 'r'
          told := given choices 't'
          stopper := (valueOf? choices 'E').or (valueOf? choices 'e') }
      let reading := match valueOf? choices 'a' with
        | some name => (scene.read name).mapError fun cause => (name, cause)
        | none => .ok scene.input.text
      match wrong, reading with
      | some letter, _ =>
          let text := (valueOf? choices letter).getD ""
          let kind := String.singleton letter
          scene.misuse 1 ("invalid number \"" ++ text ++ "\" for -" ++ kind ++ " option")
      | none, .error (name, cause) =>
          scene.failure 1 s!"Cannot open input file {quoted name}: {plainMessage cause}"
      | none, .ok text =>
          let (items, failed) := match feeding.mark with
            | some mark => (markedItems mark text, none)
            | none => readItems feeding.replaced.isSome text.toList
          let items := match feeding.stopper with
            | some stopper =>
                if feeding.mark.isSome then items
                else items.takeWhile fun item => item.text != stopper
            | none => items
          let command := if command.isEmpty then ["echo"] else command
          let calls := feeding.calls command items
          let calls := if calls.isEmpty ∧ !feeding.never ∧ feeding.replaced.isNone ∧ failed.isNone
            then [command] else calls
          let complaint := match failed with
            | some mark =>
                let kind := if mark = '"' then "double" else "single"
                let text := s!"{scene.called}: unmatched {kind} quote; by default quotes are " ++
                  "special to xargs unless you use the -0 option\n"
                [(Stream.errors, text)]
            | none => []
          let done := calls.foldl (makeCall launch scene feeding.told)
            ⟨scene.files, complaint, if failed.isSome then 1 else 0, false⟩
          let left := if given choices 'a' then scene.input else { scene.input with text := "" }
          ⟨.exited done.code, done.written, left, done.files⟩

end SqlColumns.Shell.Tools
