import SqlColumns.Shell.Records.Reader
import SqlColumns.Shell.Records.Value
import SqlColumns.Shell.Report

/-!
# Running programs that work on records

A running program knows its variables and arrays, the record with its fields, what it reads from and
prints to, and the files. Parts of a run may end the parts around them.
-/

set_option autoImplicit false

namespace SqlColumns.Shell.Records

/-- What is read from: its characters, and how many were read. -/
structure Supply where
  chars : Array Char
  place : Nat

def Supply.ofText (text : String) : Supply :=
  ⟨text.toList.toArray, 0⟩

/-- How texts are cut: at blanks, between all characters, at a character, or where an expression is
found. -/
inductive Separator where
  | blanks
  | nothing
  | char (c : Char)
  | regex (regex : Regex)

namespace Separator

def ofText (text : String) : Except String Separator :=
  match text.toList with
  | [] => .ok .nothing
  | [c] => .ok (if c = ' ' then .blanks else .char c)
  | chars => (regexOf chars).map .regex

def manner : Regex.Manner := ⟨false, false⟩

def isBlank (c : Char) : Bool :=
  c == ' ' || c == '\t' || c == '\n'

/-- The next place from one on where an expression stands for something. -/
def find? (regex : Regex) (chars : Array Char) (place : Nat) : Option (Nat × Nat) :=
  let fits (start stop : Nat) : Bool := decide (start < stop)
  let starts := (List.range (chars.size + 1 - place)).map (· + place)
  (regex.firstFound? manner chars fits starts).map fun found => (found.start, found.stop)

/-- The texts between the places where an expression is found; it is looked for at most `fuel`
times.
-/
def cut (regex : Regex) (chars : Array Char) : Nat → Nat → List String
  | 0, place => [String.ofList (Regex.between chars place chars.size)]
  | fuel + 1, place =>
      match find? regex chars place with
      | some (start, stop) =>
          String.ofList (Regex.between chars place start) :: cut regex chars fuel stop
      | none => [String.ofList (Regex.between chars place chars.size)]

def parts (separator : Separator) (text : String) : List String :=
  if text.isEmpty then []
  else
    match separator with
    | .blanks =>
        let plain := text.map fun c => if isBlank c then ' ' else c
        (plain.splitOn " ").filter fun part => !part.isEmpty
    | .nothing => text.toList.map String.singleton
    | .char c => text.splitOn (String.singleton c)
    | .regex found => cut found text.toList.toArray (text.length + 1) 0

end Separator

def lengthUpTo (kind : Char → Bool) (chars : Array Char) : Nat → Nat → Nat
  | 0, _ => 0
  | fuel + 1, place =>
      match chars[place]? with
      | some c => if kind c then 0 else lengthUpTo kind chars fuel (place + 1) + 1
      | none => 0

namespace Supply

/-- The next lines up to an empty one, from a place on. -/
def paragraphEnd (chars : Array Char) : Nat → Nat → Nat
  | 0, place => place
  | fuel + 1, place =>
      let stop := place + lengthUpTo (· == '\n') chars chars.size place
      if chars.size ≤ stop + 1 ∨ chars[stop + 1]? = some '\n' then stop
      else paragraphEnd chars fuel (stop + 1)

def next? (supply : Supply) (separator : Separator) : Option (String × Supply) :=
  let chars := supply.chars
  let upTo (start stop behind : Nat) : Option (String × Supply) :=
    some (String.ofList (Regex.between chars start stop), ⟨chars, behind⟩)
  let upToChar (c : Char) : Option (String × Supply) :=
    let stop := supply.place + lengthUpTo (· == c) chars chars.size supply.place
    upTo supply.place stop (stop + 1)
  match separator with
  | .nothing =>
      let start := supply.place + lengthUpTo (· != '\n') chars chars.size supply.place
      if chars.size ≤ start then none
      else
        let stop := paragraphEnd chars chars.size start
        upTo start stop (stop + lengthUpTo (· != '\n') chars chars.size stop)
  | .blanks => if chars.size ≤ supply.place then none else upToChar ' '
  | .char c => if chars.size ≤ supply.place then none else upToChar c
  | .regex regex =>
      if chars.size ≤ supply.place then none
      else
        match Separator.find? regex chars supply.place with
        | some (start, stop) => upTo supply.place start stop
        | none => upTo supply.place chars.size chars.size

end Supply

/-- A name of a function's own: its value, and the array that it is. -/
structure Own where
  value : Value
  array : String

/-- A running program: the values of names, the arrays, the own names of functions that run, how
many arrays were made for them, the record and its fields, the number of the next operand, what
records are read from and whether that has ended, the input, other supplies with the codes of
commands, where is printed to with what commands will read, which rules go on, the files, what waits
to be printed and what was, the last one first, the seed and the code. -/
structure State where
  values : List (String × Value)
  tables : List (String × Table)
  frames : List (List (String × Own))
  made : Nat
  record : Value
  fields : List Value
  operand : Nat
  current : Option Supply
  finished : Bool
  input : Supply
  supplies : List (String × Supply × Nat)
  outlets : List (String × Option String)
  active : List Nat
  files : FileSystem
  waiting : List String
  written : List (Stream × String)
  seed : Value
  code : Nat

/-- Why a part of a run does not go on: a loop is left or begins again, a record, a file or the
whole input is left, a function gives a value, or the program fails. -/
inductive Jump where
  | leave
  | again
  | nextRecord
  | nextFile
  | exit
  | give (value : Value)
  | fault (complaint : String)

abbrev Running := ExceptT Jump (StateM State)

/-- What a program runs with: itself, who starts other programs, and what it starts with. -/
structure Setting where
  program : Program
  launch : Launcher
  scene : Scene

namespace Running

def attempt {α : Type} (part : Running α) : Running (Except Jump α) := fun state =>
  let (result, state) := part.run state
  (.ok result, state)

def shared (name : String) : Running Value := do
  return (((← get).values.find? fun one => one.1 == name).map (·.2)).getD .unset

def convert : Running String := do
  return (← shared "CONVFMT").toText "%.6g"

def textOf (value : Value) : Running String := do
  match value with
  | .text text | .seeming text => return text
  | _ => return value.toText (← convert)

def sharedText (name : String) : Running String := do
  textOf (← shared name)

def fail {α : Type} (complaint : String) : Running α := do
  let file ← sharedText "FILENAME"
  let inFile ← sharedText "FNR"
  let number ← sharedText "NR"
  let place := s!"FNR={inFile} NR={number}"
  throw (.fault (s!"run time error: {complaint}\n\tFILENAME=\"" ++ file ++ "\" " ++ place))

def separatorOf (text : String) : Running Separator := do
  match Separator.ofText text with
  | .ok separator => return separator
  | .error complaint => fail s!"regular expression compile failed ({complaint})\n{text}"

def expressionOf (text : String) : Running Regex := do
  match regexOf text.toList with
  | .ok regex => return regex
  | .error complaint => fail s!"regular expression compile failed ({complaint})\n{text}"

def setRecord (text : String) : Running Unit := do
  let separator ← separatorOf (← sharedText "FS")
  let fields := (separator.parts text).map Value.seeming
  modify fun state => { state with record := .seeming text, fields }

def joinRecord : Running Unit := do
  let texts ← (← get).fields.mapM textOf
  let text := (← sharedText "OFS").intercalate texts
  modify fun state => { state with record := .seeming text }

def own? (name : String) : Running (Option Own) := do
  let frame := (← get).frames.headD []
  return (frame.find? fun one => one.1 == name).map (·.2)

def valueOf (name : String) : Running Value := do
  match ← own? name with
  | some own => return own.value
  | none => if name = "NF" then return .ofNat (← get).fields.length else shared name

def arrayOf (name : String) : Running String := do
  return (← own? name).elim name (·.array)

def put {α : Type} (name : String) (value : α) (pairs : List (String × α)) : List (String × α) :=
  if pairs.any fun one => one.1 == name then
    pairs.map fun one => if one.1 == name then (name, value) else one
  else (name, value) :: pairs

def setFieldCount (value : Value) : Running Unit := do
  let count := Value.wholeOf value.toNumber
  if count < 0 then fail "negative value assigned to NF"
  modify fun state =>
    let fields := state.fields.take count.toNat
    { state with fields := fields ++ List.replicate (count.toNat - fields.length) .unset }
  joinRecord

def setValue (name : String) (value : Value) : Running Unit := do
  match ← own? name with
  | some own =>
      modify fun state =>
        let frame := put name { own with value } (state.frames.headD [])
        { state with frames := frame :: state.frames.drop 1 }
  | none =>
      if name = "NF" then setFieldCount value
      else modify fun state => { state with values := put name value state.values }

def field (number : Nat) : Running Value := do
  let state ← get
  if number = 0 then return state.record else return state.fields.getD (number - 1) .unset

def setField (number : Nat) (value : Value) : Running Unit := do
  if number = 0 then setRecord (← textOf value)
  else
    modify fun state =>
      let missing := number - state.fields.length
      let fields := state.fields ++ List.replicate missing .unset
      { state with fields := fields.set (number - 1) value }
    joinRecord

def table (array : String) : Running Table := do
  return (((← get).tables.find? fun one => one.1 == array).map (·.2)).getD Table.empty

def setTable (array : String) (table : Table) : Running Unit :=
  modify fun state => { state with tables := put array table state.tables }

def cell (array : String) (key : Key) : Running Value := do
  let table ← table array
  match table.find? key with
  | some value =>
      setTable array (table.reach key)
      return value
  | none =>
      setTable array (table.set key .unset)
      return .unset

def setCell (array : String) (key : Key) (value : Value) : Running Unit := do
  setTable array ((← table array).set key value)

def print (text : String) : Running Unit :=
  modify fun state => { state with waiting := text :: state.waiting }

def flush : Running Unit :=
  modify fun state =>
    let text := String.join state.waiting.reverse
    let written := if text.isEmpty then state.written else (Stream.output, text) :: state.written
    { state with waiting := [], written }

/-- Starts a command with something to read: its code, and what it wrote. -/
def start (setting : Setting) (command input : String) :
    Running (Nat × List (Stream × String)) := do
  flush
  let state ← get
  let scene := { setting.scene with files := state.files, input := ⟨input, false⟩ }
  match setting.launch scene "/bin/sh" ["/bin/sh", "-c", command] with
  | .ok ended =>
      let files := { ended.files with current := state.files.current }
      modify fun state => { state with files }
      let code := match ended.status with
        | .exited code => code
        | .killed signal => 256 + signal
      return (code, ended.written)
  | .error _ => return (127, [])

def passOn (written : List (Stream × String)) : Running Unit :=
  modify fun state => { state with written := written.reverse ++ state.written }

def restOfInput : Running String := do
  let input := (← get).input
  return String.ofList (Regex.between input.chars input.place input.chars.size)

/-- Ends printing to an outlet: the code of the command that reads it. -/
def closeOutlet (setting : Setting) (name : String) : Running Nat := do
  match (← get).outlets.find? fun one => one.1 == name with
  | none => return 0
  | some (_, text) =>
      modify fun state =>
        { state with outlets := state.outlets.filter fun one => one.1 != name }
      match text with
      | none => return 0
      | some text =>
          let (code, written) ← start setting name text
          passOn written
          return code

/-- Ends printing and reading under a name, and tells the code, if there was something to end. -/
def close (setting : Setting) (name : String) : Running Value := do
  let state ← get
  if state.outlets.any fun one => one.1 == name then
    return .ofNat (← closeOutlet setting name)
  else
    match state.supplies.find? fun one => one.1 == name with
    | some (_, _, code) =>
        modify fun state =>
          { state with supplies := state.supplies.filter fun one => one.1 != name }
        return .ofNat code
    | none => return .number (-1)

def printTo (setting : Setting) (behind : Bool) (name text : String) : Running Unit := do
  if ["/dev/stdout", "/dev/fd/1", "-"].contains name then print text
  else if ["/dev/stderr", "/dev/fd/2"].contains name then
    modify fun state => { state with written := (Stream.errors, text) :: state.written }
  else if name = "/dev/null" then return
  else
    let known := (← get).outlets.any fun one => one.1 == name
    let scene := setting.scene
    match scene.write (← get).files (known || behind) name text with
    | .ok files =>
        modify fun state =>
          { state with files, outlets := if known then state.outlets
              else state.outlets ++ [(name, none)] }
    | .error cause =>
        throw (.fault ("cannot open \"" ++ name ++ s!"\" for output ({plainMessage cause})"))

/-- Prints a text to a command, which reads all of it when it is closed. -/
def printToCommand (command text : String) : Running Unit := do
  let state ← get
  match state.outlets.find? fun one => one.1 == command with
  | some (_, before) =>
      let outlets := put command (some (before.getD "" ++ text)) state.outlets
      set { state with outlets }
  | none =>
      flush
      modify fun state => { state with outlets := state.outlets ++ [(command, some text)] }

def countUp (name : String) : Running Unit := do
  let number := (← shared name).toNumber
  setValue name (.number (number + 1))

def recordSeparator : Running Separator := do
  let text ← sharedText "RS"
  if text = " " then return .char ' ' else separatorOf text

/-- The variable that an operand sets, and its text. -/
def assignment? (operand : String) : Option (String × String) :=
  let name := operand.toList.takeWhile Token.isNameChar
  let behind := operand.toList.drop name.length
  if behind.head? = some '=' ∧ !name.isEmpty ∧ !(name.head?.any Char.isDigit) then
    some (String.ofList name, String.ofList (behind.drop 1))
  else none

def assign (name text : String) : Running Unit :=
  setValue name (.seeming (Token.plainText text))

/-- Goes on to the next file of records, if there is one; `count` operands are looked at. -/
def openNext (setting : Setting) : Nat → Running Bool
  | 0 => do
      modify fun state => { state with finished := true }
      return false
  | count + 1 => do
      let number := (← get).operand
      modify fun state => { state with operand := number + 1 }
      let most := Value.wholeOf (← shared "ARGC").toNumber
      if most ≤ number then
        if (← sharedText "FILENAME").isEmpty then
          setValue "FILENAME" (.text "-")
          modify fun state => { state with current := some state.input }
          return true
        else
          modify fun state => { state with finished := true }
          return false
      else
        let operand ← textOf (((← table "ARGV").find? (Key.mk (inBase 10 number) none)).getD .unset)
        match assignment? operand with
        | some (name, text) =>
            assign name text
            openNext setting count
        | none =>
            if operand.isEmpty then openNext setting count
            else
              let state ← get
              let scene := { setting.scene with files := state.files }
              setValue "FILENAME" (.text operand)
              setValue "FNR" (.number 0)
              if operand = "-" ∨ isInput operand then
                modify fun state => { state with current := some state.input }
                return true
              else
                match scene.read operand with
                | .ok text =>
                    modify fun state => { state with current := some (Supply.ofText text) }
                    return true
                | .error .isDirectory => throw (.fault "read error (Is a directory)")
                | .error cause =>
                    throw (.fault ("cannot open \"" ++ operand ++ s!"\" ({plainMessage cause})"))

/-- The text of the next record of the input, if there is one; at most a number of files is opened.
-/
def nextRecord (setting : Setting) : Nat → Running (Option String)
  | 0 => return none
  | count + 1 => do
      let state ← get
      match state.current with
      | none =>
          if state.finished then return none
          if ← openNext setting (count + 1) then nextRecord setting count else return none
      | some supply =>
          match supply.next? (← recordSeparator) with
          | some (text, rest) =>
              modify fun state => { state with current := some rest }
              countUp "NR"
              countUp "FNR"
              return some text
          | none =>
              modify fun state => { state with current := none }
              nextRecord setting count

def fileLimit : Nat := 100000

/-- The next record of a file or of what a command prints; nothing is told when there is no such
file.
-/
def nextFrom (setting : Setting) (isCommand : Bool) (name : String) :
    Running (Option (Option String)) := do
  let known := (← get).supplies.find? fun one => one.1 == name
  let supply : Option (Supply × Nat) ←
    match known with
    | some (_, supply, code) => pure (some (supply, code))
    | none =>
        if isCommand then
          let (code, written) ← start setting name (← restOfInput)
          passOn (written.filter fun one => one.1 == .errors)
          let printed := (written.filter fun one => one.1 == .output).map (·.2)
          pure (some (Supply.ofText (String.join printed), code))
        else if name = "-" ∨ isInput name then pure (some ((← get).input, 0))
        else
          match { setting.scene with files := (← get).files }.read name with
          | .ok text => pure (some (Supply.ofText text, 0))
          | .error _ => pure none
  match supply with
  | none => return none
  | some (supply, code) =>
      let found := supply.next? (← recordSeparator)
      let rest := (found.map (·.2)).getD supply
      modify fun state =>
        let others := state.supplies.filter fun one => one.1 != name
        { state with supplies := others ++ [(name, rest, code)] }
      return some (found.map (·.1))

end Running

end SqlColumns.Shell.Records
