import SqlColumns.CommandLine.Setting
import SqlColumns.Text.Split

/-!
# Reading command lines

Words are read from left to right at two levels: before the word for a command, and behind it. An
option without an attached value waits for the next word. What it was given counts only when the
next setting or the end of its level is reached; the level of the command ends first, so its faults
come before those of an option still open outside.
-/

set_option autoImplicit false

namespace SqlColumns.CommandLine

/-- What was given at a level: settings with their values in order, and the last option as long as
its value does not count yet. -/
structure Given where
  values : List (Setting × String)
  pending : Option (Setting × Option String)
  deriving DecidableEq, Repr

namespace Given

def nothing : Given := ⟨[], none⟩

def has (given : Given) (setting : Setting) : Bool :=
  given.values.any fun one => one.1 == setting

def value? (given : Given) (setting : Setting) : Option String :=
  (given.values.find? fun one => one.1 == setting).map (·.2)

def allValues (given : Given) (setting : Setting) : List String :=
  (given.values.filter fun one => one.1 == setting).map (·.2)

/-- The values that a word stands for: those between commas where a setting may be repeated. -/
def pieces (setting : Setting) (value : String) : List String :=
  if setting.repeats then Text.splitString ',' value else [value]

/-- Lets a setting count, once only unless it may be repeated; a path must not be empty. -/
def put (given : Given) (setting : Setting) (value : String) : Except UsageFault Given :=
  if given.has setting && !setting.repeats then .error .conflict
  else if setting.isPath && value.isEmpty then .error .badValue
  else
    .ok { given with
      values := given.values ++ (pieces setting value).map fun piece => (setting, piece) }

/-- Lets the open option count; one that still waits for its value is a fault. -/
def settle (given : Given) : Except UsageFault Given :=
  match given.pending with
  | none => .ok given
  | some (_, none) => .error .badValue
  | some (setting, some value) => put { given with pending := none } setting value

/-- Whether the next word is the value of the open option. -/
def waits (given : Given) : Bool :=
  match given.pending with
  | some (_, none) => true
  | _ => false

def fill (given : Given) (value : String) : Given :=
  { given with pending := given.pending.map fun one => (one.1, some value) }

/-- Obeys a switch; `attached` is the value written in the same word. -/
def obey (given : Given) (switch : Switch) (attached : Option String) :
    Except UsageFault Given :=
  match switch with
  | .setting setting =>
      if setting.isFlag then
        match attached with
        | some _ => .error .needlessValue
        | none => do (← given.settle).put setting ""
      else
        match attached with
        | some value => do (← given.settle).put setting value
        | none => do
            let settled ← given.settle
            return { settled with pending := some (setting, none) }
  | .help =>
      match attached with
      | some _ => .error .needlessValue
      | none => do
          let _ ← given.settle
          .error .help
  | .version =>
      match attached with
      | some _ => .error .needlessValue
      | none => do
          let _ ← given.settle
          .error .version

end Given

/-- A value behind a letter, without the sign of equality that may come first. -/
def attachedValue : List Char → String
  | '=' :: rest => String.ofList rest
  | rest => String.ofList rest

/-- Obeys letters behind one hyphen; the first that takes a value takes the rest of the word. -/
def readLetters (level : Level) (given : Given) : List Char → Except UsageFault Given
  | [] => .ok given
  | letter :: rest =>
      match level.short? letter with
      | none => .error .unknownArgument
      | some (.setting setting) =>
          if setting.isFlag then
            match given.obey (.setting setting) none with
            | .error fault => .error fault
            | .ok next => readLetters level next rest
          else
            given.obey (.setting setting) (if rest.isEmpty then none else some (attachedValue rest))
      | some switch => given.obey switch none

/-- Obeys a word behind two hyphens: a name, and a value behind a sign of equality. -/
def readName (level : Level) (given : Given) (word : List Char) : Except UsageFault Given :=
  let name := word.takeWhile (· != '=')
  match level.long? (String.ofList name) with
  | none => .error .unknownArgument
  | some switch =>
      match word.dropWhile (· != '=') with
      | [] => given.obey switch none
      | _ :: value => given.obey switch (some (String.ofList value))

def strayFault (level : Level) (escaped : Bool) (word : String) : UsageFault :=
  match level with
  | .inner _ => .unknownArgument
  | .outer =>
      if escaped && (word == helpWord || (CommandName.ofWord? word).isSome) then .unknownArgument
      else .unknownCommand

def helpFault : List String → UsageFault
  | [] => .help
  | [word] => if word = helpWord ∨ (CommandName.ofWord? word).isSome then .help else .unknownCommand
  | _ => .unknownCommand

/-- What a word is at a place of the command line. -/
inductive Word where
  | helpCommand
  | command (name : CommandName)
  | escape
  | long (rest : List Char)
  | letters (rest : List Char)
  | plain
  deriving DecidableEq, Repr

/-- What a word is. Commands are known outside of commands only, and not where a value is due; two
hyphens alone end all hyphens. -/
def wordAt (level : Level) (waiting escaped : Bool) (word : String) : Word :=
  if escaped then .plain
  else if level = .outer ∧ waiting = false ∧ word = helpWord then .helpCommand
  else
    match (if level = .outer ∧ waiting = false then CommandName.ofWord? word else none) with
    | some name => .command name
    | none =>
        match word.toList with
        | ['-', '-'] => .escape
        | '-' :: '-' :: rest => .long rest
        | ['-'] => .plain
        | '-' :: rest => .letters rest
        | _ => .plain

/-- Reads the words of a level up to the end or to the word for a command, which is given with the
words behind it. -/
def readLevel (level : Level) (given : Given) (escaped : Bool) :
    List String → Except UsageFault (Given × Option (CommandName × List String))
  | [] => .ok (given, none)
  | word :: words =>
      match wordAt level given.waits escaped word with
      | .helpCommand => .error (helpFault words)
      | .command name => .ok (given, some (name, words))
      | .escape => readLevel level given true words
      | .long rest =>
          match readName level given rest with
          | .error fault => .error fault
          | .ok next => readLevel level next false words
      | .letters rest =>
          match readLetters level given rest with
          | .error fault => .error fault
          | .ok next => readLevel level next false words
      | .plain =>
          if given.waits && !escaped then readLevel level (given.fill word) false words
          else .error (strayFault level escaped word)

/-- Lets environment variables stand in for settings that were not given. -/
def consult (environment : Environment) (given : Given) :
    List Setting → Except UsageFault Given
  | [] => .ok given
  | setting :: settings =>
      let found :=
        if given.has setting then none else setting.environmentName?.bind environment.value?
      match found with
      | none => consult environment given settings
      | some value =>
          match given.put setting value with
          | .error fault => .error fault
          | .ok next => consult environment next settings

/-- Checks that a command has what it needs: a workbook, and for a push the branches and the
message, but no dry run. -/
def validate (name : CommandName) (given : Given) : Except UsageFault Unit :=
  if given.has .push && given.has .dryRun then .error .conflict
  else if name != .doctor && !given.has .workbook then .error .missingArgument
  else if given.has .push &&
      !(given.has .defaultBranch && given.has .branch && given.has .message) then
    .error .missingArgument
  else .ok ()

def readCommand (environment : Environment) (name : CommandName) (words : List String) :
    Except UsageFault Given := do
  let (read, _) ← readLevel (.inner name) .nothing false words
  let settled ← read.settle
  let given ← consult environment settled name.own
  validate name given
  return given

namespace Given

/-- The value of a setting, or the one that stands for its absence. -/
def text (given : Given) (setting : Setting) (default : String) : String :=
  (given.value? setting).getD default

def layout (given : Given) : Layout :=
  let default : Layout := {}
  { columnHeader := given.text .columnHeader default.columnHeader
    changeTypeHeader := given.text .changeTypeHeader default.changeTypeHeader
    renameMarker := given.text .renameMarker default.renameMarker
    oldHeader := given.text .oldHeader default.oldHeader
    newHeader := given.text .newHeader default.newHeader
    fileHeader := given.text .fileHeader default.fileHeader }

def workbook (given : Given) : Path :=
  ⟨given.text .workbook ""⟩

def book (given : Given) : BookOptions :=
  { workbook := given.workbook
    sheets := given.allValues .sheet
    resultSheet := given.text .resultSheet defaultResultSheet }

def action (given : Given) : CommandName → Action
  | .sheets => .sheets given.workbook
  | .scan =>
      .scan
        { book := given.book
          layout := given.layout
          noWrite := given.has .noWrite
          skipHidden := given.has .skipHidden
          respectIgnore := given.has .respectIgnore }
  | .rename =>
      .rename
        { book := given.book
          layout := given.layout
          dryRun := given.has .dryRun
          push := given.has .push
          defaultBranch := given.value? .defaultBranch
          branch := given.value? .branch
          message := given.value? .message }
  | .doctor => .doctor

end Given

/-- The invocation of a command; what is given behind its word counts before what is given in front
of it. -/
def invocation (outer inner : Given) (name : CommandName) : Invocation :=
  let text (setting : Setting) (default : String) : String :=
    inner.text setting (outer.text setting default)
  let flag (setting : Setting) : Bool := inner.has setting || outer.has setting
  { root := ⟨text .root "."⟩
    format := text .format "jsonl"
    noColour := flag .noColour
    quiet := flag .quiet
    verbose := flag .verbose
    pretty := flag .pretty
    action := inner.action name }

/-- The invocation that the words of a command line ask for. -/
def parse (environment : Environment) (words : List String) : Except UsageFault Invocation := do
  let (outer, command) ← readLevel .outer .nothing false words
  match command with
  | some (name, rest) =>
      let inner ← readCommand environment name rest
      let settled ← outer.settle
      return invocation settled inner name
  | none =>
      let settled ← outer.settle
      throw (if settled.values.isEmpty then .nothingGiven else .noCommand)

end SqlColumns.CommandLine
