import SqlColumns.Git.Command
import SqlColumns.Shell.Octets

/-!
# Processes

What a process starts with and how it ends, and what a run of a command is given the way its process
ended: a process that does not exit with zero fails with what it complained of, and what is printed
is read as text whatever its bytes are. Everything that a process reads, writes or is told is a text
in octets.
-/

set_option autoImplicit false

namespace SqlColumns

namespace Shell

/-- How a process ends: by itself with a code, or by a signal. -/
inductive Status where
  | exited (code : Nat)
  | killed (signal : Nat)
  deriving DecidableEq, Repr

def Status.code : Status → Nat
  | .exited code => code
  | .killed signal => 128 + signal

/-- Where a process writes to. A text for the clock is none: the clock is put forward by a number of
microseconds, or back to where a process has ended from what others have written for it since. -/
inductive Stream where
  | output
  | errors
  | clock (shift : Int)
  deriving DecidableEq, Repr

/-- What is left to read for a process, and whether what it has read too much can be given back. -/
structure Feed where
  text : String
  seekable : Bool
  deriving DecidableEq, Repr

/-- What a process starts with: the files with its directory as the current one, what it can read,
its environment, the permissions that new files do not get, and the name that it is called by. -/
structure Scene where
  files : FileSystem
  input : Feed
  environment : List (String × String)
  mask : Nat
  called : String
  deriving Repr

/-- A process that has ended: what it wrote, in order, what it left unread, and the files that it
left behind. -/
structure Ended where
  status : Status
  written : List (Stream × String)
  left : Feed
  files : FileSystem
  deriving Repr

def Ended.writtenTo (ended : Ended) (stream : Stream) : String :=
  String.join ((ended.written.filter fun one => one.1 == stream).map (·.2))

def Ended.afterReading (ended : Ended) : Ended :=
  { ended with left := { ended.left with text := "" } }

/-- A process that exited with a code; what it complained of comes before what it printed. -/
def Scene.ended (scene : Scene) (code : Nat) (output errors : String) : Ended :=
  let written := (if errors.isEmpty then [] else [(Stream.errors, errors)]) ++
    if output.isEmpty then [] else [(Stream.output, output)]
  ⟨.exited code, written, scene.input, scene.files⟩

/-- A process that printed something, changed no file and exited with zero. -/
def Scene.success (scene : Scene) (output : String) : Ended :=
  scene.ended 0 output ""

/-- A process that complained under its name and exited with a code. -/
def Scene.failure (scene : Scene) (code : Nat) (complaint : String) : Ended :=
  scene.ended code "" s!"{scene.called}: {complaint}\n"

def pathOf (name : String) : Path :=
  .ofBytes (Octets.toBytes name)

def Scene.textOf? (scene : Scene) (name : String) : Option String :=
  (scene.environment.find? fun one => one.1 == name).map (·.2)

/-- Who starts processes: the process that words call for, or why it cannot be started. -/
abbrev Starter := Scene → List String → Except OsError Ended

/-- Who starts the programs at paths, with words of which the first one is the name they are called
by. -/
abbrev Launcher := Scene → String → List String → Except OsError Ended

def Ended.outcome (ended : Ended) : Except String CommandOutput :=
  let output := Octets.toText (ended.writtenTo .output)
  let errors := Octets.toText (ended.writtenTo .errors)
  if ended.status = .exited 0 then .ok ⟨output, errors⟩ else .error (Text.trimStringEnd errors)

/-- A text that no process can be given: one with a zero character in it. -/
def unfit (text : String) : Bool :=
  text.toList.contains '\x00'

/-- The moment at which everything happens, in seconds since the start of 1970. -/
def moment : Nat := 1763208000

def usualEnvironment : List (String × String) :=
  [("PATH", "/usr/local/sbin:/usr/local/bin:/usr/sbin:/usr/bin:/sbin:/bin"), ("HOME", "/root")]

def sceneIn (files : FileSystem) (folder : Location) (program : String) : Scene :=
  ⟨{ files with current := folder }, ⟨"", true⟩, usualEnvironment, 0o022, program⟩

/-- Starts a process for a call, in the directory of the call and with nothing to read: what becomes
of the call, and the files afterwards. -/
def perform (start : Starter) (call : Call) : Except String CommandOutput × FileSystem :=
  let command := call.command
  if (command.program :: call.folder.text :: command.arguments).any unfit then
    (.error "nul byte found in provided data", call.files)
  else
    match call.files.locate call.folder with
    | .error cause => (.error cause.message, call.files)
    | .ok folder =>
        if call.files.entryAt? folder = some .directory then
          let words := (command.program :: command.arguments).map Octets.ofText
          match start (sceneIn call.files folder (words.headD "")) words with
          | .error cause => (.error cause.message, call.files)
          | .ok ended => (ended.outcome, { ended.files with current := call.files.current })
        else (.error OsError.notDirectory.message, call.files)

def runner (start : Starter) : CommandRunner := fun _ call =>
  (perform start call).1

/-- A program that does nothing, and no other program. -/
def silentOnly (program : String) : Starter := fun scene words =>
  if words.head? = some program then .ok (scene.success "") else .error .notFound

def nothingStarts : Starter := fun _ _ => .error .notFound

end Shell

end SqlColumns
