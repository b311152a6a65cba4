import SqlColumns.Failure

/-!
# Commands and those who run them

A command is a program with arguments. Who runs commands is a function: the answer to a call is
made from the call and from all calls before it. A call remembers the files that it saw, so that
the order of calls and of changes to files can be read off the calls.
-/

set_option autoImplicit false

namespace SqlColumns

/-- A program and its arguments. -/
structure Command where
  program : String
  arguments : List String
  deriving DecidableEq, Repr

def Command.line (command : Command) : String :=
  " ".intercalate (command.program :: command.arguments)

/-- What a command that succeeded printed. -/
structure CommandOutput where
  output : String
  errors : String
  deriving DecidableEq, Repr, Inhabited

/-- A command run in a directory, and the files at that time. -/
structure Call where
  command : Command
  folder : Path
  files : FileSystem
  deriving Repr

/-- Who runs commands: what becomes of a call, given the calls before it. A command that fails
gives its complaint. The type has two assumptions in it: that running a command changes no file
(no file effect), and that nothing fails but a command, with a complaint (command failures only). -/
abbrev CommandRunner := List Call → Call → Except String CommandOutput

/-- A rehearsed runner: the call with the number `failAt` fails with `complaint`, any other one
prints what is listed under its number. -/
structure Script where
  failAt : Option Nat
  complaint : String
  outputs : List CommandOutput
  deriving DecidableEq, Repr

def Script.runner (script : Script) : CommandRunner := fun earlier _ =>
  if script.failAt = some earlier.length then .error script.complaint
  else .ok (script.outputs[earlier.length]?.getD ⟨"", ""⟩)

end SqlColumns
