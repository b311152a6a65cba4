import SqlColumns.Shell.Report
import SqlColumns.Shell.Tools.Printing

/-!
# Who and where

The programs that tell who runs a process and on what system. Everything is run by the first user,
with no terminal.
-/

set_option autoImplicit false

namespace SqlColumns.Shell.Tools

def isUser (name : String) : Bool :=
  name == "root" || name == "0" || name == "+0"

/-- Prints who runs the process, or who users are. -/
def identify : Utility :=
  withOptions 1 ⟨"augGnrz", [("user", 'u'), ("group", 'g'), ("groups", 'G'), ("name", 'n'),
    ("real", 'r'), ("zero", 'z')]⟩ false fun scene choices names =>
      let alone := choices.any fun choice => "ugG".toList.contains choice.letter
      let ending := if given choices 'z' then "\x00" else "\n"
      let line := if !alone then "uid=0(root) gid=0(root) groups=0(root)"
        else if given choices 'n' then "root"
        else "0"
      if (given choices 'n' || given choices 'r') && !alone then
        scene.failure 1 "printing only names or real IDs requires -u, -g, or -G"
      else
        let names := if names.isEmpty then ["root"] else names
        scene.doEach names fun work name =>
          if isUser name then work.print (line ++ ending)
          else work.complain s!"{scene.called}: {cited name}: no such user\n"

def groupNames : Utility :=
  withOptions 1 ⟨"", []⟩ false fun scene _ names =>
    if names.isEmpty then scene.success "root\n"
    else
      scene.doEach names fun work name =>
        if name = "root" then work.print "root : root\n"
        else work.complain s!"{scene.called}: {cited name}: no such user\n"

def printsAlways (line : String) : Utility :=
  withOptions 1 ⟨"", []⟩ false fun scene _ operands =>
    match operands with
    | [] => scene.success (line ++ "\n")
    | extra :: _ => extraOperand 1 extra scene operands

def loginName : Utility :=
  withOptions 1 ⟨"", []⟩ false fun scene _ operands =>
    match operands with
    | [] => scene.failure 1 "no login name"
    | extra :: _ => extraOperand 1 extra scene operands

def terminalName : Utility :=
  withOptions 2 ⟨"s", [("silent", 's'), ("quiet", 's')]⟩ false fun scene choices operands =>
    match operands with
    | [] => scene.ended 1 (if given choices 's' then "" else "not a tty\n") ""
    | extra :: _ => extraOperand 2 extra scene operands

def systemName : Utility :=
  withOptions 1 ⟨"som", [("kernel-name", 's'), ("operating-system", 'o'), ("machine", 'm')]⟩ false
    fun scene choices operands =>
      match operands with
      | extra :: _ => extraOperand 1 extra scene operands
      | [] =>
          let names := (if given choices 's' || choices.isEmpty then ["Linux"] else []) ++
            (if given choices 'm' then ["x86_64"] else []) ++
            if given choices 'o' then ["GNU/Linux"] else []
          scene.success (" ".intercalate names ++ "\n")

/-- The prime factors of a number from a divisor on, which are tried up to `fuel` times. -/
def factorsFrom : Nat → Nat → Nat → List Nat
  | 0, _, number => if number ≤ 1 then [] else [number]
  | fuel + 1, divisor, number =>
      if number ≤ 1 then []
      else if number < divisor * divisor then [number]
      else if number % divisor = 0 then divisor :: factorsFrom fuel divisor (number / divisor)
      else factorsFrom fuel (if divisor = 2 then 3 else divisor + 2) number

def factors : Utility :=
  withOptions 1 ⟨"h", [("exponents", 'h')]⟩ false fun scene _ words =>
    let texts := if words.isEmpty then
        (scene.input.text.toList.splitBy fun left right => isSpace left == isSpace right).filterMap
          fun part => if part.any isSpace then none else some (String.ofList part)
      else words
    let ended := scene.doEach texts fun work text =>
      match count? (if text.startsWith "+" then String.ofList (text.toList.drop 1) else text) with
      | some number =>
          let parts := (factorsFrom 0x100000 2 number).map fun one => " " ++ inBase 10 one
          work.print (inBase 10 number ++ ":" ++ String.join parts ++ "\n")
      | none => work.complain s!"{scene.called}: {cited text} is not a valid positive integer\n"
    if words.isEmpty then ended.afterReading else ended

end SqlColumns.Shell.Tools
