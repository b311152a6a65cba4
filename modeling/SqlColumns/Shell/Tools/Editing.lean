import SqlColumns.Shell.Edit.Reader
import SqlColumns.Shell.Edit.Run
import SqlColumns.Shell.Report

/-!
# Editing lines

The program that runs scripts over lines: where its scripts come from, which lines are edited, and
what becomes of files that are edited where they are.
-/

set_option autoImplicit false

namespace SqlColumns.Shell.Tools

namespace Editing

/-- A part of a script: the file that it comes from, if it comes from one, and its text. -/
structure Part where
  file : Option String
  text : String

/-- The parts of a script that options give, or the file that cannot be read. -/
def partsOf (scene : Scene) (choices : List Choice) : Except (String × OsError) (List Part) := do
  let parts ← choices.mapM fun choice => do
    let value := choice.value.getD ""
    match choice.letter with
    | 'e' => return [⟨none, value⟩]
    | 'f' =>
        if value = "-" then return [⟨some "-", scene.input.text⟩]
        else
          match scene.read value with
          | .ok text => return [⟨some value, text⟩]
          | .error cause => throw (value, cause)
    | _ => return []
  return parts.flatten

/-- Where in the parts of a script a number of characters has been read: the part, how many of the
given expressions come before it, and how many characters of it were read. -/
def placeIn (place : Nat) : Nat → List Part → Option (Part × Nat × Nat)
  | _, [] => none
  | before, part :: rest =>
      let length := part.text.length
      if place ≤ length ∨ rest.isEmpty then some (part, before, min place (length + 1))
      else placeIn (place - length - 1) (if part.file.isNone then before + 1 else before) rest

def complaint (parts : List Part) (fault : Edit.Fault) : String :=
  match placeIn fault.place 0 parts with
  | some (⟨some file, text⟩, _, place) =>
      let line := ((text ++ "\n").toList.take place).count '\n' + 1
      s!"file {file} line {inBase 10 line}: {fault.message}"
  | some (_, before, place) =>
      s!"-e expression #{inBase 10 (before + 1)}, char {inBase 10 place}: {fault.message}"
  | none => fault.message

def markedParts (mark : Char) (text : String) : List (String × Bool) :=
  let parts := text.splitOn (String.singleton mark)
  let last := parts.getLastD ""
  parts.dropLast.map (·, true) ++ if last.isEmpty then [] else [(last, false)]

/-- What was read of the input: lines, complaints about files with their numbers, and whether a file
that cannot be read ended it. -/
structure Input where
  lines : List Edit.Line
  complaints : List (Nat × String)
  broken : Bool

def numberedFrom (start : Nat) (file : String) (fileNumber : Nat) (separate : Bool)
    (parts : List (String × Bool)) : List Edit.Line :=
  parts.zipIdx.map fun ((text, marked), index) =>
    ⟨text, marked, file, fileNumber, start + index, separate && index + 1 == parts.length⟩

def readInput (scene : Scene) (mark : Char) (separate inPlace : Bool) (names : List String) :
    Input :=
  let (lines, complaints, broken) := names.zipIdx.foldl
    (fun ((lines, complaints, broken) : List Edit.Line × List (Nat × String) × Bool)
        (name, number) =>
      if broken then (lines, complaints, broken)
      else
        let complain (complaint : String) : List (Nat × String) :=
          complaints ++ [(number, s!"{scene.called}: {complaint}\n")]
        let isFolder := name != "-" && scene.files.isDirectory (pathOf name)
        if isFolder then
          if inPlace then
            (lines, complain s!"couldn't edit {name}: not a regular file", true)
          else (lines, complain s!"read error on {name}: Is a directory", true)
        else
          match (if name = "-" then .ok scene.input.text else scene.read name) with
          | .ok text =>
              let start := if separate then 1 else lines.length + 1
              (lines ++ numberedFrom start name number separate (markedParts mark text),
                complaints, false)
          | .error cause =>
              (lines, complain s!"can't read {name}: {plainMessage cause}", false))
    ([], [], false)
  let lines := if separate then lines
    else lines.zipIdx.map fun (line, index) => { line with last := index + 1 == lines.length }
  ⟨lines, complaints, broken⟩

def backupName (ending name : String) : String :=
  if ending.toList.contains '*' then
    let last := (name.splitOn "/").getLastD ""
    let folder := name.toList.take (name.length - last.length)
    let full := ending.replace "*" last
    if full.toList.contains '/' then full else String.ofList folder ++ full
  else name ++ ending

/-- The files with one that was edited where it is. -/
def saved (files : FileSystem) (follows : Bool) (ending : Option String) (name text : String) :
    FileSystem :=
  let path := pathOf name
  match (if follows then files.locate path else ownLocation files path), files.locate path with
  | .ok place, .ok target =>
      let kept := match ending, files.read path with
        | some ending, .ok content =>
            let backup := ownPlace files (pathOf (backupName ending name))
            match backup with
            | .ok (.taken location) | .ok (.free location) =>
                files.setLike location (.file content) (files.ownMode? target)
            | .error _ => files
        | _, _ => files
      let entry : Entry := .file (Octets.toBytes text)
      kept.setLike place entry (some (files.modeAt target))
  | _, _ => files

def writtenFiles (commands : List Edit.Command) : List String :=
  commands.filterMap fun command =>
    match command.action with
    | .write name | .writeLine name => some name
    | .replace replacing => replacing.file
    | _ => none

/-- The files with those that a script writes to made, or the complaint about one that cannot be. -/
def openFiles (scene : Scene) (commands : List Edit.Command) : Except String FileSystem :=
  let names := (writtenFiles commands).filter fun name =>
    name != "/dev/stdout" && name != "/dev/stderr"
  names.foldlM (fun files name =>
    (scene.write files false name "").mapError fun cause =>
      s!"couldn't open file {name}: {plainMessage cause}") scene.files

/-- The options of the program. Those with Greek letters have no short form. -/
def grammar : Grammar :=
  ⟨"bsi::rEne:f:l:uzαβγδ",
    [("binary", 'b'), ("regexp-extended", 'r'), ("debug", 'α'), ("in-place", 'i'),
      ("expression", 'e'), ("file", 'f'), ("line-length", 'l'), ("null-data", 'z'),
      ("zero-terminated", 'z'), ("quiet", 'n'), ("posix", 'β'), ("silent", 'n'),
      ("sandbox", 'γ'), ("separate", 's'), ("unbuffered", 'u'), ("follow-symlinks", 'δ')]⟩

def usage : String :=
  "Usage: sed [OPTION]... \x7bscript-only-if-no-other-script\x7d [input-file]...\n"

def runOver (launch : Launcher) (scene : Scene) (choices : List Choice) (quiet : Bool)
    (commands : List Edit.Command) (files : FileSystem) (names : List String) : Ended :=
  let inPlace := given choices 'i'
  let mark := if given choices 'z' then '\x00' else '\n'
  let setting : Edit.Setting :=
    { commands := commands.toArray, quiet, inPlace, mark, launch, scene
      width := ((valueOf? choices 'l').map fun text => (count? text).getD 0).getD 70 }
  let separate := inPlace || given choices 's'
  let given := if names.isEmpty then ["-"] else names
  let input := readInput { scene with files } mark separate inPlace given
  let (code, state) := Edit.run setting files input.lines
  let reached := if code.isSome then state.line.fileNumber else given.length
  let complaints := input.complaints.filter fun one => one.1 ≤ reached
  let broken := input.broken && code.isNone
  let fault := state.fault.elim "" fun message =>
    s!"{scene.called}: -e expression #1, char 0: {message}\n"
  let final := if inPlace then
      let ending := (valueOf? choices 'i')
      given.zipIdx.foldl (fun files (name, number) =>
        if number ≤ reached && !(input.complaints.any fun one => one.1 == number) then
          let target := (state.edited.find? fun one => one.1 == number).elim "" (·.2.text)
          saved files (Shell.given choices 'δ') ending name target
        else files) state.files
    else state.files
  let errors := String.join (complaints.map (·.2)) ++ state.errors ++ fault
  let status := if broken then 4
    else if state.fault.isSome then 1
    else if !complaints.isEmpty then 2
    else code.getD 0
  let ended := { scene.ended status state.printed.text errors with files := final }
  if given.contains "-" then ended.afterReading else ended

end Editing

def edit (launch : Launcher) : Utility := fun scene words =>
  match Editing.grammar.read false words with
  | .error complaint => scene.ended 1 "" s!"{scene.called}: {complaint}\n{Editing.usage}"
  | .ok (choices, operands) =>
      let namesScript := given choices 'e' || given choices 'f'
      let names := if namesScript then operands else operands.drop 1
      if !namesScript ∧ operands.isEmpty then scene.ended 1 "" Editing.usage
      else
        let parts := if namesScript then Editing.partsOf scene choices
          else .ok [⟨none, operands.headD ""⟩]
        match parts with
        | .error (name, cause) =>
            scene.failure 4 s!"couldn't open file {name}: {plainMessage cause}"
        | .ok parts =>
            let script := "\n".intercalate (parts.map (·.text))
            let silent := script.startsWith "#n\n" || script == "#n"
            match Edit.commandsOf (given choices 'r' || given choices 'E') script with
            | .error fault => scene.failure 1 (Editing.complaint parts fault)
            | .ok commands =>
                match Edit.missingLabel? commands, Editing.openFiles scene commands with
                | some label, _ =>
                    scene.failure 4 ("can't find label for jump to \x60" ++ label ++ "'")
                | none, .error complaint => scene.failure 4 complaint
                | none, .ok files =>
                    if given choices 'i' ∧ names.isEmpty then scene.failure 4 "no input files"
                    else
                      Editing.runOver launch scene choices (given choices 'n' || silent) commands
                        files names

end SqlColumns.Shell.Tools
