import SqlColumns.Shell.Script.Run
import SqlColumns.Shell.Tools.Blocks
import SqlColumns.Shell.Tools.Columns
import SqlColumns.Shell.Tools.Comparing
import SqlColumns.Shell.Tools.Editing
import SqlColumns.Shell.Tools.Exchange
import SqlColumns.Shell.Tools.Expressions
import SqlColumns.Shell.Tools.Finding
import SqlColumns.Shell.Tools.Identity
import SqlColumns.Shell.Tools.Listing
import SqlColumns.Shell.Tools.Moments
import SqlColumns.Shell.Tools.Moving
import SqlColumns.Shell.Tools.Processing
import SqlColumns.Shell.Tools.Reading
import SqlColumns.Shell.Tools.Searching
import SqlColumns.Shell.Tools.Sorting
import SqlColumns.Shell.Tools.Starting
import SqlColumns.Shell.Tools.Sums

/-!
# Programs

The programs of a system, and how processes are started. Each program lies in a directory as a file
that begins with the mark of programs and its name, so that copies of it and links to it are the
same program. A file that begins with the two signs for it names the program that reads it.
-/

set_option autoImplicit false

namespace SqlColumns.Shell

/-- A program: what it does with its words, when it can start others. -/
abbrev Program := Launcher → Utility

def Utility.program (utility : Utility) : Program := fun _ => utility

def programs : List (String × Program) :=
  let utilities : List (String × Utility) :=
    [("true", Tools.idle 0), ("false", Tools.idle 1), ("sleep", Tools.sleep),
      ("printf", Tools.printf), ("echo", Tools.echo), ("pwd", Tools.printFolder),
      ("seq", Tools.seq),
      ("yes", Tools.yes), ("basename", Tools.basename), ("dirname", Tools.dirname),
      ("id", Tools.identify), ("uname", Tools.systemName), ("test", Tools.test false),
      ("[", Tools.test true), ("date", Tools.date moment), ("cat", Tools.concatenate),
      ("head", Tools.head), ("tail", Tools.tail), ("wc", Tools.count), ("tac", Tools.reversed),
      ("rev", Tools.mirrored), ("nl", Tools.numbered), ("od", Tools.dump),
      ("touch", Tools.touch), ("mkdir", Tools.makeDirectories), ("rmdir", Tools.removeDirectories),
      ("rm", Tools.remove), ("unlink", Tools.unlink), ("chmod", Tools.changeMode),
      ("chown", Tools.changeOwner "user"), ("chgrp", Tools.changeOwner "group"),
      ("truncate", Tools.truncate), ("tee", Tools.tee), ("mktemp", Tools.makeTemporary),
      ("sync", Tools.flush), ("cp", Tools.copy), ("mv", Tools.move), ("ln", Tools.link),
      ("link", Tools.linkPlainly), ("install", Tools.install),
      ("ls", Tools.list), ("dir", Tools.list), ("readlink", Tools.readLink),
      ("realpath", Tools.realPath), ("stat", Tools.status), ("du", Tools.diskUsage),
      ("dd", Tools.copyBlocks), ("split", Tools.split), ("cut", Tools.cut),
      ("paste", Tools.paste), ("fold", Tools.fold), ("expand", Tools.expand),
      ("unexpand", Tools.unexpand), ("tr", Tools.exchange), ("sort", Tools.sort),
      ("uniq", Tools.unique), ("comm", Tools.compareSorted), ("join", Tools.join),
      ("cmp", Tools.compareBytes), ("diff", Tools.compareLines),
      ("base64", Tools.writeLetters ⟨3, 4, Tools.letters64⟩),
      ("base32", Tools.writeLetters ⟨5, 8, Tools.letters32⟩),
      ("md5sum", Tools.printSums "MD5" Tools.sum128),
      ("sha1sum", Tools.printSums "SHA1" Tools.sum160),
      ("sha224sum", Tools.printSums "SHA224" Tools.sum224),
      ("sha256sum", Tools.printSums "SHA256" Tools.sum256),
      ("sha384sum", Tools.printSums "SHA384" Tools.sum384),
      ("sha512sum", Tools.printSums "SHA512" Tools.sum512), ("cksum", Tools.printChecks),
      ("expr", Tools.expression), ("printenv", Tools.printEnvironment), ("which", Tools.whereIs),
      ("whoami", Tools.printsAlways "root"), ("arch", Tools.printsAlways "x86_64"),
      ("groups", Tools.groupNames), ("logname", Tools.loginName), ("tty", Tools.terminalName),
      ("factor", Tools.factors), ("grep", Tools.search 'G'), ("egrep", Tools.search 'E'),
      ("fgrep", Tools.search 'F')]
  let starters : List (String × Program) :=
    [("sh", Script.shell), ("dash", Script.shell), ("find", Tools.find),
      ("sed", Tools.edit), ("awk", Tools.process), ("mawk", Tools.process),
      ("env", Tools.environment), ("nice", Tools.nice), ("nohup", Tools.keepRunning),
      ("timeout", Tools.limitTime), ("xargs", Tools.feedWords),
      ("stdbuf", Tools.plainStart "i:o:e:" [("input", 'i'), ("output", 'o'), ("error", 'e')]),
      ("setsid", Tools.plainStart "cfw" [("ctty", 'c'), ("fork", 'f'), ("wait", 'w')])]
  starters ++ utilities.map fun one => (one.1, one.2.program)

def programMark : String := "\x7fELF\n"

def programIn? (text : String) : Option Program :=
  if text.startsWith programMark then
    let name := (text.splitOn "\n")[1]?.getD ""
    (programs.find? fun one => one.1 == name).map (·.2)
  else none

/-- The words in front of a script that name the program which reads it: the path of it, and perhaps
one more word. -/
def interpreter? (text : String) : Option (List String) :=
  if text.startsWith "#!" then
    let blank (c : Char) : Bool := c == ' ' || c == '\t'
    let line := ((text.toList.drop 2).takeWhile (· != '\n')).dropWhile blank
    let path := line.takeWhile fun c => !blank c
    let behind := ((line.drop path.length).dropWhile blank).reverse.dropWhile blank
    if path.isEmpty then none
    else some (String.ofList path ::
      if behind.isEmpty then [] else [String.ofList behind.reverse])
  else none

/-- Starts the program at a path. At most `depth` processes are inside of each other. -/
def launch : Nat → Launcher
  | 0, _, _, _ => .error .noProgram
  | depth + 1, scene, path, words => do
      let location ← scene.files.locate (pathOf path)
      let some (.file content) := scene.files.entryAt? location | throw .permissionDenied
      if !scene.files.mayStart location then throw .permissionDenied
      let text := Octets.ofBytes content
      match programIn? text, interpreter? text with
      | some program, _ =>
          let scene := { scene with called := words.headD "" }
          return program (launch depth) scene (words.drop 1)
      | none, some (reader :: more) =>
          launch depth scene reader (reader :: more ++ path :: words.drop 1)
      | none, _ => throw .noProgram

/-- How many processes may be inside of each other. -/
def depthLimit : Nat := 500

def systemPrograms : Starter :=
  startByPath (launch depthLimit)

def programFolder : Location := ["usr", "bin"]

/-- The files with programs in their directory, and a second way to that directory. -/
def withPrograms (files : FileSystem) : FileSystem :=
  let install (files : FileSystem) (name : String) : FileSystem :=
    let location := programFolder ++ [name]
    let content := Octets.toBytes (programMark ++ name ++ "\n")
    (files.set location (.file content)).setMode location 0o755
  let installed := (programs.map (·.1)).foldl install (files.makeDirectories programFolder)
  installed.set ["bin"] (.link "usr/bin")

end SqlColumns.Shell
