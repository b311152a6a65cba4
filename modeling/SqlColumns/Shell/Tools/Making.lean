import SqlColumns.Shell.Mode
import SqlColumns.Shell.Report
import SqlColumns.Shell.Tools.Printing

/-!
# Programs that make and remove files

The small programs that make files and directories, remove them, or change their permissions and
sizes.
-/

set_option autoImplicit false

namespace SqlColumns.Shell.Tools

def touch : Utility :=
  withOptions 1 ⟨"acd:fhmr:t:", [("no-create", 'c'), ("date", 'd'), ("reference", 'r'),
    ("time", 't'), ("no-dereference", 'h')]⟩ false fun scene choices names =>
      if names.isEmpty then missingOperand 1 "file operand" scene names
      else
        scene.doEach names fun work name =>
          if (work.files.lookup (pathOf name)).isOk || given choices 'c' then work
          else
            match scene.write work.files true name "" with
            | .ok files => work.become files
            | .error cause =>
                work.complain <|
                  if cause = .isDirectory then
                    let reason := plainMessage .notFound
                    s!"{scene.called}: setting times of {quoted name}: {reason}\n"
                  else s!"{scene.called}: cannot touch {quoted name}: {plainMessage cause}\n"

/-- The parts of a path from its start to the end of each name in it. -/
def pathPrefixes (name : String) : List String :=
  let chars := name.toList
  let ends := (List.range chars.length).filter fun place =>
    chars[place]? != some '/' && (chars[place + 1]?).all (· == '/')
  ends.map fun place => String.ofList (chars.take (place + 1))

def cannotMake (scene : Scene) (name reason : String) : String :=
  s!"{scene.called}: cannot create directory {quoted name}: {reason}\n"

def makeFolder (scene : Scene) (mode : Option Nat) (parents told : Bool) (work : Work)
    (name : String) : Work × Bool :=
  let stripped := String.ofList (withoutSlashes name)
  let path := if stripped.isEmpty then name else stripped
  match ownPlace work.files (pathOf path) with
  | .error cause => (work.complain (cannotMake scene name (plainMessage cause)), false)
  | .ok (.taken location) =>
      if parents ∧ (work.files.isDirectory (pathOf path) ∨
          work.files.entryAt? location = some .directory) then (work, true)
      else (work.complain (cannotMake scene name "File exists"), false)
  | .ok (.free location) =>
      let made := scene.make work.files location .directory 0o777
      let made :=
        match mode with
        | some mode => made.setMode location mode
        | none => made
      ((work.become made).tell told s!"{scene.called}: created directory {quoted name}", true)

def makeFolders (scene : Scene) (mode : Option Nat) (told : Bool) :
    Work → List String → Work
  | work, [] => work
  | work, [last] => (makeFolder scene mode true told work last).1
  | work, front :: rest =>
      if !work.files.isDirectory (pathOf front) ∧ (lookupOwn? work.files (pathOf front)).isSome then
        work.complain (cannotMake scene front (plainMessage .notDirectory))
      else
        match makeFolder scene none true told work front with
        | (work, true) => makeFolders scene mode told work rest
        | (work, false) => work

def makeDirectories : Utility :=
  withOptions 1 ⟨"m:pvZ", [("mode", 'm'), ("parents", 'p'), ("verbose", 'v')]⟩ false
    fun scene choices names =>
      let told := given choices 'v'
      let wanted := valueOf? choices 'm'
      let mode := wanted.bind fun text => Mode.change? text scene.mask true 0o777
      if names.isEmpty then missingOperand 1 "operand" scene names
      else if wanted.isSome ∧ mode.isNone then
        scene.failure 1 ("invalid mode " ++ cited (wanted.getD ""))
      else
        scene.doEach names fun work name =>
          let parts := pathPrefixes name
          if given choices 'p' ∧ !parts.isEmpty then makeFolders scene mode told work parts
          else (makeFolder scene mode (given choices 'p') told work name).1

def removeFolder (files : FileSystem) (name : String) : Except String FileSystem :=
  let own := String.ofList (withoutSlashes name)
  match lookupOwn? files (pathOf own) with
  | some (.link _) => .error (if own = name then plainMessage .notDirectory
      else "Symbolic link not followed")
  | _ =>
      match ownLocation files (pathOf name) with
      | .error cause => .error (plainMessage cause)
      | .ok location =>
          if files.entryAt? location ≠ some .directory then .error (plainMessage .notDirectory)
          else if lastName name "" = "." then .error "Invalid argument"
          else if files.isEmptyAt location then .ok (files.remove location)
          else .error "Directory not empty"

/-- Removes empty directories, and those that they lie in if asked to. -/
def removeDirectories : Utility :=
  withOptions 1 ⟨"pvF", [("parents", 'p'), ("verbose", 'v'),
    ("ignore-fail-on-non-empty", 'F')]⟩ false fun scene choices names =>
      if names.isEmpty then missingOperand 1 "operand" scene names
      else
        let remove (kind : String) (work : Work) (name : String) : Work × Bool :=
          let news := s!"{scene.called}: removing directory, {quoted name}"
          let work := work.tell (given choices 'v') news
          match removeFolder work.files name with
          | .ok files => (work.become files, true)
          | .error reason =>
              if given choices 'F' ∧ reason = "Directory not empty" then (work, false)
              else
                let start := s!"{scene.called}: failed to remove "
                (work.complain (start ++ s!"{kind}{quoted name}: {reason}\n"), false)
        scene.doEach names fun work name =>
          let (work, removed) := remove "" work name
          let deep := given choices 'p' && removed
          let above := if deep then (pathPrefixes name).dropLast.reverse else []
          (above.foldl (fun (work, removed) folder =>
            if removed then remove "directory " work folder else (work, false)) (work, true)).1

def kindName (entry : Entry) : String :=
  match entry with
  | .file [] => "regular empty file"
  | .file _ => "regular file"
  | .directory => "directory"
  | .link _ => "symbolic link"
  | .device _ => "character special file"

/-- How files are removed: without complaints of those that are not there, with what is in
directories, with empty directories, with words about it, and after questions. -/
structure Removal where
  forced : Bool
  deep : Bool
  empty : Bool
  told : Bool
  asking : Bool

/-- Removes what lies at a location and below it, deepest first, with the path that leads there. -/
def removeTree (scene : Scene) (how : Removal) (work : Work) (location : Location)
    (name : String) : Work :=
  let tree := (FileSystem.inOrder (work.files.subtree location)).reverse
  let shown (below : Location) : String :=
    below.foldl (fun path step => inside path (Octets.ofText step))
      (String.ofList (withoutSlashes name))
  let (start, work) :=
    if how.asking ∧ 1 < tree.length then
      work.ask s!"{scene.called}: descend into directory {quoted name}? "
    else (true, work)
  if !start then work
  else
    tree.foldl (fun work (below, entry) =>
      let path := shown below
      let (agreed, work) :=
        if how.asking then work.ask s!"{scene.called}: remove {kindName entry} {quoted path}? "
        else (true, work)
      let kind := if entry = .directory then "directory " else ""
      if !agreed then work
      else if !work.files.isEmptyAt (location ++ below) then work
      else
        (work.become (work.files.remove (location ++ below))).tell how.told
          s!"removed {kind}{quoted path}") work

def removeOne (scene : Scene) (how : Removal) (work : Work) (name : String) : Work :=
  let refused (reason : String) : Work :=
    work.complain s!"{scene.called}: cannot remove {quoted name}: {reason}\n"
  let stripped := String.ofList (withoutSlashes name)
  let last := lastName name ""
  if how.deep ∧ !name.isEmpty ∧ stripped.isEmpty then
    work.complain (s!"{scene.called}: it is dangerous to operate recursively on {quoted name}\n" ++
      s!"{scene.called}: use --no-preserve-root to override this failsafe\n")
  else if how.deep ∧ (last = "." ∨ last = "..") then
    let reason := "refusing to remove '.' or '..' directory: skipping "
    work.complain (s!"{scene.called}: " ++ reason ++ quoted name ++ "\n")
  else
    match ownPlace work.files (pathOf name) with
    | .ok (.free _) | .error .notFound =>
        if how.forced then work else refused (plainMessage .notFound)
    | .error cause =>
        if how.forced ∧ cause = .notDirectory then work else refused (plainMessage cause)
    | .ok (.taken location) =>
        let through := name != stripped &&
          match lookupOwn? work.files (pathOf stripped) with
          | some (.link _) => true
          | _ => false
        if work.files.entryAt? location = some .directory then
          if how.deep then
            if through then refused (plainMessage .notDirectory)
            else removeTree scene how work location name
          else if how.empty then
            if work.files.isEmptyAt location then removeTree scene how work location name
            else refused "Directory not empty"
          else refused (plainMessage .isDirectory)
        else removeTree scene how work location name

def remove : Utility :=
  withOptions 1 ⟨"dfiIrRv", [("force", 'f'), ("recursive", 'r'), ("dir", 'd'), ("verbose", 'v'),
    ("interactive", 'i'), ("no-preserve-root", 'N'), ("preserve-root", 'P'),
    ("one-file-system", 'x')]⟩ false fun scene choices names =>
      let forced := lastOf? choices "fi" == some 'f'
      let how : Removal :=
        ⟨forced, given choices 'r' || given choices 'R', given choices 'd', given choices 'v',
          lastOf? choices "fi" == some 'i'⟩
      if names.isEmpty ∧ !forced then missingOperand 1 "operand" scene names
      else scene.doEach names (removeOne scene how)

def unlink : Utility :=
  withOptions 1 ⟨"", []⟩ false fun scene _ names =>
    match names with
    | [] => missingOperand 1 "operand" scene names
    | [name] =>
        scene.doEach [name] fun work name =>
          let refused (cause : OsError) : Work :=
            work.complain s!"{scene.called}: cannot unlink {quoted name}: {plainMessage cause}\n"
          match ownLocation work.files (pathOf name) with
          | .error cause => refused cause
          | .ok location =>
              if work.files.entryAt? location = some .directory then refused .isDirectory
              else work.become (work.files.remove location)
    | _ :: extra :: _ => extraOperand 1 extra scene names

/-- A word that spells permissions although it begins like an option. -/
def isModeWord (word : String) : Bool :=
  match word.toList with
  | '-' :: c :: _ => "rwxXstugo01234567".toList.contains c
  | _ => false

/-- What is said of permissions that were changed or kept. -/
def modeNews (name : String) (old new : Nat) : String :=
  let shown (mode : Nat) : String := s!"{Mode.octal 4 mode} ({Mode.columns mode})"
  if old = new then s!"mode of {quoted name} retained as {shown old}"
  else s!"mode of {quoted name} changed from {shown old} to {shown new}"

/-- How permissions are changed: in directories too, with words about each, with words about
changes, and without complaints. -/
structure ModeManner where
  deep : Bool
  told : Bool
  changes : Bool
  silent : Bool

def changeModeOf (scene : Scene) (how : ModeManner) (mode : Bool → Nat → Nat) (work : Work)
    (name : String) : Work :=
  match work.files.locate (pathOf name) with
  | .error cause =>
      let dangling := cause = .notFound && (lookupOwn? work.files (pathOf name)).isSome
      let complaint :=
        if dangling then s!"{scene.called}: cannot operate on dangling symlink {quoted name}\n"
        else s!"{scene.called}: cannot access {quoted name}: {plainMessage cause}\n"
      let failed : Work := { work with report := { work.report with failed := true } }
      let work := if how.silent then failed else work.complain complaint
      work.tell (how.told && !dangling) (quoted name ++ " could not be accessed")
  | .ok location =>
      let tree := FileSystem.inOrder (work.files.subtree location)
      (if how.deep then tree else tree.take 1).foldl (fun work (below, entry) =>
        let place := location ++ below
        let path := below.foldl (fun path step => inside path (Octets.ofText step)) name
        match entry with
        | .link _ => work
        | _ =>
            let old := work.files.modeAt place
            let new := mode (entry == .directory) old
            (work.become (work.files.setMode place new)).tell
              (how.told || (how.changes && old != new)) (modeNews path old new)) work

def changeMode : Utility := fun scene words =>
  let spelled := words.find? isModeWord
  let rest := match spelled with
    | some word => words.erase word
    | none => words
  let grammar : Grammar := ⟨"RvcfF:", [("recursive", 'R'), ("verbose", 'v'), ("changes", 'c'),
    ("silent", 'f'), ("quiet", 'f'), ("reference", 'F')]⟩
  withOptions 1 grammar false (fun scene choices operands =>
    let how : ModeManner :=
      ⟨given choices 'R', given choices 'v', given choices 'c', given choices 'f'⟩
    let model := valueOf? choices 'F'
    let operands := match spelled, model with
      | some word, none => word :: operands
      | none, some _ => "" :: operands
      | _, _ => operands
    match operands, model with
    | [], _ => missingOperand 1 "operand" scene words
    | [text], _ => missingOperand 1 ("operand after " ++ cited text) scene words
    | text :: names, none =>
        if (Mode.change? text scene.mask false 0).isNone then
          scene.misuse 1 ("invalid mode: " ++ cited text)
        else
          scene.doEach names (changeModeOf scene how fun folder old =>
            (Mode.change? text scene.mask folder old).getD old)
    | _ :: names, some name =>
        match scene.files.locate (pathOf name) with
        | .error cause =>
            scene.failure 1 s!"failed to get attributes of {quoted name}: {plainMessage cause}"
        | .ok location =>
            scene.doEach names (changeModeOf scene how fun _ _ => scene.files.modeAt location))
    scene rest

def changeOwner (kind : String) : Utility :=
  withOptions 1 ⟨"Rvcfh", [("recursive", 'R'), ("verbose", 'v')]⟩ false
    fun scene _ operands =>
      match operands with
      | [] => missingOperand 1 "operand" scene operands
      | [owner] => missingOperand 1 ("operand after " ++ cited owner) scene operands
      | owner :: names =>
          let known (name : String) : Bool := name.isEmpty || name == "root" || isCount name
          let parts := owner.splitOn ":"
          if !parts.all known then scene.failure 1 s!"invalid {kind}: {cited owner}"
          else
            scene.doEach names fun work name =>
              match work.files.locate (pathOf name) with
              | .ok _ => work
              | .error cause =>
                  work.complain
                    s!"{scene.called}: cannot access {quoted name}: {plainMessage cause}\n"

/-- Text cut or filled up with zeros to a length. -/
def resized (length : Nat) (text : List UInt8) : List UInt8 :=
  text.take length ++ List.replicate (length - text.length) 0

def wantedSize (sign : Option Char) (count old : Nat) : Nat :=
  match sign with
  | some '+' => old + count
  | some '-' => old - count
  | some '<' => min old count
  | some '>' => max old count
  | some '/' => if count = 0 then old else old / count * count
  | some '%' => if count = 0 then old else (old + count - 1) / count * count
  | _ => count

def truncate : Utility :=
  withOptions 1 ⟨"cor:s:", [("no-create", 'c'), ("size", 's'), ("reference", 'r')]⟩ false
    fun scene choices names =>
      let text := valueOf? choices 's'
      let model := (valueOf? choices 'r').bind fun name => (scene.files.size (pathOf name)).toOption
      let sign := text.bind fun text => text.toList.head?.filter "+-<>/%".toList.contains
      let digits := text.map fun text =>
        if sign.isSome then String.ofList (text.toList.drop 1) else text
      let count := (digits.bind sizedCount?).or model
      match text, count, names with
      | none, none, _ => scene.misuse 1 "you must specify either '--size' or '--reference'"
      | some text, none, _ => scene.failure 1 s!"Invalid number: {cited text}"
      | _, some _, [] => missingOperand 1 "file operand" scene names
      | _, some count, _ =>
          scene.doEach names fun work name =>
            let refused (cause : OsError) : Work :=
              work.complain
                s!"{scene.called}: cannot open {quoted name} for writing: {plainMessage cause}\n"
            match work.files.read (pathOf name) with
            | .ok content =>
                let size := wantedSize sign count content.length
                match work.files.write (pathOf name) (resized size content) with
                | .ok files => work.become files
                | .error cause => refused cause
            | .error .notFound =>
                if given choices 'c' then work
                else
                  match scene.write work.files false name "" with
                  | .ok files =>
                      let content := resized (wantedSize sign count 0) []
                      work.become ((files.write (pathOf name) content).toOption.getD files)
                  | .error cause => refused cause
            | .error cause => refused cause

def tee : Utility :=
  withOptions 1 ⟨"aip", [("append", 'a'), ("ignore-interrupts", 'i')]⟩ false
    fun scene choices names =>
      let work := names.foldl (fun (work : Work) name =>
        match scene.write work.files (given choices 'a') name scene.input.text with
        | .ok files => work.become files
        | .error cause =>
            work.complain s!"{scene.called}: {plainlyQuoted name}: {plainMessage cause}\n")
        scene.work
      ((work.print scene.input.text).ended scene).afterReading

/-- The first name of a pattern that is free: its last letters are filled in. -/
def freeName? (files : FileSystem) (front : String) (count : Nat) (behind : String) :
    Option String :=
  let names := (List.range 1000).map fun number =>
    let digits := inBase 10 number
    front ++ String.ofList ((List.replicate (count - digits.length) 'A') ++ digits.toList) ++ behind
  names.find? fun name => (lookupOwn? files (pathOf name)).isNone

/-- Makes a file or a directory with a name that was free, and prints the name. -/
def makeTemporary : Utility :=
  withOptions 1 ⟨"duqp:tS:", [("directory", 'd'), ("dry-run", 'u'), ("quiet", 'q'), ("tmpdir", 'p'),
    ("suffix", 'S')]⟩ false fun scene choices names =>
      match names with
      | _ :: _ :: _ => scene.misuse 1 "too many templates"
      | _ =>
          let pattern := names.headD "tmp.XXXXXXXXXX"
          let folder :=
            if names.isEmpty || given choices 'p' || given choices 't' then
              some ((valueOf? choices 'p').getD ((scene.textOf? "TMPDIR").getD "/tmp"))
            else none
          let path := match folder with
            | some folder => inside folder pattern
            | none => pattern
          let chars := path.toList.reverse.dropWhile (· != 'X')
          let behind := String.ofList (path.toList.drop chars.length) ++
            (valueOf? choices 'S').getD ""
          let count := (chars.takeWhile (· == 'X')).length
          let front := String.ofList (chars.drop count).reverse
          if count < 3 then scene.failure 1 s!"too few X's in template {cited pattern}"
          else
            let kind := if given choices 'd' then "directory" else "file"
            let refused (cause : OsError) : Ended :=
              scene.failure 1
                s!"failed to create {kind} via template {cited path}: {plainMessage cause}"
            match freeName? scene.files front count behind with
            | none => refused .notFound
            | some name =>
                if given choices 'u' then scene.success (name ++ "\n")
                else
                  match ownPlace scene.files (pathOf name) with
                  | .ok (.free location) =>
                      let folder := given choices 'd'
                      let entry : Entry := if folder then .directory else .file []
                      let files := (scene.files.set location entry).setMode location
                        (if folder then 0o700 else 0o600)
                      { scene.success (name ++ "\n") with files }
                  | .ok (.taken _) => refused .notFound
                  | .error cause => refused cause

def flush : Utility :=
  withOptions 1 ⟨"df", [("data", 'd'), ("file-system", 'f')]⟩ false fun scene _ names =>
    scene.doEach names fun work name =>
      match work.files.locate (pathOf name) with
      | .ok _ => work
      | .error cause =>
          work.complain s!"{scene.called}: error opening {quoted name}: {plainMessage cause}\n"

end SqlColumns.Shell.Tools
