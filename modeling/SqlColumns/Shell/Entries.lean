import SqlColumns.Shell.Numeral
import SqlColumns.Shell.Options
import SqlColumns.Shell.Quoting

/-!
# Entries of file systems as processes see them

What processes ask of a file system: the entry at the end of a path or in front of its last link,
the text of a file, and the words for a refusal.
-/

set_option autoImplicit false

namespace SqlColumns.Shell

def plainMessage (cause : OsError) : String :=
  (cause.message.splitOn " (os error").headD ""

/-- Where a path leads when a link at its end is not followed. -/
def ownPlace (files : FileSystem) (path : Path) : Except OsError FileSystem.Place := do
  if let some cause := FileSystem.refusal? path then throw cause
  let steps := (FileSystem.steps path.text).filter (· != ".")
  match steps.getLast? with
  | none => return .taken (files.origin path)
  | some last =>
      if last = ".." ∨ FileSystem.endsInSlash path.text then files.find .entry path
      else
        let front := (if path.isAbsolute then "/" else "./") ++ "/".intercalate steps.dropLast
        let folder ← files.locate ⟨front⟩
        if files.entryAt? folder != some .directory then throw .notDirectory
        if 255 < (Text.encodeString last).length then throw .nameTooLong
        if (files.entryAt? (folder ++ [last])).isSome then return .taken (folder ++ [last])
        else return .free (folder ++ [last])

/-- The location of what a path leads to when a link at its end is not followed. -/
def ownLocation (files : FileSystem) (path : Path) : Except OsError Location := do
  match ← ownPlace files path with
  | .taken location => return location
  | .free _ => throw .notFound

/-- The entry that a path leads to when a link at its end is not followed. -/
def lookupOwn? (files : FileSystem) (path : Path) : Option Entry :=
  match ownLocation files path with
  | .ok location => files.entryAt? location
  | .error _ => none

def isInput (name : String) : Bool :=
  ["/dev/stdin", "/dev/fd/0", "/proc/self/fd/0"].contains name

def Scene.read (scene : Scene) (name : String) : Except OsError String :=
  if isInput name then .ok scene.input.text
  else (scene.files.read (pathOf name)).map Octets.ofBytes

def namesIn (files : FileSystem) (location : Location) : List String :=
  (files.namesIn location).map Octets.ofText

/-- The paths at which a program with a name may lie, by the directories of a search path. -/
def candidates (searched name : String) : List String :=
  if name.toList.contains '/' then [name]
  else (searched.splitOn ":").map fun folder => if folder.isEmpty then name else s!"{folder}/{name}"

/-- Whether a path leads to a file that may be started. -/
def isProgram (files : FileSystem) (path : String) : Bool :=
  files.isFile (pathOf path) && (files.locate (pathOf path)).toOption.any files.mayStart

/-- The path of the program with a name, by the directories of a search path. -/
def findProgram? (files : FileSystem) (searched name : String) : Option String :=
  (candidates searched name).find? (isProgram files)

def usualSearchPath : String :=
  "/bin:/usr/bin"

/-- Starts the first program that lies at one of some paths, or says why one that lies there cannot
be started; `cause` is what is said of those that have been tried. -/
def startFirst (start : String → Except OsError Ended) (cause : OsError) :
    List String → Except OsError Ended
  | [] => .error cause
  | path :: paths =>
      match start path with
      | .error .notFound | .error .notDirectory => startFirst start cause paths
      | .error .permissionDenied => startFirst start .permissionDenied paths
      | result => result

def startByPath (launch : Launcher) : Starter := fun scene words =>
  let name := words.headD ""
  let searched := (scene.textOf? "PATH").getD usualSearchPath
  if name.isEmpty then .error .notFound
  else if name.toList.contains '/' then launch scene name words
  else if 255 < name.length then .error .nameTooLong
  else startFirst (fun path => launch scene path words) .notFound (candidates searched name)

def linesOf (text : String) : List String :=
  let rec cut (current : List Char) : List Char → List String
    | [] => if current.isEmpty then [] else [String.ofList current.reverse]
    | '\n' :: rest => String.ofList ('\n' :: current).reverse :: cut [] rest
    | c :: rest => cut (c :: current) rest
  cut [] text.toList

def withoutFeed (line : String) : String :=
  if line.toList.getLast? = some '\n' then String.ofList line.toList.dropLast else line

def plainLines (text : String) : List String :=
  (linesOf text).map withoutFeed

def onLines (words : List String) : String :=
  String.join (words.map (· ++ "\n"))

/-- What the files behind names hold, or complaints about those that cannot be read, which `refused`
words; a dash stands for what the process reads, of which nothing is left for another one. -/
def Scene.readingsOf (scene : Scene) (refused : String → OsError → String) :
    String → List String → List (String × Except String String)
  | _, [] => []
  | input, name :: names =>
      if name = "-" ∨ isInput name then
        (name, .ok input) :: scene.readingsOf refused "" names
      else
        let reading :=
          match scene.read name with
          | .ok text => .ok text
          | .error cause => .error s!"{scene.called}: {refused name cause}: {plainMessage cause}\n"
        (name, reading) :: scene.readingsOf refused input names

/-- What the files behind names hold, or what the process reads where there are no names. -/
def Scene.readings (scene : Scene) (refused : String → OsError → String) (names : List String) :
    List (String × Except String String) :=
  scene.readingsOf refused scene.input.text (if names.isEmpty then ["-"] else names)

/-- A name in a complaint, in quotes only where it needs some. -/
def asIs (name : String) (_ : OsError) : String :=
  plainlyQuoted name

/-- How programs complain that they cannot open a file, or cannot read what is none. -/
def cannotOpen (name : String) (cause : OsError) : String :=
  if cause = .isDirectory then s!"error reading {quoted name}"
  else s!"cannot open {quoted name} for reading"

def textsIn (readings : List (String × Except String String)) : List (String × String) :=
  readings.filterMap fun one => one.2.toOption.map fun text => (one.1, text)

def complaintsIn (readings : List (String × Except String String)) : List String :=
  readings.filterMap fun one =>
    match one.2 with
    | .ok _ => none
    | .error complaint => some complaint

def readsInput (names : List String) : Bool :=
  names.isEmpty || names.any fun name => name == "-" || isInput name

/-- A program that has printed something and complained of something; `code` is what it exits with
if it has complained. -/
def Scene.endedWith (scene : Scene) (code : Nat) (output : String) (complaints : List String) :
    Ended :=
  scene.ended (if complaints.isEmpty then 0 else code) output (String.join complaints)

/-- A program that has shown what it could read of some files and complained of the others, in
order. -/
def Scene.shownEach (scene : Scene) (code : Nat) (readings : List (String × Except String String))
    (shown : String → String) : Ended :=
  let written := readings.filterMap fun one =>
    match one.2 with
    | .error complaint => some (Stream.errors, complaint)
    | .ok text =>
        let text := shown text
        if text.isEmpty then none else some (Stream.output, text)
  let failed := readings.any fun one => !one.2.isOk
  ⟨.exited (if failed then code else 0), written, scene.input, scene.files⟩

/-- The program that has read its input if it does so when it is given names. -/
def Ended.afterReadingOf (ended : Ended) (names : List String) : Ended :=
  if readsInput names then ended.afterReading else ended

end SqlColumns.Shell
