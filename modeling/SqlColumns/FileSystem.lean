import SqlColumns.Path
import SqlColumns.Text.Utf8

/-!
# File systems

A file system is a value: what lies at each location, and the directory that relative paths start
from. Paths are followed through links to a location; files are read and written at the location
their path leads to, so two spellings of one file are one file.
-/

set_option autoImplicit false

namespace SqlColumns

/-- Why the system refuses an operation on a path. -/
inductive OsError where
  | permissionDenied
  | notFound
  | notDirectory
  | isDirectory
  | noProgram
  | noSpace
  | nameTooLong
  | linkLoop
  | nulInName
  deriving DecidableEq, Repr

def OsError.message : OsError → String
  | .permissionDenied => "Permission denied (os error 13)"
  | .notFound => "No such file or directory (os error 2)"
  | .notDirectory => "Not a directory (os error 20)"
  | .isDirectory => "Is a directory (os error 21)"
  | .noProgram => "Exec format error (os error 8)"
  | .noSpace => "No space left on device (os error 28)"
  | .nameTooLong => "File name too long (os error 36)"
  | .linkLoop => "Too many levels of symbolic links (os error 40)"
  | .nulInName => "file name contained an unexpected NUL byte"

/-- Devices: one that is always full, one that swallows what it is given, and one that gives zeros
without an end. -/
inductive Device where
  | full
  | sink
  | zeros
  deriving DecidableEq, Repr

/-- What lies at a location. -/
inductive Entry where
  | file (content : List UInt8)
  | directory
  | link (target : String)
  | device (kind : Device)
  deriving DecidableEq, Repr

def Entry.usualMode : Entry → Nat
  | .file _ => 0o644
  | .directory => 0o755
  | .link _ => 0o777
  | .device _ => 0o666

/-- The names that lead from the root to an entry. -/
abbrev Location := List String

/-- Entries, one at a location, the current directory, and the permissions of those entries that do
not have the ones that are usual. -/
structure FileSystem where
  entries : List (Location × Entry)
  current : Location
  modes : List (Location × Nat)
  distinct : (entries.map Prod.fst).Nodup
  deriving Repr

namespace FileSystem

def entryAt? (files : FileSystem) (location : Location) : Option Entry :=
  match location with
  | [] => some .directory
  | _ => (files.entries.find? fun one => one.1 == location).map (·.2)

/-- Puts an entry at a location, in place of the one there or behind all others. -/
def place (location : Location) (entry : Entry) : List (Location × Entry) → List (Location × Entry)
  | [] => [(location, entry)]
  | (other, kept) :: entries =>
      if other = location then (location, entry) :: entries
      else (other, kept) :: place location entry entries

theorem mem_place {location other : Location} {entry : Entry} {entries : List (Location × Entry)} :
    other ∈ (place location entry entries).map Prod.fst ↔
      other = location ∨ other ∈ entries.map Prod.fst := by
  induction entries with
  | nil => simp [place]
  | cons head entries ih => grind [place]

theorem nodup_place {location : Location} {entry : Entry} {entries : List (Location × Entry)}
    (distinct : (entries.map Prod.fst).Nodup) :
    ((place location entry entries).map Prod.fst).Nodup := by
  induction entries with
  | nil => simp [place]
  | cons head entries ih =>
      grind [place, mem_place]

/-- The file system with an entry put at a location. -/
def set (files : FileSystem) (location : Location) (entry : Entry) : FileSystem :=
  { files with
    entries := place location entry files.entries
    distinct := nodup_place files.distinct }

theorem find?_place_self {location : Location} {entry : Entry}
    {entries : List (Location × Entry)} :
    (place location entry entries).find? (fun one => one.1 == location) =
      some (location, entry) := by
  induction entries with
  | nil => simp [place]
  | cons head entries ih => grind [place]

theorem find?_place_of_ne {location other : Location} {entry : Entry}
    {entries : List (Location × Entry)} (different : other ≠ location) :
    (place location entry entries).find? (fun one => one.1 == other) =
      entries.find? (fun one => one.1 == other) := by
  induction entries with
  | nil => grind [place]
  | cons head entries ih => grind [place]

theorem entryAt?_set_self {files : FileSystem} {location : Location} {entry : Entry}
    (below : location ≠ []) : (files.set location entry).entryAt? location = some entry := by
  unfold entryAt?
  split
  · contradiction
  · simp [set, find?_place_self]

theorem entryAt?_set_of_ne {files : FileSystem} {location other : Location} {entry : Entry}
    (different : other ≠ location) :
    (files.set location entry).entryAt? other = files.entryAt? other := by
  unfold entryAt?
  split
  · rfl
  · simp [set, find?_place_of_ne different]

/-- The file system without anything at or below a location. -/
def remove (files : FileSystem) (location : Location) : FileSystem :=
  { files with
    entries := files.entries.filter fun one => !location.isPrefixOf one.1
    modes := files.modes.filter fun one => !location.isPrefixOf one.1
    distinct := files.distinct.sublist ((List.filter_sublist).map Prod.fst) }

/-- Locations from just below `above` down to the one that `names` lead to. -/
def locationsDown (above : Location) : List String → List Location
  | [] => []
  | name :: names => (above ++ [name]) :: locationsDown (above ++ [name]) names

/-- The file system with directories at a location and everywhere above it, where nothing was. -/
def makeDirectories (files : FileSystem) (location : Location) : FileSystem :=
  (locationsDown [] location).foldl
    (fun made folder => if (made.entryAt? folder).isSome then made else made.set folder .directory)
    files

/-- A file system with the current directory and those above it, and nothing else. -/
def start (current : Location) : FileSystem :=
  makeDirectories ⟨[], current, [], List.nodup_nil⟩ current

def modeAt (files : FileSystem) (location : Location) : Nat :=
  match files.modes.find? fun one => one.1 == location with
  | some one => one.2
  | none => ((files.entryAt? location).map Entry.usualMode).getD 0

/-- The file system with permissions for what lies at a location. -/
def setMode (files : FileSystem) (location : Location) (mode : Nat) : FileSystem :=
  { files with modes := (location, mode) :: files.modes.filter fun one => one.1 != location }

def mayStart (files : FileSystem) (location : Location) : Bool :=
  files.modeAt location &&& 0o111 != 0

/-- Where a path leads: to an entry, or to a free name in a directory. -/
inductive Place where
  | taken (location : Location)
  | free (location : Location)
  deriving DecidableEq, Repr

/-- What a path is followed for: an entry that is there, or a file that may be made. -/
inductive Purpose where
  | entry
  | file
  deriving DecidableEq, Repr

/-- The parts of a path to be walked, without empty ones. -/
def steps (text : String) : List String :=
  ((Path.segments text.toList).filter (· != [])).map String.ofList

def endsInSlash (text : String) : Bool :=
  text.toList.getLast? == some '/'

def pathTo (location : Location) : Path :=
  ⟨"/" ++ "/".intercalate location⟩

def pathLength (location : Location) : Nat :=
  (Text.encodeString (pathTo location).text).length

def pathLimit : Nat := 4095

def isTooLong (path : Path) : Bool :=
  decide (pathLimit < (Text.encodeString path.text).length)

/-- Whether only a directory will do before some steps: they lead back to it or above it, or end in
a slash. -/
def demandsDirectory (slash : Bool) (remaining : List String) : Bool :=
  match remaining.dropWhile (· == ".") with
  | [] => slash || !remaining.isEmpty
  | step :: _ => step == ".."

/-- How a path is followed: for what, whether a slash follows its last step, and whether what it
leads through is looked at by its absolute path, which then must not be too long. With a slash, only
a directory will do, and a path to a file that may be made is refused before its last step is looked
at. -/
structure Manner where
  purpose : Purpose
  slash : Bool
  absolute : Bool
  deriving DecidableEq, Repr

/-- Whether what lies at a location, with steps behind it, is out of reach. A directory that has to
be one is looked at by its path with a slash, a dot and a slash behind it. -/
def Manner.outOfReach (manner : Manner) (location : Location) (remaining : List String) : Bool :=
  manner.absolute &&
    decide (pathLimit <
      pathLength location + if demandsDirectory manner.slash remaining then 3 else 0)

/-- Walks the steps of a path from `location`; at most `links` links are followed. -/
def walk (files : FileSystem) (manner : Manner) (links : Nat) (location : Location)
    (remaining : List String) : Except OsError Place :=
  match remaining with
  | [] =>
      if manner.slash && files.entryAt? location != some .directory then .error .notDirectory
      else .ok (.taken location)
  | step :: rest =>
      if files.entryAt? location != some .directory then .error .notDirectory
      else if step = "." then walk files manner links location rest
      else if step = ".." then walk files manner links location.dropLast rest
      else if manner.purpose = .file ∧ manner.slash ∧ rest.isEmpty then .error .isDirectory
      else if 255 < (Text.encodeString step).length then .error .nameTooLong
      else
        match files.entryAt? (location ++ [step]) with
        | none => if rest.isEmpty then .ok (.free (location ++ [step])) else .error .notFound
        | some (.link target) =>
            match links with
            | 0 => .error .linkLoop
            | links + 1 =>
                let start := if (Path.mk target).isAbsolute then [] else location
                let slash := manner.slash || (rest.isEmpty && endsInSlash target)
                walk files { manner with slash } links start (steps target ++ rest)
        | some _ =>
            if manner.outOfReach (location ++ [step]) rest then .error .nameTooLong
            else walk files manner links (location ++ [step]) rest
termination_by (links, remaining.length)

/-- Why the system does not start to follow a path. No name here has a byte that is no part of a
character. -/
def refusal? (path : Path) : Option OsError :=
  if path.text.toList.contains '\x00' then
    some (if (Path.bytesOf path.text.toList).contains 0 then .nulInName else .notFound)
  else if path.text.isEmpty then some .notFound
  else none

def origin (files : FileSystem) (path : Path) : Location :=
  if path.isAbsolute then [] else files.current

def linkLimit : Nat := 40

def find (files : FileSystem) (purpose : Purpose) (path : Path) : Except OsError Place :=
  match refusal? path with
  | some cause => .error cause
  | none =>
      if isTooLong path then .error .nameTooLong
      else
        walk files ⟨purpose, endsInSlash path.text, false⟩ linkLimit (files.origin path)
          (steps path.text)

def locate (files : FileSystem) (path : Path) : Except OsError Location :=
  match files.find .entry path with
  | .ok (.taken location) => .ok location
  | .ok (.free _) => .error .notFound
  | .error cause => .error cause

def lookup (files : FileSystem) (path : Path) : Except OsError Entry := do
  let location ← files.locate path
  match files.entryAt? location with
  | some entry => return entry
  | none => throw .notFound

def isDirectory (files : FileSystem) (path : Path) : Bool :=
  match files.lookup path with
  | .ok .directory => true
  | _ => false

def isFile (files : FileSystem) (path : Path) : Bool :=
  match files.lookup path with
  | .ok (.file _) => true
  | _ => false

/-- The content of the file that a path leads to. -/
def read (files : FileSystem) (path : Path) : Except OsError (List UInt8) := do
  match ← files.lookup path with
  | .file content => return content
  | .directory => throw .isDirectory
  | .device .zeros => return List.replicate 65536 0
  | .device _ => return []
  | .link _ => throw .notFound

/-- The size of what a path leads to; directories have the size of a page. -/
def size (files : FileSystem) (path : Path) : Except OsError Nat := do
  match ← files.lookup path with
  | .file content => return content.length
  | .directory => return 4096
  | .device _ => return 0
  | .link _ => throw .notFound

/-- Replaces the content of the file that a path leads to; a free name becomes a file. -/
def write (files : FileSystem) (path : Path) (content : List UInt8) :
    Except OsError FileSystem := do
  match ← files.find .file path with
  | .free location => return files.set location (.file content)
  | .taken location =>
      match files.entryAt? location with
      | some (.file _) => return files.set location (.file content)
      | some (.device .full) => if content.isEmpty then return files else throw .noSpace
      | some (.device _) => return files
      | some .directory => throw .isDirectory
      | _ => throw .notFound

def namesIn (files : FileSystem) (location : Location) : List String :=
  (files.entries.filterMap fun one =>
    match one.1.getLast? with
    | some name => if one.1 == location ++ [name] then some name else none
    | none => none).mergeSort fun left right => decide (left ≤ right)

/-- The absolute path, free of links and dots, that a path leads to. However long the path is, no
absolute path on the way may be too long. -/
def canonical? (files : FileSystem) (path : Path) : Option Path :=
  let manner : Manner := ⟨.entry, endsInSlash path.text, true⟩
  match refusal? path, walk files manner linkLimit (files.origin path) (steps path.text) with
  | none, .ok (.taken location) => some (pathTo location)
  | _, _ => none

end FileSystem

end SqlColumns
