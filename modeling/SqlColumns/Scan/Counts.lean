import SqlColumns.Identifier.Compilation
import SqlColumns.Identifier.Occurrences
import SqlColumns.Json.Basic
import SqlColumns.Sheet
import SqlColumns.TextFile

/-!
# Counting identifiers in files

Each file is read, put into lower case and on one line, and every identifier of a target set is
counted in it, itself in lower case. Counts are kept under the spelling of the workbook, and only
where there is something to count. The first file that cannot be read fails the whole scan.
-/

set_option autoImplicit false

namespace SqlColumns

/-- Numbers by identifier, sorted by the bytes of the identifiers. -/
abbrev Counts := List (String × Nat)

namespace Counts

def set (counts : Counts) (identifier : String) (number : Nat) : Counts :=
  match counts with
  | [] => [(identifier, number)]
  | (other, kept) :: rest =>
      if identifier < other then (identifier, number) :: (other, kept) :: rest
      else if identifier = other then (identifier, number) :: rest
      else (other, kept) :: set rest identifier number

/-- The number of an identifier, when it has one. -/
def get? (counts : Counts) (identifier : String) : Option Nat :=
  (counts.find? fun one => one.1 == identifier).map (·.2)

/-- Setting a number changes it for one identifier only. -/
theorem get?_set {counts : Counts} {identifier other : String} {number : Nat} :
    (counts.set identifier number).get? other =
      if other = identifier then some number else counts.get? other := by
  induction counts with
  | nil => grind [get?, set]
  | cons head counts ih => grind [get?, set]

/-- Counts from identifiers with numbers, the last number of an identifier being the one. -/
def ofList (numbers : List (String × Nat)) : Counts :=
  numbers.foldl (fun counts one => set counts one.1 one.2) []

def total (counts : Counts) : Nat :=
  (counts.map (·.2)).foldr (· + ·) 0

def toJson (counts : Counts) : Json :=
  .object (counts.map fun one => (one.1, .number one.2))

end Counts

/-- What was counted in one file. -/
structure FileCounts where
  path : Path
  counts : Counts
  deriving DecidableEq, Repr

namespace Scan

/-- An identifier as it is counted, and the spelling that it is reported under. -/
structure Target where
  spelling : String
  identifier : Identifier
  deriving DecidableEq

/-- The targets among spellings: those that are not blank, in lower case. -/
def targets [PatternLibrary] : List String → Except Failure (List Target)
  | [] => .ok []
  | spelling :: rest =>
      if Text.isBlankString spelling then targets rest
      else
        match Identifier.compile (Text.lower spelling.toList) with
        | .error failure => .error failure
        | .ok identifier =>
            match targets rest with
            | .error failure => .error failure
            | .ok others => .ok (⟨spelling, identifier⟩ :: others)

/-- A text as it is counted in: in lower case and on one line. -/
def prepared (text : List Char) : List Char :=
  flattenLines (Text.lower text)

def countAll (targets : List Target) (text : List Char) : Counts :=
  targets.foldl
    (fun counts target =>
      let number := target.identifier.count text
      if 0 < number then counts.set target.spelling number else counts)
    []

def countFile (files : FileSystem) (targets : List Target) (path : Path) :
    Except Failure FileCounts :=
  match TextFile.read files path with
  | .error failure => .error failure
  | .ok text => .ok ⟨path, countAll targets (prepared text)⟩

def countFiles (files : FileSystem) (targets : List Target) :
    List Path → Except Failure (List FileCounts)
  | [] => .ok []
  | path :: rest =>
      match countFile files targets path with
      | .error failure => .error failure
      | .ok counts =>
          match countFiles files targets rest with
          | .error failure => .error failure
          | .ok others => .ok (counts :: others)

end Scan

def scanFiles [PatternLibrary] (files : FileSystem) (paths : List Path) (set : TargetSet) :
    Except Failure (List FileCounts) :=
  match Scan.targets set.identifiers with
  | .error failure => .error failure
  | .ok targets => Scan.countFiles files targets paths

end SqlColumns
