import SqlColumns.Corpus.IgnoreRules

/-!
# Rules of directories

A directory can have three files of rules: its own ignore file, the one for version control, and
the list of exclusions of its repository. Rules see a path by its spelling, as it goes on behind the
spelling of their directory; both lose a leading dot and slash first.
-/

set_option autoImplicit false

namespace SqlColumns

namespace Corpus

/-- The kinds of files of rules. -/
inductive RuleKind where
  | own
  | versioned
  | excluded
  deriving DecidableEq, Repr

def RuleKind.all : List RuleKind :=
  [.own, .versioned, .excluded]

/-- The rules that a directory has of each kind. -/
structure FolderRules where
  folder : Path
  own : IgnoreRules
  versioned : IgnoreRules
  excluded : IgnoreRules
  deriving Repr

def ownRules (folder : Path) : Path :=
  folder.append ⟨".ignore"⟩

def versionedRules (folder : Path) : Path :=
  folder.append ⟨".gitignore"⟩

/-- The rules and the faults of a file; one that cannot be read has neither. -/
def readRules (files : FileSystem) (file : Path) : IgnoreRules × List RuleFault :=
  match files.read file with
  | .ok bytes => IgnoreRules.ofBytes file bytes
  | .error _ => ([], [])

/-- The first line of a file that points elsewhere; nothing when it is empty or not there. -/
def firstLine? (files : FileSystem) (file : Path) : Except RuleFault (Option (List Char)) :=
  match files.read file with
  | .error .isDirectory => .error (.unreadable file .isDirectory)
  | .error _ => .ok none
  | .ok bytes =>
      match Text.lines bytes with
      | [] => .ok none
      | none :: _ => .error (.notPointer file)
      | some line :: _ => .ok (some line)

def behindPrefix? (front text : List Char) : Option (List Char) :=
  if front.isPrefixOf text then some (text.drop front.length) else none

def without (front text : List Char) : List Char :=
  (behindPrefix? front text).getD text

/-- The directory that a pointer to a repository names on its first line. -/
def ownFolder? (files : FileSystem) (pointer : Path) : Except RuleFault (Option Path) := do
  let some line ← firstLine? files pointer | return none
  return (behindPrefix? "gitdir: ".toList line).map fun target => ⟨String.ofList target⟩

/-- The file in a directory of a repository that names the directory shared with its other
copies. -/
def sharedPointer (own : Path) : Path :=
  own.append ⟨"commondir"⟩

/-- The directory that is shared with other copies of a repository. A name that starts with a dot is
seen from the own directory. -/
def sharedFolder? (files : FileSystem) (own : Path) : Except RuleFault (Option Path) := do
  let some line ← firstLine? files (sharedPointer own) | return none
  let named : Path := ⟨String.ofList line⟩
  if line.head? = some '.' then return some (own.append named) else return some named

def repositoryPlace (folder : Path) : Path :=
  folder.append ⟨".git"⟩

/-- The directory that the repository of a directory keeps its exclusions in. -/
def repositoryFolder? (files : FileSystem) (folder : Path) : Except RuleFault (Option Path) := do
  let place := repositoryPlace folder
  if files.isFile place then
    let some own ← ownFolder? files place | return none
    sharedFolder? files own
  else return some place

def exclusions (repository : Path) : Path :=
  repository.append ⟨"info/exclude"⟩

def readExclusions (files : FileSystem) (folder : Path) : IgnoreRules × List RuleFault :=
  match repositoryFolder? files folder with
  | .error fault => ([], [fault])
  | .ok none => ([], [])
  | .ok (some repository) => readRules files (exclusions repository)

/-- A path as rules see it that count from a directory. A path of one name, and any path in the current
directory, is seen as it is. -/
def seenFrom (folder : Path) (path : List Char) : List Char :=
  let front := without ['.', '/'] folder.text.toList
  let path := without ['.', '/'] path
  if Path.componentsOf front = [.here] ∨ !path.contains '/' then path
  else
    match behindPrefix? front path with
    | some rest => without ['/'] rest
    | none => path

namespace FolderRules

/-- The rules of a directory and their faults, each kind in front of the next. -/
def load (files : FileSystem) (folder : Path) : FolderRules × List RuleFault :=
  let (own, ownFaults) := readRules files (ownRules folder)
  let (versioned, versionedFaults) := readRules files (versionedRules folder)
  let (excluded, excludedFaults) := readExclusions files folder
  (⟨folder, own, versioned, excluded⟩, ownFaults ++ versionedFaults ++ excludedFaults)

def ofKind (rules : FolderRules) : RuleKind → IgnoreRules
  | .own => rules.own
  | .versioned => rules.versioned
  | .excluded => rules.excluded

def isEmpty (rules : FolderRules) : Bool :=
  rules.own.isEmpty && rules.versioned.isEmpty && rules.excluded.isEmpty

end FolderRules

end Corpus

end SqlColumns
