import SqlColumns.Corpus.UserRules
import SqlColumns.Failure

/-!
# Discovery of SQL files

The corpus of a repository is every regular file below its root whose extension is `sql`. Two
filters narrow it: hidden names can be left out, and ignore files can be respected. A directory
that is left out takes everything below it along. Links are not followed. Rules count in every
directory from the top down to that of a file, and behind them those of the user; a fault of rules
above the root ends a discovery, any other one is passed over.
-/

set_option autoImplicit false

namespace SqlColumns

namespace Corpus

/-- What is left out of a corpus. -/
structure Filter where
  skipHidden : Bool := false
  respectIgnore : Bool := false
  deriving DecidableEq, Repr, Inhabited

def above (location : Location) : List Location :=
  (List.range location.length).reverse.map location.take

def pathBelow (root : Path) (names : List String) : Path :=
  names.foldl (fun path name => path.append ⟨name⟩) root

def foldersBelow (files : FileSystem) (location : Location) : List (List String) :=
  files.entries.filterMap fun one =>
    let names := one.1.drop location.length
    if one.2 = .directory ∧ location.isPrefixOf one.1 ∧ names ≠ [] then some names else none

/-- The rules that count below a root: those of the directories above it, the nearest first, those of
the root and the directories below it, by the names that lead there, and those of the user, which see
paths from the current directory. -/
structure Rulebook where
  root : Path
  base : Path
  outer : List FolderRules
  inner : List (List String × FolderRules)
  here : Path
  user : IgnoreRules
  deriving Repr

namespace Rulebook

/-- The rules that count below a root, which is at the given location, and the faults of those above
it, from the top down. Nothing above a root counts whose absolute path is too long. -/
def load [UserRules] (files : FileSystem) (root : Path) (location : Location) :
    Rulebook × List RuleFault :=
  let outer :=
    if (files.canonical? root).isNone then []
    else (above location).map fun folder => FolderRules.load files (FileSystem.pathTo folder)
  let inner := ([] :: foldersBelow files location).map fun names =>
    (names, (FolderRules.load files (pathBelow root names)).1)
  (⟨root, FileSystem.pathTo location, (outer.map (·.1)).filter (!·.isEmpty),
      inner.filter (fun one => !one.2.isEmpty), FileSystem.pathTo files.current,
      UserRules.load files⟩,
    outer.reverse.flatMap (·.2))

/-- How names below the root are spelled for the rules. -/
def spelled (book : Rulebook) (names : List String) : List Char :=
  without ['.', '/'] (pathBelow book.root names).text.toList

def behindRoot (book : Rulebook) (path : List Char) : List Char :=
  if book.root.components = [.here] then path
  else without ['/'] (without (without ['.', '/'] book.root.text.toList) path)

/-- The rules of the directories that names go through, the nearest first, each with the path that
it sees. -/
def onTheWay (book : Rulebook) (names : List String) : List (FolderRules × List UInt8) :=
  let path := book.spelled names
  let absolute := (book.base.append ⟨String.ofList (book.behindRoot path)⟩).text.toList
  let inner := (above names).filterMap fun folder => (book.inner.find? (·.1 == folder)).map (·.2)
  inner.map (fun rules => (rules, Text.encode (seenFrom rules.folder path))) ++
    book.outer.map fun rules => (rules, Text.encode (seenFrom rules.folder absolute))

def folderVerdict? (book : Rulebook) (isDirectory : Bool) (names : List String) : Option Verdict :=
  let places := book.onTheWay names
  RuleKind.all.findSome? fun kind =>
    places.findSome? fun place => (place.1.ofKind kind).verdict? isDirectory place.2

def userVerdict? (book : Rulebook) (isDirectory : Bool) (names : List String) : Option Verdict :=
  book.user.verdict? isDirectory (Text.encode (seenFrom book.here (book.spelled names)))

/-- The verdict on what names below the root lead to: that of the first kind of rules that has one,
and of these the nearest. The rules of the user are behind those of all directories. -/
def verdict? (book : Rulebook) (isDirectory : Bool) (names : List String) : Option Verdict :=
  (book.folderVerdict? isDirectory names).or (book.userVerdict? isDirectory names)

end Rulebook

def endsHidden (names : List String) : Bool :=
  names.getLast?.any Path.hiddenName

/-- Names below a root that are left out on their own account: ignored, or hidden without a rule
that keeps them. Without a rulebook nothing is ignored. -/
def leavesOut (book : Option Rulebook) (skipHidden isDirectory : Bool) (names : List String) :
    Bool :=
  match book.bind fun book => book.verdict? isDirectory names with
  | some .ignored => true
  | some .kept => false
  | none => skipHidden && endsHidden names

/-- Whether a directory is entered: neither the directory nor one between it and the root is left
out. -/
def enters (book : Option Rulebook) (skipHidden : Bool) (names : List String) : Bool :=
  (List.range names.length).all fun count =>
    !leavesOut book skipHidden true (names.take (count + 1))

/-- Whether a file is let through: neither the file nor a directory between it and the root is left
out. -/
def letsThrough (book : Option Rulebook) (skipHidden : Bool) (names : List String) : Bool :=
  !leavesOut book skipHidden false names && enters book skipHidden names.dropLast

def isSqlName (name : String) : Bool :=
  (Path.mk name).hasExtension "sql"

def sqlFile? (root : Location) (one : Location × Entry) : Option (List String) :=
  match one.2 with
  | .file _ =>
      let names := one.1.drop root.length
      if root.isPrefixOf one.1 && names.getLast?.any isSqlName then some names else none
  | _ => none

def sqlFiles (files : FileSystem) (root : Location) : List (List String) :=
  files.entries.filterMap (sqlFile? root)

def Filter.rulebook? [UserRules] (filter : Filter) (files : FileSystem) (root : Path)
    (location : Location) : Except Failure (Option Rulebook) :=
  if filter.respectIgnore then
    match Rulebook.load files root location with
    | (book, []) => .ok (some book)
    | (_, faults) => .error (.unwalkable root faults)
  else .ok none

def isStandardInput (path : Path) : Bool :=
  path.components = [.name "-"]

/-- The first directory below a root that is entered although its path cannot be followed, and why
it cannot. -/
def unreached? (files : FileSystem) (root : Path) (location : Location) (book : Option Rulebook)
    (skipHidden : Bool) : Option (Path × OsError) :=
  ((foldersBelow files location).map fun names => (names, pathBelow root names)).findSome?
    fun (names, folder) =>
      match files.locate folder with
      | .ok _ => none
      | .error cause => if enters book skipHidden names then some (folder, cause) else none

/-- The SQL files below a root, in the order of their paths. -/
def discover [UserRules] (files : FileSystem) (root : Path) (filter : Filter) :
    Except Failure (List Path) :=
  match files.isDirectory root, files.locate root with
  | true, .ok location =>
      if isStandardInput root then .ok []
      else
        match filter.rulebook? files root location with
        | .error failure => .error failure
        | .ok book =>
            match unreached? files root location book filter.skipHidden with
            | some (folder, cause) => .error (.unreached root folder cause)
            | none =>
                let names := (sqlFiles files location).filter (letsThrough book filter.skipHidden)
                .ok ((names.map (pathBelow root)).mergeSort Path.le)
  | _, _ => .error (.notRepository root)

end Corpus

end SqlColumns
