import SqlColumns.Identifier.Compilation
import SqlColumns.Identifier.Occurrences
import SqlColumns.Sheet
import SqlColumns.Text.Digest
import SqlColumns.TextFile

/-!
# Renaming identifiers in files

Renamings run in order, and each one reads its file anew, so those of one file see each other's
changes. A dry run keeps changed texts aside instead of writing them and reads them from there.
The first failure ends the run; what was written before it stays.
-/

set_option autoImplicit false

namespace SqlColumns

/-- What one renaming did to its file: how often it replaced, whether the text changed, and the
digest of the text after it. -/
structure RenameOutcome where
  mapping : Renaming
  replacements : Nat
  changed : Bool
  digest : String
  deriving DecidableEq, Repr

/-- What a run did. -/
structure RenameReport where
  outcomes : List RenameOutcome
  dryRun : Bool
  deriving DecidableEq, Repr

/-- The key of the file that a path means, however the path is spelled: the components of the
canonical path, or those of the path itself where it leads nowhere. A path that is refused for no
more than a slash at its end keeps the components, and so the key, of the file before the slash. -/
def FileSystem.key (files : FileSystem) (path : Path) : List Path.Component :=
  ((files.canonical? path).getD path).components

namespace Rename

/-- The files of a run, and the texts that a dry run keeps aside. -/
structure Draft where
  files : FileSystem
  pending : List (List Path.Component × List Char)
  deriving Repr

/-- The text that a renaming of a file starts from. -/
def Draft.current (draft : Draft) (path : Path) : Except Failure (List Char) :=
  match draft.pending.find? fun one => one.1 == draft.files.key path with
  | some (_, text) => .ok text
  | none => TextFile.read draft.files path

/-- Makes a text the one of a file, aside in a dry run. -/
def Draft.store (draft : Draft) (dryRun : Bool) (path : Path) (text : List Char) :
    Except Failure Draft :=
  if dryRun then
    .ok { draft with pending := (draft.files.key path, text) :: draft.pending }
  else
    match TextFile.write draft.files path text with
    | .error failure => .error failure
    | .ok files => .ok { draft with files := files }

variable [PatternLibrary]

/-- One renaming, its outcome and the draft behind it. -/
def step (dryRun : Bool) (draft : Draft) (mapping : Renaming) :
    Except Failure (RenameOutcome × Draft) :=
  match Identifier.compile mapping.old.toList with
  | .error failure => .error failure
  | .ok identifier =>
      match draft.current mapping.file with
      | .error failure => .error failure
      | .ok text =>
          let replaced := identifier.replaceAll text mapping.new.toList
          let outcome : RenameOutcome :=
            { mapping := mapping
              replacements := identifier.count text
              changed := replaced != text
              digest := Text.Digest.text (Text.encode replaced) }
          if outcome.changed then
            match draft.store dryRun mapping.file replaced with
            | .error failure => .error failure
            | .ok stored => .ok (outcome, stored)
          else .ok (outcome, draft)

/-- Renamings in order, and the files behind the last one that went through. -/
def run (dryRun : Bool) (draft : Draft) :
    List Renaming → Except Failure (List RenameOutcome) × FileSystem
  | [] => (.ok [], draft.files)
  | mapping :: rest =>
      match step dryRun draft mapping with
      | .error failure => (.error failure, draft.files)
      | .ok (outcome, next) =>
          match run dryRun next rest with
          | (.error failure, files) => (.error failure, files)
          | (.ok outcomes, files) => (.ok (outcome :: outcomes), files)

end Rename

/-- Applies renamings in order; the report, or the first failure, and the files afterwards. -/
def applyRenamings [PatternLibrary] (files : FileSystem) (renamings : List Renaming)
    (dryRun : Bool) :
    Except Failure RenameReport × FileSystem :=
  match Rename.run dryRun ⟨files, []⟩ renamings with
  | (.error failure, after) => (.error failure, after)
  | (.ok outcomes, after) => (.ok ⟨outcomes, dryRun⟩, after)

namespace RenameReport

def totalReplacements (report : RenameReport) : Nat :=
  (report.outcomes.map RenameOutcome.replacements).foldr (· + ·) 0

def changedFiles (report : RenameReport) (files : FileSystem) :
    List (List Path.Component) :=
  ((report.outcomes.filter RenameOutcome.changed).map fun outcome =>
    files.key outcome.mapping.file).eraseDups

def filesChanged (report : RenameReport) (files : FileSystem) : Nat :=
  (report.changedFiles files).length

end RenameReport

end SqlColumns
