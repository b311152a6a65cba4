import SqlColumns.Shell.Entries

/-!
# Parts of file systems

What lies at and below a location can be copied to another one or moved there, and a process gives
what it makes the permissions that its mask leaves.
-/

set_option autoImplicit false

namespace SqlColumns

namespace FileSystem

/-- What lies at a location and below it, with the names that lead from there. -/
def subtree (files : FileSystem) (location : Location) : List (Location × Entry) :=
  let own := (files.entryAt? location).toList.map fun entry => ([], entry)
  let below := files.entries.filterMap fun one =>
    if location.isPrefixOf one.1 ∧ one.1 ≠ location then
      some (one.1.drop location.length, one.2)
    else none
  own ++ below

def inOrder (tree : List (Location × Entry)) : List (Location × Entry) :=
  tree.mergeSort fun left right => !List.lex right.1 left.1 fun one other => decide (one < other)

def isEmptyAt (files : FileSystem) (location : Location) : Bool :=
  (files.subtree location).length ≤ 1

/-- The permissions at a location if they are not the usual ones. -/
def ownMode? (files : FileSystem) (location : Location) : Option Nat :=
  (files.modes.find? fun one => one.1 == location).map (·.2)

/-- The files with an entry put at a location that has the permissions of another one. -/
def setLike (files : FileSystem) (location : Location) (entry : Entry) (mode : Option Nat) :
    FileSystem :=
  match mode with
  | some mode => (files.set location entry).setMode location mode
  | none => files.set location entry

/-- The files with what lies at a location moved to another one, in place of what was there. -/
def move (files : FileSystem) (source target : Location) : FileSystem :=
  let tree := files.subtree source
  let modes := tree.map fun one => files.ownMode? (source ++ one.1)
  let cleared := (files.remove source).remove target
  (tree.zip modes).foldl (fun moved one =>
    moved.setLike (target ++ one.1.1) one.1.2 one.2) cleared

end FileSystem

namespace Shell

/-- The files with an entry that a process makes: of the permissions that it wants, the mask of the
process takes some away. -/
def Scene.make (scene : Scene) (files : FileSystem) (location : Location) (entry : Entry)
    (wanted : Nat) : FileSystem :=
  let mode := wanted &&& (0o7777 ^^^ scene.mask)
  let made := files.set location entry
  if mode = entry.usualMode then made else made.setMode location mode

/-- Writes a text to the file with a name, which is made if it is not there; in place of its text or
behind it. -/
def Scene.write (scene : Scene) (files : FileSystem) (behind : Bool) (name text : String) :
    Except OsError FileSystem := do
  let path := pathOf name
  match ← files.find .file path with
  | .free location => return scene.make files location (.file (Octets.toBytes text)) 0o666
  | .taken _ =>
      if behind then
        match files.lookup path with
        | .ok (.file content) => files.write path (content ++ Octets.toBytes text)
        | _ => files.write path (Octets.toBytes text)
      else files.write path (Octets.toBytes text)

def inside (folder name : String) : String :=
  if folder.endsWith "/" then folder ++ name else s!"{folder}/{name}"

end Shell

end SqlColumns
