import SqlColumns.Failure

/-!
# Text files

Files are read whole and must be UTF-8 from end to end; nothing is skipped or converted. What is
written replaces the whole content.
-/

set_option autoImplicit false

namespace SqlColumns.TextFile

def read (files : FileSystem) (path : Path) : Except Failure (List Char) :=
  match files.read path with
  | .error cause => .error (.unreadable path cause)
  | .ok bytes =>
      match Text.decode? bytes with
      | .error offset => .error (.undecodable path offset)
      | .ok text => .ok text

def write (files : FileSystem) (path : Path) (text : List Char) : Except Failure FileSystem :=
  match files.write path (Text.encode text) with
  | .error cause => .error (.unwritable path cause)
  | .ok written => .ok written

end SqlColumns.TextFile
