import SqlColumns.Corpus.FolderRules

/-!
# Rules of the user

A user can have one more file of rules, for all repositories. Git's settings tell where it is; in which
files these are, and how the place is found from what they hold, is left open here.
-/

set_option autoImplicit false

namespace SqlColumns

namespace Corpus

/-- Where a user keeps rules: the files of settings, and the file of rules that their contents lead to.
Settings that cannot be read have no contents. -/
class UserRules where
  settings : List Path
  place? : List (Option (List UInt8)) → Option Path

namespace UserRules

/-- A user without rules. -/
abbrev absent : UserRules where
  settings := []
  place? _ := none

variable [UserRules]

def file? (files : FileSystem) : Option Path :=
  place? (settings.map fun file => (files.read file).toOption)

/-- The rules of the user, whose faults are passed over. -/
def load (files : FileSystem) : IgnoreRules :=
  match file? files with
  | none => []
  | some file => (readRules files file).1

end UserRules

end Corpus

end SqlColumns
