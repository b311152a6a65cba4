import SqlColumns.Report.Item

/-!
# Dependencies

Programs that commands rely on, and the items that say whether they are there.
-/

set_option autoImplicit false

namespace SqlColumns

/-- A program, whether it is there, and what it is needed for. -/
structure Dependency where
  name : String
  available : Bool
  neededFor : String
  notes : Option String
  deriving DecidableEq, Repr

namespace Dependency

/-- The line on a dependency, and the line of its notes. -/
def excerpt (dependency : Dependency) : String :=
  let name := dependency.name
  let purpose := dependency.neededFor
  let mark := if dependency.available then "✓" else "✗"
  let found := if dependency.available then "found: " ++ name else "not found"
  let line := s!"{mark} {name} (needed for {purpose}) - {found}"
  match dependency.notes with
  | some notes => line ++ "\n  Note: " ++ notes
  | none => line

def issue (dependency : Dependency) : Report.Issue :=
  let name := dependency.name
  let purpose := dependency.neededFor
  ⟨"MISSING_DEPENDENCY", s!"{name} is needed for {purpose} but was not found"⟩

def item (dependency : Dependency) : ReportItem :=
  { kind := .check
    excerpt := some dependency.excerpt
    issues := if dependency.available then [] else [dependency.issue] }

def git (available : Bool) : Dependency :=
  { name := "git"
    available := available
    neededFor := "rename --push"
    notes := some "Install: https://git-scm.com/downloads" }

end Dependency

end SqlColumns
