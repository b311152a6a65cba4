import SqlColumns.Failure

/-!
# Branch names

`Branch.accepted` is the check that a branch name passes before it reaches a command line. It is
narrower than the rules of git for branch names, which `Branch.IsRefName` states.
-/

set_option autoImplicit false

namespace SqlColumns.Branch

/-- ASCII letters, ASCII digits, the dot, the underscore, the slash and the hyphen. -/
def isNameChar (c : Char) : Bool :=
  c.isAlphanum || c == '.' || c == '_' || c == '/' || c == '-'

/-- Two characters one behind the other somewhere in a text. -/
def hasPair (first second : Char) : List Char → Bool
  | left :: right :: rest =>
      (left == first && right == second) || hasPair first second (right :: rest)
  | _ => false

def lockEnding : List Char := ['.', 'l', 'o', 'c', 'k']

/-- A name of name characters only that no command takes for an option and that has no empty part
between slashes. -/
def accepted (name : List Char) : Bool :=
  !name.isEmpty && name.all isNameChar && name.head? != some '-' && name.head? != some '/' &&
    name.getLast? != some '/' && !(lockEnding.isSuffixOf name) &&
    !hasPair '.' '.' name && !hasPair '/' '/' name

def check (name : String) : Except Failure Unit :=
  if accepted name.toList then .ok () else .error (.badBranch name)

/-- Control characters and the characters that git keeps out of branch names. -/
def isForbidden (c : Char) : Bool :=
  c.toNat < 0x20 || c.toNat == 0x7F || ['\\', ' ', '~', '^', ':', '?', '*', '['].contains c

/-- A part between slashes that git allows: not empty, without a dot in front and without the
ending of lock files. -/
def IsRefPart (part : List Char) : Prop :=
  part ≠ [] ∧ part.head? ≠ some '.' ∧ ¬ lockEnding <:+ part

/-- The rules of git for branch names. -/
structure IsRefName (name : List Char) : Prop where
  nonempty : name ≠ []
  noOption : name.head? ≠ some '-'
  parts : ∀ part ∈ Path.segments name, IsRefPart part
  noDots : ¬ ['.', '.'] <:+: name
  noReflog : ¬ ['@', '\x7b'] <:+: name
  noForbidden : ∀ c ∈ name, isForbidden c = false
  noDotAtEnd : name.getLast? ≠ some '.'
  notAt : name ≠ ['@']

end SqlColumns.Branch
