/-!
# JSON values

Values with integers for numbers, and objects whose members have an order of their own. Data
that has no order of its own is sorted by key.
-/

set_option autoImplicit false

namespace SqlColumns

inductive Json where
  | null
  | bool (value : Bool)
  | number (value : Int)
  | string (value : String)
  | array (items : List Json)
  | object (members : List (String × Json))
  deriving Inhabited, BEq, Repr

namespace Json

/-- Puts a member in its place among members sorted by key; a member with the same key is
replaced. -/
def insertMember (key : String) (value : Json) : List (String × Json) → List (String × Json)
  | [] => [(key, value)]
  | (other, kept) :: members =>
      if key < other then (key, value) :: (other, kept) :: members
      else if key = other then (key, value) :: members
      else (other, kept) :: insertMember key value members

/-- The object of the given members in the order of their keys; the last member of a key
counts. -/
def sorted (members : List (String × Json)) : Json :=
  .object (members.foldl (fun placed member => insertMember member.1 member.2 placed) [])

mutual

/-- The value with the members of every object in the order of their keys. -/
def canonical : Json → Json
  | .array items => .array (canonicalItems items)
  | .object members => .sorted (canonicalMembers members)
  | other => other

def canonicalItems : List Json → List Json
  | [] => []
  | item :: items => canonical item :: canonicalItems items

def canonicalMembers : List (String × Json) → List (String × Json)
  | [] => []
  | (key, value) :: members => (key, canonical value) :: canonicalMembers members

end

def strings (items : List String) : Json :=
  .array (items.map .string)

def member? (key : String) : Json → Option Json
  | .object members => (members.find? fun one => one.1 == key).map (·.2)
  | _ => none

end Json

end SqlColumns
