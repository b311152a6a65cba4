import SqlColumns.Shell.Numeral

/-!
# Sums in scripts

The value of a sum over whole numbers of 64 bits, with the signs that sums have in C, and names that
stand for numbers and can be set. What a condition rules out is read but not worked out.
-/

set_option autoImplicit false

namespace SqlColumns.Shell

namespace Arithmetic

/-- Why a sum has no value. -/
inductive Fault where
  | malformed (expected : String)
  | divisionByZero
  | noNumber (text : String)
  deriving DecidableEq, Repr

def Fault.message (fault : Fault) (text : String) : String :=
  let complaint (reason : String) : String :=
    "arithmetic expression: " ++ reason ++ ": \"" ++ text ++ "\""
  match fault with
  | .malformed expected => complaint ("expecting " ++ expected)
  | .divisionByZero => complaint "division by zero"
  | .noNumber text => s!"Illegal number: {text}"

/-- A part of a sum: a number, a name, or a sign. -/
inductive Item where
  | number (value : Int)
  | name (text : String)
  | sign (text : String)
  deriving DecidableEq, Repr

def longSigns : List String :=
  ["<<=", ">>=", "&&", "||", "==", "!=", "<=", ">=", "<<", ">>", "+=", "-=", "*=", "/=", "%=", "&=",
    "^=", "|="]

/-- The parts of a sum. The text is read as far as `fuel` characters. -/
def items : Nat → List Char → List Item
  | 0, _ | _, [] => []
  | fuel + 1, c :: rest =>
      let text := c :: rest
      if c = ' ' ∨ c = '\t' ∨ c = '\n' then items fuel rest
      else if c.isDigit then
        match leadingInteger? text with
        | some (value, behind) => .number value :: items fuel behind
        | none => []
      else if c.isAlpha ∨ c = '_' then
        let name := text.takeWhile fun c => c.isAlphanum || c == '_'
        .name (String.ofList name) :: items fuel (text.drop name.length)
      else
        match longSigns.find? fun sign => sign.toList.isPrefixOf text with
        | some sign => .sign sign :: items fuel (text.drop sign.length)
        | none => .sign (String.singleton c) :: items fuel rest

def tightness? (sign : String) : Option Nat :=
  match sign with
  | "|" => some 1
  | "^" => some 2
  | "&" => some 3
  | "==" | "!=" => some 4
  | "<" | ">" | "<=" | ">=" => some 5
  | "<<" | ">>" => some 6
  | "+" | "-" => some 7
  | "*" | "/" | "%" => some 8
  | _ => none

def cut (value : Int) : Int :=
  value.bmod 0x10000000000000000

def truth (holds : Bool) : Int :=
  if holds then 1 else 0

def bits (value : Int) : Nat :=
  (value % 0x10000000000000000).toNat

/-- The value of two values with a sign between them. -/
def combine (sign : String) (left right : Int) : Except Fault Int :=
  match sign with
  | "|" => .ok (cut (bits left ||| bits right : Nat))
  | "^" => .ok (cut (bits left ^^^ bits right : Nat))
  | "&" => .ok (cut (bits left &&& bits right : Nat))
  | "==" => .ok (truth (left == right))
  | "!=" => .ok (truth (left != right))
  | "<" => .ok (truth (left < right))
  | ">" => .ok (truth (right < left))
  | "<=" => .ok (truth (left ≤ right))
  | ">=" => .ok (truth (right ≤ left))
  | "<<" => .ok (cut (left * (Nat.pow 2 (bits right % 64) : Nat)))
  | ">>" => .ok (left.fdiv (Nat.pow 2 (bits right % 64) : Nat))
  | "+" => .ok (cut (left + right))
  | "-" => .ok (cut (left - right))
  | "*" => .ok (cut (left * right))
  | "/" => if right = 0 then .error .divisionByZero else .ok (cut (left.tdiv right))
  | "%" => if right = 0 then .error .divisionByZero else .ok (left.tmod right)
  | _ => .error (.malformed "EOF")

/-- Names that have been set, the last one first. -/
abbrev Settings := List (String × Int)

/-- A part of the work on a sum: the items that are left and the names that have been set. -/
abbrev Working := StateT (List Item × Settings) (Except Fault)

def numberOf (text : String) : Except Fault Int :=
  match leadingInteger? text.toList with
  | some (value, rest) => if rest.all isSpace then .ok (cut value) else .error (.noNumber text)
  | none => if text.toList.all isSpace then .ok 0 else .error (.noNumber text)

/-- The number that a name stands for; `values` are the texts of names that have not been set. -/
def valueOf (values : String → String) (name : String) : Working Int := do
  match (← get).2.find? fun one => one.1 == name with
  | some one => return one.2
  | none => numberOf (values name)

def front : Working (Option Item) := do
  return (← get).1.head?

def pass : Working Unit :=
  modify fun (items, settings) => (items.drop 1, settings)

/-- Goes past a sign that has to be at the front. -/
def expect (sign : String) : Working Unit := do
  if (← front) = some (.sign sign) then pass
  else throw (.malformed s!"'{sign}'")

/-- The sign that works on a name and a value before the name is set, if a sign sets names. -/
def setting? (sign : String) : Option String :=
  if sign = "=" then some ""
  else if sign.length ≥ 2 ∧ sign.toList.getLast? = some '=' ∧ (tightness? sign).isNone then
    some (String.ofList sign.toList.dropLast)
  else none

mutual

/-- The value of a name that is set, or of a condition. -/
def assignment (values : String → String) : Nat → Bool → Working Int
  | 0, _ => throw (.malformed "primary")
  | fuel + 1, counts => do
      match (← get).1 with
      | .name name :: .sign sign :: _ =>
          match setting? sign with
          | some operator =>
              pass
              pass
              let right ← assignment values fuel counts
              if !counts then return right
              let value ←
                if operator.isEmpty then pure right
                else combine operator (← valueOf values name) right
              modify fun (items, settings) => (items, (name, value) :: settings)
              return value
          | none => condition values fuel counts
      | _ => condition values fuel counts

/-- The value of a condition with its two outcomes, or of what is joined by "or". -/
def condition (values : String → String) : Nat → Bool → Working Int
  | 0, _ => throw (.malformed "primary")
  | fuel + 1, counts => do
      let holds ← disjunction values fuel counts
      if (← front) != some (.sign "?") then return holds
      pass
      let first ← assignment values fuel (counts && holds != 0)
      expect ":"
      let second ← condition values fuel (counts && holds == 0)
      return if holds != 0 then first else second

def disjunction (values : String → String) : Nat → Bool → Working Int
  | 0, _ => throw (.malformed "primary")
  | fuel + 1, counts => do
      let left ← conjunction values fuel counts
      if (← front) != some (.sign "||") then return left
      pass
      let right ← disjunction values fuel (counts && left == 0)
      return truth (left != 0 || right != 0)

def conjunction (values : String → String) : Nat → Bool → Working Int
  | 0, _ => throw (.malformed "primary")
  | fuel + 1, counts => do
      let left ← operation values fuel counts 0
      if (← front) != some (.sign "&&") then return left
      pass
      let right ← conjunction values fuel (counts && left != 0)
      return truth (left != 0 && right != 0)

/-- The value of what is joined by signs that bind at least as tightly as `level`. -/
def operation (values : String → String) : Nat → Bool → Nat → Working Int
  | 0, _, _ => throw (.malformed "primary")
  | fuel + 1, counts, level => do
      operationBehind values fuel counts level (← primary values fuel counts)

/-- The value of what is joined to a value by signs that bind at least as tightly as `level`. -/
def operationBehind (values : String → String) : Nat → Bool → Nat → Int → Working Int
  | 0, _, _, _ => throw (.malformed "primary")
  | fuel + 1, counts, level, left => do
      match ← front with
      | some (.sign sign) =>
          match tightness? sign with
          | some tightness =>
              if level ≤ tightness then
                pass
                let right ← operation values fuel counts (tightness + 1)
                let value ← if counts then combine sign left right else pure 0
                operationBehind values fuel counts level value
              else return left
          | none => return left
      | _ => return left

/-- A number, a name, a sum in brackets, or one of these with a sign in front. -/
def primary (values : String → String) : Nat → Bool → Working Int
  | 0, _ => throw (.malformed "primary")
  | fuel + 1, counts => do
      match ← front with
      | some (.number value) =>
          pass
          return cut value
      | some (.name name) =>
          pass
          if counts then valueOf values name else return 0
      | some (.sign "(") =>
          pass
          let value ← assignment values fuel counts
          expect ")"
          return value
      | some (.sign "+") =>
          pass
          primary values fuel counts
      | some (.sign "-") =>
          pass
          return cut (-(← primary values fuel counts))
      | some (.sign "!") =>
          pass
          return truth ((← primary values fuel counts) == 0)
      | some (.sign "~") =>
          pass
          return cut (-(← primary values fuel counts) - 1)
      | _ => throw (.malformed "primary")

end

/-- The value of a sum, and the names that it sets; `values` are the texts that names stand for. -/
def eval (values : String → String) (text : String) : Except Fault (Int × Settings) := do
  let found := items text.length text.toList
  let (value, left, settings) ←
    (assignment values (8 * found.length + 8) true).run (found, [])
  if left.isEmpty then return (value, settings) else throw (.malformed "EOF")

end Arithmetic

end SqlColumns.Shell
