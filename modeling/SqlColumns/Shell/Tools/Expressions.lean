import SqlColumns.Shell.Entries
import SqlColumns.Shell.Regex.Reader
import SqlColumns.Shell.Tools.Printing

/-!
# Expressions in words

A program that computes what its words tell: with numbers, with texts, and with parts of texts that
regular expressions stand for.
-/

set_option autoImplicit false

namespace SqlColumns.Shell.Tools

namespace Expression

/-- Why words are no expression, or have no value. -/
inductive Fault where
  | missing (word : String)
  | unexpected (word : String)
  | unclosed (word : String)
  | unopened
  | noNumber
  | divisionByZero
  | badRegex (fault : Regex.Fault)
  deriving DecidableEq, Repr

def Fault.message : Fault → String
  | .missing word => s!"syntax error: missing argument after {cited word}"
  | .unexpected word => s!"syntax error: unexpected argument {cited word}"
  | .unclosed word => "syntax error: expecting ')' after " ++ cited word
  | .unopened => "syntax error: unexpected ')'"
  | .noNumber => "non-integer argument"
  | .divisionByZero => "division by zero"
  | .badRegex fault => fault.message

/-- The words that are left, and the one that was read last. -/
structure Words where
  left : List String
  last : String

abbrev Reading := StateT Words (Except Fault)

def number? (text : String) : Option Int :=
  let (digits, negative) := match text.toList with
    | '-' :: digits => (digits, true)
    | digits => (digits, false)
  if digits.isEmpty ∨ !digits.all Char.isDigit then none
  else
    let value : Int := digitsValue digits
    some (if negative then -value else value)

/-- A text that counts as false: an empty one or zero. -/
def isNull (text : String) : Bool :=
  text.isEmpty || number? text == some 0

def numberIn (text : String) : Reading Int :=
  match number? text with
  | some value => return value
  | none => throw .noNumber

def accept (words : List String) : Reading (Option String) := do
  match (← get).left with
  | word :: rest =>
      if words.contains word then
        set (⟨rest, word⟩ : Words)
        return some word
      else return none
  | [] => return none

def next : Reading String := do
  let words ← get
  match words.left with
  | word :: rest =>
      set (⟨rest, word⟩ : Words)
      return word
  | [] => throw (.missing words.last)

/-- What a regular expression stands for at the start of a text: its first group, or its length. -/
def matching (text pattern : String) : Reading String := do
  match Regex.read ⟨false, false, false, false⟩ pattern.toList with
  | .error fault => throw (.badRegex fault)
  | .ok (regex, groups) =>
      let chars := text.toList.toArray
      let found := (regex.ends ⟨false, false⟩ chars (0, [])).head?
      if groups = 0 then return inBase 10 ((found.map (·.1)).getD 0)
      else
        let group := found.bind fun one => one.2.find? fun capture => capture.1 == 1
        return match group with
          | some (_, start, stop) => String.ofList (Regex.between chars start stop)
          | none => ""

def part (text start length : String) : String :=
  match number? start, number? length with
  | some start, some length =>
      if start ≤ 0 ∨ length ≤ 0 then ""
      else String.ofList ((text.toList.drop (start.toNat - 1)).take length.toNat)
  | _, _ => ""

def placeOf (text members : String) : Nat :=
  match text.toList.findIdx? members.toList.contains with
  | some place => place + 1
  | none => 0

def truth (holds : Bool) : String := if holds then "1" else "0"

def compare (sign left right : String) : String :=
  let order := match number? left, number? right with
    | some one, some other => compareOfLessAndEq one other
    | _, _ => compareOfLessAndEq left right
  truth (match sign with
    | "<" => order == .lt
    | "<=" => order != .gt
    | "=" | "==" => order == .eq
    | "!=" => order != .eq
    | ">=" => order != .lt
    | _ => order == .gt)

def compute (wanted : Bool) (sign left right : String) : Reading String := do
  if !wanted then return ""
  let one ← numberIn left
  let other ← numberIn right
  match sign with
  | "+" => return decimal (one + other)
  | "-" => return decimal (one - other)
  | "*" => return decimal (one * other)
  | _ =>
      if other = 0 then throw .divisionByZero
      return decimal (if sign = "/" then one.tdiv other else one.tmod other)

def levels : List (List String) :=
  [["|"], ["&"], ["<", "<=", "=", "==", "!=", ">=", ">"], ["+", "-"], ["*", "/", "%"], [":"]]

mutual

/-- The value of what stands between operators of a level; what is not `wanted` is only read. -/
def value : Nat → Nat → Bool → Reading String
  | 0, _, _ => do throw (.missing (← get).last)
  | fuel + 1, level, wanted => do
      match levels[level]? with
      | none => single fuel wanted
      | some signs =>
          let left ← value fuel (level + 1) wanted
          behind fuel level signs wanted left

def behind : Nat → Nat → List String → Bool → String → Reading String
  | 0, _, _, _, left => return left
  | fuel + 1, level, signs, wanted, left => do
      match ← accept signs with
      | none => return left
      | some sign =>
          let goesOn := match sign with
            | "|" => wanted && isNull left
            | "&" => wanted && !isNull left
            | _ => wanted
          let right ← value fuel (level + 1) goesOn
          let result ← match level with
            | 0 =>
                pure (if isNull left then (if isNull right then "0" else right) else left)
            | 1 => pure (if isNull left ∨ isNull right then "0" else left)
            | 2 => pure (if wanted then compare sign left right else "")
            | 5 => if wanted then matching left right else pure ""
            | _ => compute wanted sign left right
          behind fuel level signs wanted result

/-- The value of a word, of something in parentheses, or of a function. -/
def single : Nat → Bool → Reading String
  | 0, _ => do throw (.missing (← get).last)
  | fuel + 1, wanted => do
      match ← next with
      | "(" =>
          let inner ← value fuel 0 wanted
          match ← accept [")"] with
          | some _ => return inner
          | none =>
              match (← get).left with
              | word :: _ => throw (.unexpected word)
              | [] => throw (.unclosed (← get).last)
      | ")" => throw .unopened
      | "+" => next
      | "length" => return inBase 10 (← single fuel wanted).length
      | "match" =>
          let text ← single fuel wanted
          let pattern ← single fuel wanted
          if wanted then matching text pattern else return ""
      | "index" =>
          let text ← single fuel wanted
          return inBase 10 (placeOf text (← single fuel wanted))
      | "substr" =>
          let text ← single fuel wanted
          let start ← single fuel wanted
          return part text start (← single fuel wanted)
      | word => return word

end

def evaluate (words : List String) : Except Fault String := do
  let fuel := 10 * words.length + 10
  let (result, rest) ← (value fuel 0 true).run ⟨words, ""⟩
  match rest.left with
  | word :: _ => throw (.unexpected word)
  | [] => return result

end Expression

def expression : Utility := fun scene words =>
  let words := if words.head? = some "--" then words.drop 1 else words
  if words.isEmpty then missingOperand 2 "operand" scene words
  else
    match Expression.evaluate words with
    | .ok value => scene.ended (if Expression.isNull value then 1 else 0) (value ++ "\n") ""
    | .error fault => scene.failure 2 fault.message

end SqlColumns.Shell.Tools
