import SqlColumns.Json.Basic

/-!
# Reading JSON

The value that a text stands for, blanks around its parts allowed. Numbers are integers. A text
with anything behind its value is refused, and so is one whose value is nested too deep.
-/

set_option autoImplicit false

namespace SqlColumns.Json

/-- The blanks that may stand between the parts of a text. -/
def isGap (c : Char) : Bool :=
  c == ' ' || c == '\n' || c == '\r' || c == '\t'

def skipGaps (text : List Char) : List Char :=
  text.dropWhile isGap

def hexValue? (c : Char) : Option Nat :=
  if '0' ≤ c ∧ c ≤ '9' then some (c.toNat - '0'.toNat)
  else if 'a' ≤ c ∧ c ≤ 'f' then some (c.toNat - 'a'.toNat + 10)
  else if 'A' ≤ c ∧ c ≤ 'F' then some (c.toNat - 'A'.toNat + 10)
  else none

def unit? (first second third fourth : Char) : Option Nat := do
  return (← hexValue? first) * 4096 + (← hexValue? second) * 256 +
    (← hexValue? third) * 16 + (← hexValue? fourth)

def shortEscape? (c : Char) : Option Char :=
  if c = '"' then some '"'
  else if c = '\\' then some '\\'
  else if c = '/' then some '/'
  else if c = 'b' then some '\x08'
  else if c = 'f' then some '\x0c'
  else if c = 'n' then some '\n'
  else if c = 'r' then some '\r'
  else if c = 't' then some '\t'
  else none

/-- The characters of a string up to its closing quote, and the text behind the quote. -/
def readString (done : List Char) : List Char → Option (String × List Char)
  | [] => none
  | '"' :: rest => some (String.ofList done.reverse, rest)
  | '\\' :: 'u' :: first :: second :: third :: fourth :: rest =>
      match unit? first second third fourth with
      | none => none
      | some high =>
          if 0xD800 ≤ high ∧ high < 0xDC00 then
            match rest with
            | '\\' :: 'u' :: fifth :: sixth :: seventh :: eighth :: rest =>
                match unit? fifth sixth seventh eighth with
                | none => none
                | some low =>
                    if 0xDC00 ≤ low ∧ low < 0xE000 then
                      let code := 0x10000 + (high - 0xD800) * 0x400 + (low - 0xDC00)
                      readString (Char.ofNat code :: done) rest
                    else none
            | _ => none
          else if high.isValidChar then readString (Char.ofNat high :: done) rest
          else none
  | '\\' :: c :: rest =>
      match shortEscape? c with
      | some plain => readString (plain :: done) rest
      | none => none
  | c :: rest => if c.toNat < 0x20 ∨ c = '\\' then none else readString (c :: done) rest

def digitsValue (digits : List Char) : Nat :=
  digits.foldl (fun value c => value * 10 + (c.toNat - '0'.toNat)) 0

/-- A run of digits without a superfluous zero, and the text behind it. -/
def readNat (text : List Char) : Option (Nat × List Char) :=
  match text.takeWhile Char.isDigit with
  | [] => none
  | ['0'] => some (0, text.dropWhile Char.isDigit)
  | '0' :: _ => none
  | digits => some (digitsValue digits, text.dropWhile Char.isDigit)

/-- An integer and the text behind it, which must not go on as a fraction or an exponent. -/
def readInt (text : List Char) : Option (Int × List Char) := do
  let (value, rest) ← match text with
    | '-' :: rest => do
        let (value, rest) ← readNat rest
        pure (-(value : Int), rest)
    | _ => do
        let (value, rest) ← readNat text
        pure ((value : Int), rest)
  match rest with
  | '.' :: _ | 'e' :: _ | 'E' :: _ => none
  | _ => some (value, rest)

mutual

/-- One value and the text behind it; `fuel` bounds the depth and the length. -/
def readValue : Nat → List Char → Option (Json × List Char)
  | 0, _ => none
  | fuel + 1, text =>
      match skipGaps text with
      | 'n' :: 'u' :: 'l' :: 'l' :: rest => some (.null, rest)
      | 't' :: 'r' :: 'u' :: 'e' :: rest => some (.bool true, rest)
      | 'f' :: 'a' :: 'l' :: 's' :: 'e' :: rest => some (.bool false, rest)
      | '"' :: rest => (readString [] rest).map fun (value, rest) => (.string value, rest)
      | '[' :: rest =>
          match skipGaps rest with
          | ']' :: rest => some (.array [], rest)
          | _ => (readItems fuel rest).map fun (items, rest) => (.array items, rest)
      | '{' :: rest =>
          match skipGaps rest with
          | '}' :: rest => some (.object [], rest)
          | _ => (readMembers fuel rest).map fun (members, rest) => (.object members, rest)
      | other => (readInt other).map fun (value, rest) => (.number value, rest)

def readItems : Nat → List Char → Option (List Json × List Char)
  | 0, _ => none
  | fuel + 1, text => do
      let (item, rest) ← readValue fuel text
      match skipGaps rest with
      | ',' :: rest => do
          let (items, rest) ← readItems fuel rest
          return (item :: items, rest)
      | ']' :: rest => return ([item], rest)
      | _ => none

def readMembers : Nat → List Char → Option (List (String × Json) × List Char)
  | 0, _ => none
  | fuel + 1, text => do
      let (key, rest) ← match skipGaps text with
        | '"' :: rest => readString [] rest
        | _ => none
      let (value, rest) ← match skipGaps rest with
        | ':' :: rest => readValue fuel rest
        | _ => none
      match skipGaps rest with
      | ',' :: rest => do
          let (members, rest) ← readMembers fuel rest
          return ((key, value) :: members, rest)
      | '}' :: rest => return ([(key, value)], rest)
      | _ => none

end

mutual

/-- How many arrays and objects are nested in each other. -/
def depth : Json → Nat
  | .array items => depthOfItems items + 1
  | .object members => depthOfMembers members + 1
  | _ => 0

def depthOfItems : List Json → Nat
  | [] => 0
  | item :: items => max (depth item) (depthOfItems items)

def depthOfMembers : List (String × Json) → Nat
  | [] => 0
  | (_, value) :: members => max (depth value) (depthOfMembers members)

end

/-- The depth of the deepest values that are read. -/
def deepest : Nat := 127

/-- The value of a text; nothing when the text is not one value, or its value is too deep. -/
def parse? (text : String) : Option Json :=
  match readValue (2 * text.toList.length + 2) text.toList with
  | some (value, rest) =>
      if (skipGaps rest).isEmpty ∧ value.depth ≤ deepest then some value else none
  | none => none

end SqlColumns.Json
