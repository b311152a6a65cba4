/-!
# Numerals

Whole numbers as texts: digits in bases up to sixteen, with signs and marks for the base in front of
them.
-/

set_option autoImplicit false

namespace SqlColumns.Shell

def digitValue? (c : Char) : Option Nat :=
  if c.isDigit then some (c.toNat - '0'.toNat)
  else if 'a' ≤ c ∧ c ≤ 'f' then some (c.toNat - 'a'.toNat + 10)
  else if 'A' ≤ c ∧ c ≤ 'F' then some (c.toNat - 'A'.toNat + 10)
  else none

def isDigitIn (base : Nat) (c : Char) : Bool :=
  (digitValue? c).any (· < base)

def valueIn (base : Nat) (digits : List Char) : Nat :=
  digits.foldl (fun value c => value * base + (digitValue? c).getD 0) 0

def digitsValue (digits : List Char) : Nat :=
  valueIn 10 digits

def isCount (word : String) : Bool :=
  !word.isEmpty && word.toList.all Char.isDigit

def count? (word : String) : Option Nat :=
  if isCount word then some (digitsValue word.toList) else none

def inBase (base value : Nat) : String :=
  String.ofList (Nat.toDigits base value)

/-- Decimal digits of a number, with a minus sign in front of a negative one. -/
def decimal (value : Int) : String :=
  if value < 0 then "-" ++ inBase 10 value.natAbs else inBase 10 value.natAbs

def isSpace (c : Char) : Bool :=
  c == ' ' || ('\t' ≤ c && c ≤ '\r')

/-- Text with spaces in front until it is wide enough. -/
def padLeft (width : Nat) (text : String) : String :=
  "".pushn ' ' (width - text.length) ++ text

/-- Text with spaces behind it until it is wide enough. -/
def padRight (width : Nat) (text : String) : String :=
  text ++ "".pushn ' ' (width - text.length)

def readSign : List Char → Bool × List Char
  | '-' :: rest => (true, rest)
  | '+' :: rest => (false, rest)
  | rest => (false, rest)

/-- The base that a number without its sign is in, and its digits with what follows them: sixteen
behind a zero and an x, eight behind a zero. -/
def readBase : List Char → Nat × List Char
  | '0' :: x :: digit :: rest =>
      if (x = 'x' ∨ x = 'X') ∧ isDigitIn 16 digit then (16, digit :: rest)
      else (8, '0' :: x :: digit :: rest)
  | '0' :: rest => (8, '0' :: rest)
  | rest => (10, rest)

/-- The whole number in front of a text, and what follows it. -/
def leadingInteger? (text : List Char) : Option (Int × List Char) :=
  let (negative, unsigned) := readSign (text.dropWhile isSpace)
  let (base, rest) := readBase unsigned
  let digits := rest.takeWhile (isDigitIn base)
  if digits.isEmpty then none
  else
    let value : Int := valueIn base digits
    some (if negative then -value else value, rest.drop digits.length)

def leadingDecimal? (text : List Char) : Option (Int × List Char) :=
  let (negative, rest) := readSign (text.dropWhile isSpace)
  let digits := rest.takeWhile Char.isDigit
  if digits.isEmpty then none
  else
    let value : Int := digitsValue digits
    some (if negative then -value else value, rest.drop digits.length)

def decimal? (word : String) : Option Int :=
  match leadingDecimal? word.toList with
  | some (value, rest) => if rest.all isSpace then some value else none
  | none => none

/-- A number with a letter for a power of two or ten behind it. -/
def sizedCount? (text : String) : Option Nat :=
  let digits := text.toList.takeWhile Char.isDigit
  if digits.isEmpty then none
  else
    let unit : Option Nat :=
      match String.ofList (text.toList.drop digits.length) with
      | "" => some 1
      | "b" => some 512
      | "k" | "K" | "KiB" => some 1024
      | "kB" | "KB" => some 1000
      | "M" | "MiB" => some 1048576
      | "MB" => some 1000000
      | _ => none
    unit.map (digitsValue digits * ·)

end SqlColumns.Shell
