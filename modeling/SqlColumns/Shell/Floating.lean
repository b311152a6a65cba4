import SqlColumns.Shell.Numeral

/-!
# Floating numbers as texts

A floating number is a fraction of two whole numbers, so its decimal digits can be had exactly; they
are rounded to nearest, and a tie goes to the even digit. Texts are read to the nearest floating
number.
-/

set_option autoImplicit false

namespace SqlColumns.Shell

namespace Floating

/-- A floating number taken apart: a fraction with a sign, something infinite, or no number. -/
inductive Parts where
  | finite (negative : Bool) (numerator denominator : Nat)
  | infinite (negative : Bool)
  | nan (negative : Bool)
  deriving DecidableEq, Repr

def parts (value : Float) : Parts :=
  let bits := value.toBits.toNat
  let negative := bits / 0x8000000000000000 == 1
  let exponent := bits / 0x10000000000000 % 2048
  let fraction := bits % 0x10000000000000
  if exponent = 2047 then if fraction = 0 then .infinite negative else .nan negative
  else
    let mantissa := if exponent = 0 then fraction else fraction + 0x10000000000000
    let scale := max exponent 1
    if 1075 ≤ scale then .finite negative (mantissa * Nat.pow 2 (scale - 1075)) 1
    else .finite negative mantissa (Nat.pow 2 (1075 - scale))

/-- A fraction rounded to the nearest whole number, a tie to the even one. -/
def round (numerator denominator : Nat) : Nat :=
  let whole := numerator / denominator
  let rest := 2 * (numerator % denominator)
  if rest < denominator then whole
  else if denominator < rest then whole + 1
  else if whole % 2 = 0 then whole
  else whole + 1

/-- A fraction with a number of places behind the point. -/
def fixed (alternate : Bool) (places numerator denominator : Nat) : String :=
  let digits := inBase 10 (round (numerator * Nat.pow 10 places) denominator)
  let digits := "".pushn '0' (places + 1 - digits.length) ++ digits
  let whole := String.ofList (digits.toList.take (digits.length - places))
  let behind := String.ofList (digits.toList.drop (digits.length - places))
  if places = 0 then if alternate then whole ++ "." else whole else whole ++ "." ++ behind

/-- How often a numerator has to be made ten times as big until it reaches the denominator. -/
def tensMissing (denominator : Nat) : Nat → Nat → Nat
  | 0, _ => 0
  | fuel + 1, numerator =>
      if denominator ≤ numerator then 0 else tensMissing denominator fuel (numerator * 10) + 1

def leadingExponent (numerator denominator : Nat) : Int :=
  if numerator = 0 then 0
  else if denominator ≤ numerator then
    ((inBase 10 (numerator / denominator)).length : Int) - 1
  else -(tensMissing denominator 400 numerator : Int)

/-- The digits of a fraction, one of them before the point, and the exponent that they go with. -/
def scientificDigits (places numerator denominator : Nat) : Nat × Int :=
  let exponent := leadingExponent numerator denominator
  let shift := (places : Int) - exponent
  let scaled :=
    if 0 ≤ shift then round (numerator * Nat.pow 10 shift.toNat) denominator
    else round numerator (denominator * Nat.pow 10 (-shift).toNat)
  if Nat.pow 10 (places + 1) ≤ scaled then (scaled / 10, exponent + 1) else (scaled, exponent)

def exponentText (mark : Char) (exponent : Int) : String :=
  let digits := inBase 10 exponent.natAbs
  let sign := if exponent < 0 then "-" else "+"
  String.singleton mark ++ sign ++ "".pushn '0' (2 - digits.length) ++ digits

/-- A fraction in scientific notation, with a number of places behind the point. -/
def scientific (alternate : Bool) (mark : Char) (places numerator denominator : Nat) : String :=
  let (scaled, exponent) := scientificDigits places numerator denominator
  let digits := (inBase 10 scaled).toList
  let digits := List.replicate (places + 1 - digits.length) '0' ++ digits
  let point := if places = 0 ∧ !alternate then "" else "."
  String.ofList (digits.take 1) ++ point ++ String.ofList (digits.drop 1) ++
    exponentText mark exponent

def withoutZeros (text : String) : String :=
  if text.toList.contains '.' then
    let kept := text.toList.reverse.dropWhile (· == '0')
    String.ofList (if kept.head? = some '.' then kept.drop 1 else kept).reverse
  else text

/-- A fraction in the shorter of both notations, with a number of digits. -/
def general (alternate : Bool) (mark : Char) (precision numerator denominator : Nat) : String :=
  let digits := max precision 1
  let (scaled, exponent) := scientificDigits (digits - 1) numerator denominator
  if -4 ≤ exponent ∧ exponent < digits then
    let text := fixed alternate ((digits : Int) - 1 - exponent).toNat numerator denominator
    if alternate then text else withoutZeros text
  else
    let text := inBase 10 scaled
    let front := String.ofList (text.toList.take 1) ++ "." ++ String.ofList (text.toList.drop 1)
    (if alternate then front else withoutZeros front) ++ exponentText mark exponent

/-- The whole part of a floating number, cut toward zero. -/
def truncated? (value : Float) : Option Int :=
  match parts value with
  | .finite negative numerator denominator =>
      let whole : Int := (numerator / denominator : Nat)
      some (if negative then -whole else whole)
  | _ => none

def startsWithLetters (letters : String) (text : List Char) : Bool :=
  (text.take letters.length).map Char.toLower == letters.toList

/-- The floating number in hexadecimal digits in front of a text, and what follows it. -/
def readHexadecimal (text : List Char) : Float × List Char :=
  let whole := text.takeWhile (isDigitIn 16)
  let behind := text.drop whole.length
  let (places, behind) :=
    match behind with
    | '.' :: more =>
        let digits := more.takeWhile (isDigitIn 16)
        (digits, more.drop digits.length)
    | _ => ([], behind)
  let value := Float.ofNat (valueIn 16 (whole ++ places))
  let (power, behind) : Int × List Char :=
    match behind with
    | 'p' :: more | 'P' :: more => (leadingDecimal? more).getD (0, behind)
    | _ => (0, behind)
  (value * Float.pow 2 (Float.ofInt (power - 4 * places.length)), behind)

/-- The power of ten behind a number, and what follows it. -/
def readExponent (text : List Char) : Int × List Char :=
  match text with
  | mark :: more =>
      if mark = 'e' ∨ mark = 'E' then
        let (negative, digits) := readSign more
        let shown := digits.takeWhile Char.isDigit
        if shown.isEmpty then (0, text)
        else
          let value : Int := digitsValue shown
          (if negative then -value else value, digits.drop shown.length)
      else (0, text)
  | [] => (0, [])

/-- The floating number without a sign in front of a text, and what follows it. -/
def readUnsigned? (text : List Char) : Option (Float × List Char) :=
  if startsWithLetters "infinity" text then some (1.0 / 0.0, text.drop 8)
  else if startsWithLetters "inf" text then some (1.0 / 0.0, text.drop 3)
  else if startsWithLetters "nan" text then some (0.0 / 0.0, text.drop 3)
  else if startsWithLetters "0x" text && (text.drop 2).head?.any (isDigitIn 16) then
    some (readHexadecimal (text.drop 2))
  else
    let whole := text.takeWhile Char.isDigit
    let behind := text.drop whole.length
    let (places, behind) :=
      match behind with
      | '.' :: more =>
          let digits := more.takeWhile Char.isDigit
          (digits, more.drop digits.length)
      | _ => ([], behind)
    if whole.isEmpty ∧ places.isEmpty then none
    else
      let (power, behind) := readExponent behind
      let power := power - places.length
      let value := Float.ofScientific (digitsValue (whole ++ places)) (power < 0) power.natAbs
      some (value, behind)

/-- The floating number in front of a text, and what follows it. -/
def leading? (text : List Char) : Option (Float × List Char) :=
  let (negative, rest) := readSign (text.dropWhile isSpace)
  (readUnsigned? rest).map fun (value, behind) => (if negative then -value else value, behind)

end Floating

/-- The time that words for times make together, in microseconds. -/
def pauseOf? (words : List String) : Option Int :=
  words.foldl (fun time word => do
    let time ← time
    let (value, rest) ← Floating.leading? word.toList
    let unit ← match rest with
      | [] | ['s'] => some 1
      | ['m'] => some 60
      | ['h'] => some 3600
      | ['d'] => some 86400
      | _ => none
    if value < 0 then none
    else return time + (Floating.truncated? (value * unit * 1000000)).getD 0) (some 0)

end SqlColumns.Shell
