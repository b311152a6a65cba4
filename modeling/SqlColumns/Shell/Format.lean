import SqlColumns.Shell.Floating
import SqlColumns.Shell.Octets

/-!
# Formats

A format tells how a value is set: as what, at which side of its field, how wide at least, and with
how many digits or characters. Backslashes in front of letters and octal digits stand for bytes.
-/

set_option autoImplicit false

namespace SqlColumns.Shell

/-- How a value is set. -/
structure Format where
  left : Bool
  plus : Bool
  blank : Bool
  alternate : Bool
  zeros : Bool
  width : Nat
  precision : Option Nat
  conversion : Char
  deriving DecidableEq, Repr

namespace Format

def pad (format : Format) (text : String) : String :=
  if format.left then padRight format.width text else padLeft format.width text

/-- A number with what stands in front of its digits, in a field of the width of a format. -/
def padNumber (format : Format) (zeros : Bool) (front digits : String) : String :=
  let missing := format.width - front.length - digits.length
  if zeros && !format.left then front ++ "".pushn '0' missing ++ digits
  else format.pad (front ++ digits)

def setText (format : Format) (text : String) : String :=
  format.pad
    (match format.precision with
    | some length => String.ofList (text.toList.take length)
    | none => text)

def sign (format : Format) (negative : Bool) : String :=
  if negative then "-" else if format.plus then "+" else if format.blank then " " else ""

def word (value : Int) : Nat :=
  (value % 0x10000000000000000).toNat

def setInteger (format : Format) (value : Int) : String :=
  let precise (digits : String) : String :=
    match format.precision with
    | some count =>
        if count = 0 ∧ value = 0 then "" else "".pushn '0' (count - digits.length) ++ digits
    | none => digits
  let zeros := format.zeros && format.precision.isNone
  let unsigned (base : Nat) : String := inBase base (word value)
  let mark (text : String) : String := if format.alternate ∧ value ≠ 0 then text else ""
  match format.conversion with
  | 'o' =>
      let digits := precise (unsigned 8)
      let digits := if format.alternate && digits.toList.head? != some '0' then "0" ++ digits
        else digits
      format.padNumber zeros "" digits
  | 'x' => format.padNumber zeros (mark "0x") (precise (unsigned 16))
  | 'X' => format.padNumber zeros (mark "0X") (precise (unsigned 16).toUpper)
  | 'u' => format.padNumber zeros "" (precise (unsigned 10))
  | _ =>
      format.padNumber zeros (format.sign (value < 0)) (precise (inBase 10 value.natAbs))

def setFloat (format : Format) (value : Float) : String :=
  let capital := format.conversion.isUpper
  let named (negative : Bool) (name : String) : String :=
    format.padNumber false (format.sign negative) (if capital then name.toUpper else name)
  match Floating.parts value with
  | .infinite negative => named negative "inf"
  | .nan negative => named negative "nan"
  | .finite negative numerator denominator =>
      let precision := format.precision.getD 6
      let digits :=
        match format.conversion.toLower with
        | 'f' => Floating.fixed format.alternate precision numerator denominator
        | 'e' =>
            Floating.scientific format.alternate format.conversion precision numerator denominator
        | _ =>
            Floating.general format.alternate (if capital then 'E' else 'e') precision numerator
              denominator
      format.padNumber format.zeros (format.sign negative) digits

def isInteger (conversion : Char) : Bool :=
  "diouxX".toList.contains conversion

def isFloat (conversion : Char) : Bool :=
  "eEfFgG".toList.contains conversion

end Format

/-- A width or a precision in a format: none, a number, or one that is given with the values. -/
inductive Size where
  | none
  | fixed (size : Nat)
  | given
  deriving DecidableEq, Repr

/-- A place for a value in a format: its flags, width, precision and conversion, and the text of all
that without the conversion. -/
structure Slot where
  flags : List Char
  width : Size
  precision : Size
  conversion : Char
  deriving DecidableEq, Repr

namespace Slot

def readSize : List Char → Size × List Char
  | '*' :: rest => (.given, rest)
  | text =>
      let digits := text.takeWhile Char.isDigit
      if digits.isEmpty then (.none, text)
      else (.fixed (digitsValue digits), text.drop digits.length)

/-- The place behind a percent sign, and what follows it; nothing when the text ends too early. -/
def read? (text : List Char) : Option (Slot × List Char) :=
  let flags := text.takeWhile fun c => "#-+ 0".toList.contains c
  let (width, rest) := readSize (text.drop flags.length)
  let (precision, rest) : Size × List Char :=
    match rest with
    | '.' :: more =>
        match readSize more with
        | (.none, more) => (.fixed 0, more)
        | found => found
    | _ => (.none, rest)
  match rest with
  | conversion :: behind => some (⟨flags, width, precision, conversion⟩, behind)
  | [] => none

def sizeText : Size → String
  | .none => ""
  | .fixed size => inBase 10 size
  | .given => "*"

def text (slot : Slot) : String :=
  let precision := if slot.precision = .none then "" else "." ++ sizeText slot.precision
  "%" ++ String.ofList slot.flags ++ sizeText slot.width ++ precision ++
    String.singleton slot.conversion

/-- The format of a place whose width and precision are known, if there are any: a negative width
means the left side, and a negative precision means none. -/
def format (slot : Slot) (width precision : Option Int) : Format :=
  let has (c : Char) : Bool := slot.flags.contains c
  { left := has '-' || width.any (· < 0)
    plus := has '+'
    blank := has ' '
    alternate := has '#'
    zeros := has '0'
    width := (width.getD 0).natAbs
    precision := precision.bind fun count => if count < 0 then none else some count.toNat
    conversion := slot.conversion }

end Slot

def octalValue? (c : Char) : Option Nat :=
  if '0' ≤ c ∧ c ≤ '7' then some (c.toNat - '0'.toNat) else none

/-- The octet of an octal number of at most `digits` digits behind `value`, and the text behind it.
-/
def readOctal : Nat → Nat → List Char → Char × List Char
  | 0, value, text => (Char.ofNat (value % 256), text)
  | digits + 1, value, c :: text =>
      match octalValue? c with
      | some digit => readOctal digits (value * 8 + digit) text
      | none => (Char.ofNat (value % 256), c :: text)
  | _ + 1, value, [] => (Char.ofNat (value % 256), [])

def escaped? (c : Char) : Option Char :=
  match c with
  | 'n' => some '\n'
  | 't' => some '\t'
  | 'r' => some '\r'
  | 'a' => some '\x07'
  | 'b' => some '\x08'
  | 'f' => some '\x0c'
  | 'v' => some '\x0b'
  | 'e' => some '\x1b'
  | '\\' => some '\\'
  | _ => none

/-- What a backslash in a format stands for together with what follows it, and the text behind that:
a letter, or up to three octal digits; otherwise the backslash is one. -/
def readEscape (text : List Char) : Char × List Char :=
  match text with
  | c :: rest =>
      match escaped? c, octalValue? c with
      | some found, _ => (found, rest)
      | none, some digit => readOctal 2 digit rest
      | none, none => ('\\', text)
  | [] => ('\\', [])

/-- A text with its escapes read, up to one that stops it, and whether there is one. A zero in front
of octal digits does not count as one of the three. The text is read as far as `fuel` steps. -/
def unescapeFrom : Nat → List Char → List Char × Bool
  | 0, _ | _, [] => ([], false)
  | _ + 1, '\\' :: 'c' :: _ => ([], true)
  | fuel + 1, '\\' :: '0' :: rest =>
      let (c, behind) := readOctal 3 0 rest
      let (text, stopped) := unescapeFrom fuel behind
      (c :: text, stopped)
  | fuel + 1, '\\' :: rest =>
      let (c, behind) := readEscape rest
      let (text, stopped) := unescapeFrom fuel behind
      (c :: text, stopped)
  | fuel + 1, c :: rest =>
      let (text, stopped) := unescapeFrom fuel rest
      (c :: text, stopped)

/-- A text with its escapes read, up to one that stops it, and whether there is one. -/
def unescape (text : String) : String × Bool :=
  let (read, stopped) := unescapeFrom (text.length + 1) text.toList
  (String.ofList read, stopped)

end SqlColumns.Shell
