/-!
# Classes of characters

The named classes of characters that patterns, expressions and sets know. Only ASCII has letters,
digits and marks.
-/

set_option autoImplicit false

namespace SqlColumns.Shell

/-- Printing characters that are no letters, digits or blanks. -/
def isMark (c : Char) : Bool :=
  '!' ≤ c && c ≤ '~' && !c.isAlphanum

def isControl (c : Char) : Bool :=
  c < ' ' || c == '\x7f'

def classNamed? (name : String) : Option (Char → Bool) :=
  match name with
  | "alpha" => some Char.isAlpha
  | "digit" => some Char.isDigit
  | "alnum" => some Char.isAlphanum
  | "upper" => some Char.isUpper
  | "lower" => some Char.isLower
  | "space" => some fun c => c == ' ' || ('\t' ≤ c && c ≤ '\r')
  | "blank" => some fun c => c == ' ' || c == '\t'
  | "punct" => some isMark
  | "print" => some fun c => ' ' ≤ c && c ≤ '~'
  | "graph" => some fun c => '!' ≤ c && c ≤ '~'
  | "cntrl" => some isControl
  | "xdigit" => some fun c =>
      c.isDigit || ('a' ≤ c && c ≤ 'f') || ('A' ≤ c && c ≤ 'F')
  | _ => none

/-- The name of a class in front of a text, between colons and behind an opening bracket, and the
text behind its closing bracket. -/
def readClass? (text : List Char) : Option (String × List Char) :=
  match text with
  | '[' :: ':' :: rest =>
      let name := rest.takeWhile Char.isAlpha
      match rest.drop name.length with
      | ':' :: ']' :: behind => some (String.ofList name, behind)
      | _ => none
  | _ => none

end SqlColumns.Shell
