import SqlColumns.Json.Basic

/-!
# JSON texts

The compact text of a value, without blanks, and the pretty text, one member or item a line with
two spaces for each level. Quotes, backslashes and control characters are escaped; every other
character stands for itself.
-/

set_option autoImplicit false

namespace SqlColumns.Json

def hexDigit (value : Nat) : Char :=
  Nat.digitChar (value % 16)

def escapeChar (c : Char) : List Char :=
  if c = '"' then ['\\', '"']
  else if c = '\\' then ['\\', '\\']
  else if c = '\n' then ['\\', 'n']
  else if c = '\r' then ['\\', 'r']
  else if c = '\t' then ['\\', 't']
  else if c = '\x08' then ['\\', 'b']
  else if c = '\x0c' then ['\\', 'f']
  else if c.toNat < 0x20 then
    ['\\', 'u', '0', '0', hexDigit (c.toNat / 16), hexDigit (c.toNat % 16)]
  else [c]

def stringChars (value : String) : List Char :=
  '"' :: value.toList.flatMap escapeChar ++ ['"']

def natChars (value : Nat) : List Char :=
  Nat.toDigits 10 value

def intChars : Int → List Char
  | .ofNat value => natChars value
  | .negSucc value => '-' :: natChars (value + 1)

mutual

def compactChars : Json → List Char
  | .null => ['n', 'u', 'l', 'l']
  | .bool true => ['t', 'r', 'u', 'e']
  | .bool false => ['f', 'a', 'l', 's', 'e']
  | .number value => intChars value
  | .string value => stringChars value
  | .array items => '[' :: compactItems items ++ [']']
  | .object members => '{' :: compactMembers members ++ ['}']

def compactItems : List Json → List Char
  | [] => []
  | [item] => compactChars item
  | item :: items => compactChars item ++ ',' :: compactItems items

def compactMembers : List (String × Json) → List Char
  | [] => []
  | [(key, value)] => stringChars key ++ ':' :: compactChars value
  | (key, value) :: members =>
      stringChars key ++ ':' :: compactChars value ++ ',' :: compactMembers members

end

def lineBreak (level : Nat) : List Char :=
  '\n' :: List.replicate (2 * level) ' '

mutual

/-- The pretty text of a value whose first line starts at the given level. -/
def prettyChars (level : Nat) : Json → List Char
  | .null => ['n', 'u', 'l', 'l']
  | .bool true => ['t', 'r', 'u', 'e']
  | .bool false => ['f', 'a', 'l', 's', 'e']
  | .number value => intChars value
  | .string value => stringChars value
  | .array [] => ['[', ']']
  | .array (item :: items) =>
      '[' :: prettyItems (level + 1) (item :: items) ++ lineBreak level ++ [']']
  | .object [] => ['{', '}']
  | .object (member :: members) =>
      '{' :: prettyMembers (level + 1) (member :: members) ++ lineBreak level ++ ['}']

def prettyItems (level : Nat) : List Json → List Char
  | [] => []
  | [item] => lineBreak level ++ prettyChars level item
  | item :: items => lineBreak level ++ prettyChars level item ++ ',' :: prettyItems level items

def prettyMembers (level : Nat) : List (String × Json) → List Char
  | [] => []
  | [(key, value)] =>
      lineBreak level ++ stringChars key ++ ':' :: ' ' :: prettyChars level value
  | (key, value) :: members =>
      lineBreak level ++ stringChars key ++ ':' :: ' ' :: prettyChars level value ++
        ',' :: prettyMembers level members

end

def compact (value : Json) : String :=
  String.ofList (compactChars value)

def pretty (value : Json) : String :=
  String.ofList (prettyChars 0 value)

end SqlColumns.Json
