import SqlColumns.Shell.Numeral

/-!
# Quoted names

Programs put names in quotes when they complain. A name that does not print is shown in a way in
which a shell could read it: with escapes between quotes of their own.
-/

set_option autoImplicit false

namespace SqlColumns.Shell

def isShown (c : Char) : Bool :=
  ' ' ≤ c && c ≤ '~'

def escapeOf (c : Char) : String :=
  match c with
  | '\x07' => "\\a"
  | '\x08' => "\\b"
  | '\t' => "\\t"
  | '\n' => "\\n"
  | '\x0b' => "\\v"
  | '\x0c' => "\\f"
  | '\r' => "\\r"
  | _ =>
      let digits := inBase 8 c.toNat
      "\\" ++ "".pushn '0' (3 - digits.length) ++ digits

/-- The characters of a name between quotes, behind an escape or not. -/
def quotedChars : Bool → List Char → String
  | _, [] => ""
  | escaping, c :: rest =>
      if isShown c then
        let shown := if c = '\'' then "'\\''" else String.singleton c
        (if escaping then "''" else "") ++ shown ++ quotedChars false rest
      else (if escaping then "" else "'$'") ++ escapeOf c ++ quotedChars true rest

def quoted (name : String) : String :=
  let special (c : Char) : Bool := "\\$\"!\x60".toList.contains c || !isShown c
  if name.toList.contains '\'' ∧ !name.toList.any special then "\"" ++ name ++ "\""
  else "'" ++ quotedChars false name.toList ++ "'"

/-- A character that a shell reads as more than itself. -/
def needsQuotes (c : Char) : Bool :=
  !isShown c || " !\"$&'()*:;<=>?[\\^\x60|".toList.contains c

/-- A name as it is where a shell would read it as itself, else in quotes. -/
def plainlyQuoted (name : String) : String :=
  let first := name.toList.head?.any fun c => c == '#' || c == '~'
  if name.isEmpty || first || name.toList.any needsQuotes || name = "\x7b" || name = "\x7d" then
    quoted name
  else name

def cited (word : String) : String :=
  let shown (c : Char) : String :=
    if c = '\'' then "\\'"
    else if c = '\\' then "\\\\"
    else if isShown c then String.singleton c
    else escapeOf c
  "'" ++ String.join (word.toList.map shown) ++ "'"

end SqlColumns.Shell
