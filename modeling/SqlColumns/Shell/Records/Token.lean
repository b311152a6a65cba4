import SqlColumns.Shell.Floating
import SqlColumns.Shell.Format

/-!
# Tokens of programs that work on records

A program is cut into numbers, texts, expressions between slashes, names and signs. A slash begins
an expression where no value stands in front of it. What cannot be a token ends the row of them.
-/

set_option autoImplicit false

namespace SqlColumns.Shell.Records

/-- What a token is. A name of which a parenthesis follows at once is one that is called. -/
inductive TokenKind where
  | number (value : Float)
  | text (value : String)
  | regex (source : List Char)
  | name (name : String)
  | called (name : String)
  | word (word : String)
  | sign (sign : String)
  | newline
  | ending
  | fault (complaint : String)

/-- A token, its line, and how it is shown. -/
structure Token where
  kind : TokenKind
  line : Nat
  shown : String

namespace Token

def keywords : List String :=
  ["BEGIN", "END", "function", "if", "else", "while", "do", "for", "in", "next", "nextfile", "exit",
    "return", "break", "continue", "delete", "print", "printf", "getline", "length", "substr",
    "index", "split", "sub", "gsub", "match", "sprintf", "sin", "cos", "atan2", "exp", "log",
    "sqrt", "int", "rand", "srand", "tolower", "toupper", "system", "close", "fflush", "systime",
    "strftime"]

def signs : List String :=
  ["&&", "||", "==", "!=", "<=", ">=", ">>", "++", "--", "+=", "-=", "*=", "/=", "%=", "^=", "!~",
    "\x7b", "\x7d", "(", ")", "[", "]", ";", ",", "+", "-", "*", "/", "%", "^", "!", ">", "<", "|",
    "?", ":", "~", "$", "="]

/-- Whether a value may end with a token, so that a slash behind it divides. -/
def endsValue : TokenKind → Bool
  | .number _ | .text _ | .regex _ | .name _ => true
  | .word word => word == "length" || word == "getline"
  | .sign sign => [")", "]", "++", "--"].contains sign
  | _ => false

/-- A text between quotes, behind the first one, and the text behind it; a line may go on behind a
backslash. The text is read as far as `fuel` steps. -/
def readText : Nat → List Char → Option (List Char × List Char)
  | 0, _ | _, [] | _, '\n' :: _ => none
  | _ + 1, '"' :: rest => some ([], rest)
  | fuel + 1, '\\' :: c :: rest => do
      let (text, behind) ← readText fuel rest
      return ('\\' :: c :: text, behind)
  | fuel + 1, c :: rest => do
      let (text, behind) ← readText fuel rest
      return (c :: text, behind)

/-- An expression between slashes, behind the first one, and the text behind it; between brackets a
slash is one. -/
def readRegex : Bool → List Char → Option (List Char × List Char)
  | _, [] | _, '\n' :: _ => none
  | inside, '\\' :: c :: rest => do
      let (text, behind) ← readRegex inside rest
      return ('\\' :: c :: text, behind)
  | inside, c :: rest =>
      if c = '/' ∧ !inside then some ([], rest)
      else do
        let inside := if inside then c != ']' else c == '['
        let (text, behind) ← readRegex inside rest
        return (c :: text, behind)

/-- What a text with escapes stands for. Escapes that mean nothing stay as they are. The text is
read as far as `fuel` steps. -/
def unescape : Nat → List Char → List Char
  | 0, _ | _, [] => []
  | fuel + 1, '\\' :: c :: rest =>
      let digit := octalValue? c
      let digits := (rest.take 2).takeWhile (isDigitIn 16)
      match digit with
      | some digit =>
          let (found, behind) := readOctal 2 digit rest
          found :: unescape fuel behind
      | none =>
          if c = 'x' ∧ !digits.isEmpty then
            Char.ofNat (valueIn 16 digits) :: unescape fuel (rest.drop digits.length)
          else if c = '\n' then unescape fuel rest
          else if c = '"' then '"' :: unescape fuel rest
          else if c = 'e' then '\\' :: 'e' :: unescape fuel rest
          else
            match escaped? c with
            | some found => found :: unescape fuel rest
            | none => '\\' :: c :: unescape fuel rest
  | fuel + 1, c :: rest => c :: unescape fuel rest

def plainText (text : String) : String :=
  String.ofList (unescape (text.length + 1) text.toList)

def readNumber? (text : List Char) : Option (Float × List Char) :=
  let isStart := match text with
    | '.' :: c :: _ => c.isDigit
    | c :: _ => c.isDigit
    | [] => false
  if !isStart then none
  else
    match text with
    | '0' :: c :: rest =>
        if c = 'x' ∨ c = 'X' then some (0, c :: rest) else Floating.readUnsigned? text
    | _ => Floating.readUnsigned? text

/-- Whether a number that was read is none that floating numbers hold. -/
def overflows (value : Float) (digits : List Char) : Bool :=
  value.isInf || ((digits.takeWhile fun c => c != 'e' && c != 'E').any fun c =>
    c.isDigit && c != '0') && value < Float.scaleB 1 (-1022)

def skipComment (text : List Char) : List Char :=
  text.dropWhile (· != '\n')

def isNameChar (c : Char) : Bool :=
  c.isAlphanum || c == '_'

def runaway (kind : String) (mark : Char) (line : Nat) (text : List Char) : Token :=
  let shown := String.ofList (text.take 10)
  ⟨.fault (s!"line {inBase 10 line}: runaway {kind} " ++ String.singleton mark ++ shown ++ " ..."),
    line, ""⟩

/-- The token at the front of a text that is neither empty nor begins with a blank, and the text
behind it; `divides` says whether a value stands in front of it. -/
def readOne (line : Nat) (divides : Bool) (text : List Char) : Token × List Char :=
  let shownUpTo (behind : List Char) : String :=
    String.ofList (text.take (text.length - behind.length))
  match text with
  | '\n' :: rest => (⟨.newline, line, "end of line"⟩, rest)
  | '"' :: rest =>
      match readText (rest.length + 1) rest with
      | some (inner, behind) =>
          let value := String.ofList (unescape (inner.length + 1) inner)
          (⟨.text value, line, value⟩, behind)
      | none => (runaway "string constant" '"' line rest, [])
  | c :: rest =>
      if c = '/' ∧ !divides then
        match readRegex false rest with
        | some (source, behind) =>
            (⟨.regex source, line, "/" ++ String.ofList source ++ "/"⟩, behind)
        | none => (runaway "regular expression" '/' line rest, [])
      else
        match readNumber? text with
        | some (value, behind) =>
            let shown := shownUpTo behind
            if overflows value shown.toList then
              (⟨.fault s!"line {inBase 10 line}: {shown} : decimal overflow", line, ""⟩, [])
            else (⟨.number value, line, shown⟩, behind)
        | none =>
            if isNameChar c then
              let name := String.ofList (text.takeWhile isNameChar)
              let behind := text.drop name.length
              let kind := if keywords.contains name then TokenKind.word name
                else if behind.head? = some '(' then .called name
                else .name name
              (⟨kind, line, name⟩, behind)
            else
              match signs.find? fun sign => sign.toList.isPrefixOf text with
              | some sign => (⟨.sign sign, line, sign⟩, text.drop sign.length)
              | none =>
                  let complaint := s!"{inBase 10 line}: unexpected character '" ++
                    String.singleton c ++ "'"
                  (⟨.fault complaint, line, ""⟩, [])
  | [] => (⟨.ending, line, "end of line"⟩, [])

/-- The tokens of a text from a line on; `divides` says whether a value stands in front of it. The
text is read as far as `fuel` steps. -/
def readAll : Nat → Nat → Bool → List Char → List Token
  | 0, line, _, _ => [⟨.ending, line, "end of line"⟩]
  | fuel + 1, line, divides, text =>
      match text with
      | [] => [⟨.newline, line, "end of line"⟩, ⟨.ending, line + 1, "end of file"⟩]
      | '\\' :: '\n' :: rest => readAll fuel (line + 1) divides rest
      | '\\' :: '\r' :: '\n' :: rest => readAll fuel (line + 1) divides rest
      | c :: rest =>
          if c = '#' then readAll fuel line divides (skipComment rest)
          else if c ≠ '\n' ∧ isSpace c then readAll fuel line divides rest
          else
            let (token, behind) := readOne line divides text
            let lines := (text.take (text.length - behind.length)).count '\n'
            match token.kind with
            | .fault _ => [token]
            | kind => token :: readAll fuel (line + lines) (endsValue kind) behind

end Token

def tokensOf (program : String) : List Token :=
  Token.readAll (program.length + 1) 1 false program.toList

end SqlColumns.Shell.Records
