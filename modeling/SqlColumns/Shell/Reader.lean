import SqlColumns.Shell.Syntax

/-!
# Reading scripts

A script is read character by character: tokens make commands, and commands make bigger ones. What a
word holds between quotes, braces and brackets is read on the way, commands inside of it included,
and the text of a document is taken from the lines behind the one that asks for it. Scripts are read
line by line, so that what stands before a faulty line still has a meaning.
-/

set_option autoImplicit false

namespace SqlColumns.Shell.Syntax

/-- What stands at a place of a script: a word, a mark between commands, a redirection of what its
number stands for, one to a document of which tabs in front of lines may not count, or the end. -/
inductive Token where
  | word (pieces : List Piece)
  | mark (text : String)
  | move (number : Nat) (kind : MoveKind)
  | document (number : Nat) (tabs : Bool)
  | ending

/-- A place in a script: the text behind it, its line, how many lines of documents were taken out in
front of rests of certain lengths, and a token that has been looked at. -/
structure Cursor where
  rest : List Char
  line : Nat
  skipped : List (Nat × Nat)
  ahead : Option Token

abbrev Reading := StateT Cursor (Except Refusal)

def Cursor.start (script : List Char) (line : Nat) : Cursor :=
  ⟨script, line, [], none⟩

/-- How many lines were taken out in front of a rest of a certain length. -/
def Cursor.linesOut (cursor : Cursor) (length : Nat) : Nat :=
  ((cursor.skipped.find? fun one => one.1 == length).map (·.2)).getD 0

def Cursor.step (cursor : Cursor) : Cursor :=
  match cursor.rest with
  | [] => cursor
  | '\n' :: rest =>
      let more := if cursor.skipped.isEmpty then 0 else cursor.linesOut rest.length
      { cursor with rest, line := cursor.line + 1 + more }
  | _ :: rest => { cursor with rest }

def skip (count : Nat) : Reading Unit :=
  modify (Nat.repeat Cursor.step count)

def refuse {α : Type} (cause : Fault) : Reading α := do
  throw ⟨(← get).line, cause⟩

def refuseAtEnd {α : Type} (cause : Fault) : Reading α := do
  skip (← get).rest.length
  refuse cause

/-- What a word with pieces is read inside of: nothing, the place of the mark that ends a document,
double quotes, braces without or with double quotes around them, a document, or a sum. -/
inductive Mode where
  | word
  | delimiter
  | quotes
  | brace
  | quotedBrace
  | document
  | sum (depth : Nat)
  deriving DecidableEq, Repr

namespace Mode

def isPlain (mode : Mode) : Bool :=
  mode = .word || mode = .delimiter || mode = .brace

def keepsBackslash (mode : Mode) (c : Char) : Bool :=
  !mode.isPlain && !("$\\\x60".toList.contains c) && !(c == '"' && mode != .document) &&
    !(c == '\x7d' && mode == .quotedBrace)

def isEndedBy (mode : Mode) (c : Char) : Bool :=
  (mode = .word || mode = .delimiter) && " \t\n;&|<>()".toList.contains c

end Mode

def inQuotes (pieces : List Piece) : List Piece :=
  if pieces.isEmpty then [.nothing] else pieces

/-- The name of a parameter between braces, whether its length is meant, and the text behind it. -/
def bracedName? (text : List Char) : Option (Bool × String × List Char) :=
  let run (isLength : Bool) (member : Char → Bool) (text : List Char) :
      Option (Bool × String × List Char) :=
    let name := text.takeWhile member
    some (isLength, String.ofList name, text.drop name.length)
  match text with
  | '#' :: c :: rest =>
      if isNameChar c then run true (if c.isDigit then Char.isDigit else isNameChar) (c :: rest)
      else if isSign c ∧ rest.head? = some '\x7d' then some (true, String.singleton c, rest)
      else some (false, "#", c :: rest)
  | c :: rest =>
      if c.isDigit then run false Char.isDigit text
      else if isNameChar c then run false isNameChar text
      else if isSign c then some (false, String.singleton c, rest)
      else none
  | [] => none

/-- What the sign before a text in place of a parameter says. -/
def fallback? (c : Char) : Option Fallback :=
  match c with
  | '-' => some .unset
  | '=' => some .assigned
  | '+' => some .whenSet
  | '?' => some .refused
  | _ => none

/-- What is made of a parameter, but for the text that it is made with. -/
inductive Shape where
  | fallback (kind : Fallback) (evenEmpty : Bool)
  | trim (atEnd longest : Bool)
  | senseless
  deriving DecidableEq, Repr

/-- What signs behind a name say is made of a parameter, and how many there are. -/
def shapeOf (text : List Char) : Shape × Nat :=
  match text with
  | ':' :: '\x7d' :: _ => (.senseless, 2)
  | ':' :: c :: _ =>
      match fallback? c with
      | some kind => (.fallback kind true, 2)
      | none => (.senseless, 0)
  | '%' :: '%' :: _ => (.trim true true, 2)
  | '%' :: _ => (.trim true false, 1)
  | '#' :: '#' :: _ => (.trim false true, 2)
  | '#' :: _ => (.trim false false, 1)
  | c :: _ =>
      match fallback? c with
      | some kind => (.fallback kind false, 1)
      | none => (.senseless, 0)
  | [] => (.senseless, 0)

def Shape.use (shape : Shape) (text : List Piece) : Use :=
  match shape with
  | .fallback kind evenEmpty => .fallback kind evenEmpty text
  | .trim atEnd longest => .trim atEnd longest text
  | .senseless => .senseless

/-- The text between back quotes behind the opening one, without the backslashes that only keep what
they are in front of, and how long it was with the closing one. -/
def untilBackQuote (quoted : Bool) : List Char → Option (List Char × Nat)
  | [] => none
  | '\x60' :: _ => some ([], 1)
  | '\\' :: c :: rest =>
      let kept := c = '\\' ∨ c = '$' ∨ c = '\x60' ∨ (c = '"' ∧ quoted)
      (untilBackQuote quoted rest).map fun (inside, length) =>
        (if kept then c :: inside else '\\' :: c :: inside, length + 2)
  | c :: rest => (untilBackQuote quoted rest).map fun (inside, length) => (c :: inside, length + 1)

/-- The lines of a text up to one that is a mark, the text behind that one, and how many lines there
are with it. At most `fuel` lines are looked at. -/
def documentLines (mark : List Char) (tabs : Bool) :
    Nat → List Char → List Char × List Char × Nat
  | 0, text => ([], text, 0)
  | _, [] => ([], [], 0)
  | fuel + 1, text =>
      let line := text.takeWhile (· != '\n')
      let ended := line.length < text.length
      let behind := text.drop (line.length + 1)
      let line := if tabs then line.dropWhile (· == '\t') else line
      if line = mark then ([], behind, 1)
      else
        let (lines, behind, count) := documentLines mark tabs fuel behind
        (line ++ (if ended then ['\n'] else []) ++ lines, behind, count + 1)

def takeDocument (mark : List Char) (tabs : Bool) : Reading (List Char) := do
  let cursor ← get
  let front := cursor.rest.takeWhile (· != '\n')
  let behind := cursor.rest.drop (front.length + 1)
  let (text, rest, count) := documentLines mark tabs (behind.length + 1) behind
  let before := cursor.linesOut behind.length
  let others := cursor.skipped.filter fun one => one.1 != behind.length
  set { cursor with
    rest := if front.length < cursor.rest.length then front ++ '\n' :: rest else front
    skipped := (rest.length, before + count) :: others }
  return text

/-- The redirection at the start of a text, if there is one, of what `number` stands for or of what
it usually is of, and how long it is. -/
def redirection? (number : Option Nat) (text : List Char) : Option (Token × Nat) :=
  let output := number.getD 1
  let input := number.getD 0
  match text with
  | '>' :: '>' :: _ => some (.move output .append, 2)
  | '>' :: '&' :: _ => some (.move output .copy, 2)
  | '>' :: '|' :: _ => some (.move output .write, 2)
  | '>' :: _ => some (.move output .write, 1)
  | '<' :: '<' :: '-' :: _ => some (.document input true, 3)
  | '<' :: '<' :: _ => some (.document input false, 2)
  | '<' :: '&' :: _ => some (.move input .copy, 2)
  | '<' :: '>' :: _ => some (.move input .readWrite, 2)
  | '<' :: _ => some (.move input .read, 1)
  | _ => none

/-- The redirection at the start of a text, its number included, and how long it is. -/
def numbered? : List Char → Option (Token × Nat)
  | c :: rest =>
      if c.isDigit then
        (redirection? (some (c.toNat - '0'.toNat)) rest).map fun (token, length) =>
          (token, length + 1)
      else redirection? none (c :: rest)
  | [] => none

def mark? : List Char → Option String
  | '&' :: '&' :: _ => some "&&"
  | '|' :: '|' :: _ => some "||"
  | ';' :: ';' :: _ => some ";;"
  | c :: _ => if "&|;()\n".toList.contains c then some (String.singleton c) else none
  | [] => none

/-- Words that mean something of their own where a command may stand. -/
def keywords : List String :=
  ["!", "case", "do", "done", "elif", "else", "esac", "fi", "for", "if", "in", "then", "until",
    "while", "\x7b", "\x7d"]

def closings : List String :=
  ["do", "done", "elif", "else", "esac", "fi", "then", "\x7d"]

namespace Token

def keyword? : Token → Option String
  | .word pieces => (plainText? pieces).filter keywords.contains
  | _ => none

def isMark (text : String) : Token → Bool
  | .mark found => found == text
  | _ => false

def isEnding : Token → Bool
  | .ending => true
  | _ => false

def endsRow (token : Token) : Bool :=
  token.isMark ")" || token.isMark ";;" || token.keyword?.any closings.contains

def called (token : Token) : String :=
  match token with
  | .mark "\n" => "newline"
  | .mark text => "\"" ++ text ++ "\""
  | .move _ _ | .document _ _ => "redirection"
  | .word _ =>
      match token.keyword? with
      | some found => "\"" ++ found ++ "\""
      | none => "word"
  | .ending => "end of file"

end Token

/-- The script has a token where another one, or at least not this one, is expected. -/
def unexpected {α : Type} (token : Token) (expected : Option String) : Reading α :=
  refuse (.unexpected token.called expected)

def putBack (token : Token) : Reading Unit :=
  modify fun cursor => { cursor with ahead := some token }

def specialNames : List String :=
  [".", ":", "break", "continue", "eval", "exec", "exit", "export", "local", "readonly", "return",
    "set", "shift", "times", "trap", "unset"]

def inRow (before : Option Tree) (tree : Tree) : Tree :=
  match before with
  | some first => .row .always first tree
  | none => tree

def apartBy (token : Token) (tree : Tree) : Tree :=
  if token.isMark "&" then .background tree else tree

mutual

/-- The pieces of a word up to where it ends, or up to behind what closes it. -/
def pieces : Nat → Mode → Reading (List Piece)
  | 0, _ => return []
  | fuel + 1, mode => do
      let plain (c : Char) : Reading (List Piece) := do
        skip 1
        return .char (!mode.isPlain) c :: (← pieces fuel mode)
      match (← get).rest with
      | [] =>
          match mode with
          | .quotes | .quotedBrace => refuse .openQuote
          | .brace => refuse .openBrace
          | .sum _ => refuse .openSum
          | _ => return []
      | ['\\'] =>
          skip 1
          return .char true '\\' :: (← pieces fuel mode)
      | '\\' :: c :: _ =>
          skip 2
          let rest ← pieces fuel mode
          if c = '\n' then return rest
          else if mode.keepsBackslash c then return .char true '\\' :: .char true c :: rest
          else return .char true c :: rest
      | '\'' :: behind =>
          if mode.isPlain then
            let inside := behind.takeWhile (· != '\'')
            if inside.length = behind.length then refuseAtEnd .openQuote
            skip (inside.length + 2)
            return inQuotes (inside.map (.char true)) ++ (← pieces fuel mode)
          else plain '\''
      | '"' :: _ =>
          if mode.isPlain then
            skip 1
            let inside ← pieces fuel .quotes
            return inQuotes inside ++ (← pieces fuel mode)
          else if mode = .quotes then
            skip 1
            return []
          else if mode = .quotedBrace then
            skip 1
            let inside ← pieces fuel .quotes
            return inside ++ (← pieces fuel mode)
          else plain '"'
      | '$' :: _ =>
          if mode = .delimiter then plain '$'
          else
            skip 1
            let piece ← dollar fuel (!mode.isPlain)
            return piece :: (← pieces fuel mode)
      | '\x60' :: _ =>
          if mode = .delimiter then plain '\x60'
          else
            skip 1
            let piece ← backQuoted fuel (!mode.isPlain)
            return piece :: (← pieces fuel mode)
      | c :: behind =>
          match mode with
          | .brace | .quotedBrace =>
              if c = '\x7d' then
                skip 1
                return []
              else plain c
          | .sum depth =>
              if c = '(' then
                skip 1
                return .char true c :: (← pieces fuel (.sum (depth + 1)))
              else if c = ')' ∧ 0 < depth then
                skip 1
                return .char true c :: (← pieces fuel (.sum (depth - 1)))
              else if c = ')' ∧ behind.head? = some ')' then
                skip 2
                return []
              else plain c
          | _ => if mode.isEndedBy c then return [] else plain c

def dollar : Nat → Bool → Reading Piece
  | 0, quoted => return .char quoted '$'
  | fuel + 1, quoted => do
      match (← get).rest with
      | '(' :: '(' :: _ =>
          skip 2
          return .sum quoted (← pieces fuel (.sum 0))
      | '(' :: _ =>
          skip 1
          let body ← row fuel true none
          let token ← next fuel
          if !token.isMark ")" then unexpected token (some "\")\"")
          return .command quoted body
      | '\x7b' :: _ =>
          skip 1
          braced fuel quoted
      | c :: rest =>
          if c.isDigit || isSign c then
            skip 1
            return .parameter quoted (String.singleton c) .value
          else
            let name := (c :: rest).takeWhile isNameChar
            skip name.length
            if name.isEmpty then return .char quoted '$'
            else return .parameter quoted (String.ofList name) .value
      | [] => return .char quoted '$'

/-- What is made of a parameter between braces behind the opening one. -/
def braced : Nat → Bool → Reading Piece
  | 0, quoted => return .char quoted '$'
  | fuel + 1, quoted => do
      let mode : Mode := if quoted then .quotedBrace else .brace
      let text := (← get).rest
      match bracedName? text with
      | none =>
          let _ ← pieces fuel mode
          return .parameter quoted "" .senseless
      | some (isLength, name, behind) =>
          skip (text.length - behind.length)
          if behind.head? = some '\x7d' then
            skip 1
            return .parameter quoted name (if isLength then .length else .value)
          else
            let (shape, length) := if isLength then (.senseless, 0) else shapeOf behind
            skip length
            let inside ←
              match shape with
              | .trim _ _ => pieces fuel .brace
              | _ => pieces fuel mode
            return .parameter quoted name (shape.use inside)

def backQuoted : Nat → Bool → Reading Piece
  | 0, quoted => return .char quoted '\x60'
  | fuel + 1, quoted => do
      let cursor ← get
      match untilBackQuote quoted cursor.rest with
      | none => refuseAtEnd .openBackQuote
      | some (inside, length) =>
          skip length
          let (body, _) ← (row fuel true none).run (.start inside cursor.line)
          return .command quoted body

def readToken : Nat → Mode → Reading Token
  | 0, _ => return .ending
  | fuel + 1, mode => do
      match (← get).rest with
      | [] => return .ending
      | c :: rest =>
          if c = ' ' ∨ c = '\t' then
            skip 1
            readToken fuel mode
          else if c = '\\' ∧ rest.head? = some '\n' then
            skip 2
            readToken fuel mode
          else if c = '#' then
            skip (1 + (rest.takeWhile (· != '\n')).length)
            readToken fuel mode
          else
            match numbered? (c :: rest), mark? (c :: rest) with
            | some (token, length), _ =>
                skip length
                return token
            | none, some text =>
                skip text.length
                return .mark text
            | none, none => return .word (← pieces fuel mode)

def next : Nat → Reading Token
  | 0 => return .ending
  | fuel + 1 => do
      let cursor ← get
      match cursor.ahead with
      | some token =>
          set { cursor with ahead := none }
          return token
      | none => readToken fuel .word

/-- The next token behind line ends, which stays the next one. -/
def peek : Nat → Reading Token
  | 0 => return .ending
  | fuel + 1 => do
      let token ← next fuel
      if token.isMark "\n" then peek fuel
      else
        putBack token
        return token

def expect : Nat → String → Reading Unit
  | 0, _ => return
  | fuel + 1, word => do
      let token ← next fuel
      if token.keyword? != some word then unexpected token (some ("\"" ++ word ++ "\""))

/-- A row of commands behind others, up to what ends it. Where there may be none, the end of the row
may come at once. -/
def row : Nat → Bool → Option Tree → Reading Tree
  | 0, _, before => return before.getD .skip
  | fuel + 1, mayBeEmpty, before => do
      let token ← peek fuel
      if token.isEnding || ((mayBeEmpty || before.isSome) && token.endsRow) then
        return before.getD .skip
      let tree ← joined fuel
      let token ← next fuel
      let before := inRow before (apartBy token tree)
      if ["&", ";", "\n"].any token.isMark then row fuel mayBeEmpty (some before)
      else
        putBack token
        return before

/-- Commands behind others up to the end of the line; nothing when there are none. -/
def line : Nat → Option Tree → Reading (Option Tree)
  | 0, before => return before
  | fuel + 1, before => do
      let token ← next fuel
      if token.isMark "\n" then return before
      putBack token
      if token.isEnding then return before
      let tree ← joined fuel
      let token ← next fuel
      let before := inRow before (apartBy token tree)
      if token.isMark "&" || token.isMark ";" then line fuel (some before)
      else if token.isMark "\n" then return before
      else if token.isEnding then
        putBack token
        return before
      else unexpected token none

def joined : Nat → Reading Tree
  | 0 => return .skip
  | fuel + 1 => do
      joinedTo fuel (← piped fuel)

def joinedTo : Nat → Tree → Reading Tree
  | 0, first => return first
  | fuel + 1, first => do
      let token ← next fuel
      if token.isMark "&&" then
        let _ ← peek fuel
        joinedTo fuel (.row .onSuccess first (← piped fuel))
      else if token.isMark "||" then
        let _ ← peek fuel
        joinedTo fuel (.row .onFailure first (← piped fuel))
      else
        putBack token
        return first

def piped : Nat → Reading Tree
  | 0 => return .skip
  | fuel + 1 => do
      let token ← next fuel
      if token.keyword? = some "!" then return .opposite (← pipes fuel)
      else
        putBack token
        pipes fuel

def pipes : Nat → Reading Tree
  | 0 => return .skip
  | fuel + 1 => do
      let first ← command fuel
      let token ← next fuel
      if token.isMark "|" then
        let _ ← peek fuel
        return .pipe first (← pipes fuel)
      else
        putBack token
        return first

def command : Nat → Reading Tree
  | 0 => return .skip
  | fuel + 1 => do
      let token ← next fuel
      let line := (← get).line
      if token.isMark "(" then
        let body ← row fuel false none
        let token ← next fuel
        if !token.isMark ")" then unexpected token (some "\")\"")
        return .alone line body (← moves fuel)
      let whole (tree : Tree) : Reading Tree := do
        let found ← moves fuel
        return if found.isEmpty then tree else .moved line tree found
      match token.keyword? with
      | some "\x7b" =>
          let body ← row fuel false none
          expect fuel "\x7d"
          whole body
      | some "if" => whole (← choice fuel)
      | some "while" => whole (← loop fuel true)
      | some "until" => whole (← loop fuel false)
      | some "for" =>
          let token ← next fuel
          let name ←
            match token with
            | .word found =>
                match plainText? found with
                | some name => if isName name.toList then pure name else refuse .loopName
                | none => refuse .loopName
            | _ => refuse .loopName
          let token ← peek fuel
          let _ ← next fuel
          let words ←
            if token.keyword? = some "in" then
              let words ← wordsAhead fuel
              let token ← next fuel
              if !token.isMark "\n" && !token.isMark ";" then unexpected token none
              pure words
            else
              if !token.isMark ";" then putBack token
              pure [[.parameter true "@" .value]]
          let _ ← peek fuel
          expect fuel "do"
          let body ← row fuel false none
          expect fuel "done"
          whole (.each line name words body)
      | some "case" =>
          let token ← next fuel
          match token with
          | .word subject =>
              let _ ← peek fuel
              expect fuel "in"
              whole (.select line subject (← branches fuel))
          | _ => unexpected token (some "word")
      | some _ => unexpected token none
      | none =>
          match token with
          | .mark _ | .ending => unexpected token none
          | _ =>
              putBack token
              simple fuel line [] [] []

def choice : Nat → Reading Tree
  | 0 => return .skip
  | fuel + 1 => do
      let condition ← row fuel false none
      expect fuel "then"
      let body ← row fuel false none
      let token ← next fuel
      match token.keyword? with
      | some "elif" => return .choice condition body (← choice fuel)
      | some "else" =>
          let other ← row fuel false none
          expect fuel "fi"
          return .choice condition body other
      | some "fi" => return .choice condition body .skip
      | _ => unexpected token (some "\"fi\"")

def loop : Nat → Bool → Reading Tree
  | 0, _ => return .skip
  | fuel + 1, holds => do
      let condition ← row fuel false none
      expect fuel "do"
      let body ← row fuel false none
      expect fuel "done"
      return .loop holds condition body

def wordsAhead : Nat → Reading (List (List Piece))
  | 0 => return []
  | fuel + 1 => do
      match ← next fuel with
      | .word found => return found :: (← wordsAhead fuel)
      | token =>
          putBack token
          return []

def branches : Nat → Reading (List (List (List Piece) × Tree))
  | 0 => return []
  | fuel + 1 => do
      let token ← peek fuel
      let _ ← next fuel
      if token.keyword? = some "esac" then return []
      if !token.isMark "(" then putBack token
      let patterns ← patternsAhead fuel
      let body ← row fuel true none
      let token ← peek fuel
      let _ ← next fuel
      if token.keyword? = some "esac" then return [(patterns, body)]
      if !token.isMark ";;" then unexpected token (some "\";;\"")
      return (patterns, body) :: (← branches fuel)

def patternsAhead : Nat → Reading (List (List Piece))
  | 0 => return []
  | fuel + 1 => do
      let token ← next fuel
      match token with
      | .word found =>
          let token ← next fuel
          if token.isMark "|" then return found :: (← patternsAhead fuel)
          else if token.isMark ")" then return [found]
          else unexpected token (some "\")\"")
      | _ => unexpected token (some "\")\"")

def moves : Nat → Reading (List Move)
  | 0 => return []
  | fuel + 1 => do
      let token ← next fuel
      match token with
      | .move _ _ | .document _ _ => return (← move fuel token) :: (← moves fuel)
      | _ =>
          putBack token
          return []

def move : Nat → Token → Reading Move
  | 0, _ => return .document 0 []
  | fuel + 1, token => do
      match token with
      | .document number tabs =>
          match ← readToken fuel .delimiter with
          | .word found =>
              let (mark, quoted) := literal found
              let body ← takeDocument mark.toList tabs
              if quoted then return .document number (body.map (.char true))
              else
                let (inside, _) ← (pieces fuel .document).run (.start body (← get).line)
                return .document number inside
          | other => unexpected other none
      | .move number kind =>
          match ← next fuel with
          | .word target => return .file number kind target
          | other => unexpected other none
      | other => unexpected other none

/-- A simple command, or the definition of a function, behind parts of it. -/
def simple : Nat → Nat → List (String × List Piece) → List (List Piece) → List Move → Reading Tree
  | 0, line, assigned, words, found => return .simple line assigned words found
  | fuel + 1, line, assigned, words, found => do
      let token ← next fuel
      let done : Reading Tree := do
        putBack token
        return .simple line assigned words found
      match token with
      | .word pieces =>
          match words, assignment? pieces with
          | [], some one => simple fuel line (assigned ++ [one]) words found
          | _, _ => simple fuel line assigned (words ++ [pieces]) found
      | .move _ _ | .document _ _ =>
          let one ← move fuel token
          simple fuel line assigned words (found ++ [one])
      | .mark "(" =>
          match words, assigned, found with
          | [name], [], [] =>
              let token ← next fuel
              if !token.isMark ")" then unexpected token (some "\")\"")
              let called := (plainText? name).getD ""
              if !isName called.toList || specialNames.contains called then refuse .functionName
              let _ ← peek fuel
              return .define called (← command fuel)
          | _, _, _ => done
      | _ => done

end

/-- The lines behind a place up to the first one that cannot be read, and why that one cannot. At
most `fuel` lines are read. -/
def linesFrom (depth : Nat) : Nat → Cursor → List Tree × Option Refusal
  | 0, _ => ([], none)
  | fuel + 1, cursor =>
      match (line depth none).run cursor with
      | .error refusal => ([], some refusal)
      | .ok (tree, behind) =>
          if behind.ahead.any Token.isEnding then (tree.toList, none)
          else
            let (trees, refusal) := linesFrom depth fuel behind
            (tree.toList ++ trees, refusal)

/-- The lines of a script up to the first one that cannot be read, and why that one cannot. -/
def ofScript (script : String) : List Tree × Option Refusal :=
  linesFrom (16 * script.length + 64) (script.length + 1) (.start script.toList 1)

end SqlColumns.Shell.Syntax
