import SqlColumns.Shell.Edit.Syntax
import SqlColumns.Shell.Format
import SqlColumns.Shell.Regex.Reader

/-!
# Reading scripts that edit lines

Commands stand on lines or between semicolons. Texts end with their line, and go on behind a
backslash at its end. Expressions and what is put in place of them stand between marks of any kind.
-/

set_option autoImplicit false

namespace SqlColumns.Shell.Edit

/-- Why a script cannot be read, and how many characters of it were read. -/
structure Fault where
  message : String
  place : Nat
  deriving DecidableEq, Repr

/-- What is left of a script, and how many characters were read. -/
structure Cursor where
  rest : List Char
  taken : Nat
  deriving DecidableEq, Repr

abbrev Reading := StateT Cursor (Except Fault)

namespace Reading

def fail {α : Type} (message : String) : Reading α := do
  throw ⟨message, (← get).taken⟩

def skip (count : Nat) : Reading Unit :=
  modify fun cursor => ⟨cursor.rest.drop count, cursor.taken + min count cursor.rest.length⟩

def next? : Reading (Option Char) := do
  let cursor ← get
  skip 1
  return cursor.rest.head?

def peek? : Reading (Option Char) := do
  return (← get).rest.head?

/-- Reads characters as long as they are of a kind. -/
def takeWhile (kind : Char → Bool) : Reading (List Char) := do
  let found := (← get).rest.takeWhile kind
  skip found.length
  return found

def isBlank (c : Char) : Bool :=
  isSpace c && c != '\n'

def skipBlanks : Reading Unit := do
  let _ ← takeWhile isBlank

def number? : Reading (Option Nat) := do
  let digits ← takeWhile Char.isDigit
  return if digits.isEmpty then none else some (digitsValue digits)

def endOfCommand : Reading Unit := do
  skipBlanks
  match ← peek? with
  | none | some '\x7d' | some '#' => return
  | some '\n' | some ';' => skip 1
  | some _ =>
      skip 1
      fail "extra characters after command"

end Reading

/-- How many characters a set behind its opening bracket has up to the closing one. -/
def setLength? (text : List Char) : Option Nat :=
  let front := if text.head? = some '^' then 1 else 0
  let front := if (text.drop front).head? = some ']' then front + 1 else front
  let rec go : Nat → Nat → List Char → Option Nat
    | 0, _, _ | _, _, [] => none
    | _, done, ']' :: _ => some (done + 1)
    | fuel + 1, done, '[' :: mark :: rest =>
        if [':', '.', '='].contains mark then
          let inner := rest.takeWhile (· != mark)
          if (rest.drop inner.length).take 2 = [mark, ']'] then
            go fuel (done + inner.length + 4) (rest.drop (inner.length + 2))
          else go fuel (done + 1) (mark :: rest)
        else go fuel (done + 1) (mark :: rest)
    | fuel + 1, done, _ :: rest => go fuel (done + 1) rest
  go (text.length + 1) front (text.drop front)

/-- The text up to a mark, and what stands behind that; in expressions a mark in a set ends nothing.
A backslash in front of the mark is left out. At most `fuel` characters are read. -/
def upToMark? (inRegex : Bool) (mark : Char) : Nat → List Char → List Char →
    Option (List Char × List Char)
  | 0, _, _ | _, _, [] => none
  | fuel + 1, done, c :: rest =>
      if c = mark then some (done.reverse, rest)
      else if c = '\n' then none
      else if c = '\\' then
        match rest with
        | [] => none
        | escaped :: rest =>
            if escaped = '\n' then upToMark? inRegex mark fuel ('\n' :: done) rest
            else if escaped = mark then
              if !inRegex && escaped = '&' then
                upToMark? inRegex mark fuel ('&' :: '\\' :: done) rest
              else upToMark? inRegex mark fuel (escaped :: done) rest
            else if inRegex && escaped = 'n' then upToMark? inRegex mark fuel ('\n' :: done) rest
            else upToMark? inRegex mark fuel (escaped :: '\\' :: done) rest
      else if inRegex && c = '[' then
        match setLength? rest with
        | none => none
        | some length =>
            upToMark? inRegex mark fuel ((rest.take length).reverse ++ c :: done)
              (rest.drop length)
      else upToMark? inRegex mark fuel (c :: done) rest

def marked (inRegex : Bool) (mark : Char) (unended : String) : Reading (List Char) := do
  let rest := (← get).rest
  match upToMark? inRegex mark (rest.length + 1) [] rest with
  | some (found, behind) =>
      Reading.skip (rest.length - behind.length)
      return found
  | none =>
      let _ ← Reading.takeWhile (· != '\n')
      Reading.fail unended

/-- The character that a number or a letter behind a backslash means, and what stands behind it. -/
def numbered? (text : List Char) : Option (Char × List Char) :=
  let digits (base least : Nat) (rest : List Char) : Option (Char × List Char) :=
    let found := (rest.take least).takeWhile (isDigitIn base)
    if found.isEmpty then none
    else some (Char.ofNat (valueIn base found % 256), rest.drop found.length)
  match text with
  | 'x' :: rest => digits 16 2 rest
  | 'o' :: rest => digits 8 3 rest
  | 'd' :: rest => digits 10 3 rest
  | 'c' :: c :: rest => some (Char.ofNat (c.toUpper.toNat ^^^ 64), rest)
  | _ => none

def withNumbers : Nat → List Char → List Char
  | 0, text => text
  | _, [] => []
  | fuel + 1, '\\' :: rest =>
      match numbered? rest with
      | some (c, behind) => c :: withNumbers fuel behind
      | none => '\\' :: rest.take 1 ++ withNumbers fuel (rest.drop 1)
  | fuel + 1, c :: rest => c :: withNumbers fuel rest

/-- The expression that a text is. An empty one stands for what was looked for last. -/
def finderOf (extended : Bool) (text flags : List Char) : Reading (Option Finder) :=
  if text.isEmpty then return none
  else
    match Regex.read ⟨extended, true, false, false⟩ (withNumbers (text.length + 1) text) with
    | .error fault => Reading.fail fault.message
    | .ok (regex, groups) =>
        let has (letters : List Char) : Bool := flags.any letters.contains
        return some ⟨regex, ⟨has ['I', 'i'], has ['M', 'm']⟩, groups⟩

/-- An expression between marks, with the letters behind it. -/
def readFinder (extended : Bool) (mark : Char) : Reading Place := do
  let text ← marked true mark "unterminated address regex"
  let flags ← Reading.takeWhile fun c => c == 'I' || c == 'M'
  return .finding (← finderOf extended text flags)

/-- The lines that a command is for, if any are told; `first` says whether none were told before. -/
def readStop (extended first : Bool) : Reading (Option Stop) := do
  let some c ← Reading.peek? | return none
  if c.isDigit then
    let number := (← Reading.number?).getD 0
    Reading.skipBlanks
    if (← Reading.peek?) = some '~' then
      Reading.skip 1
      return some (.place (.each number ((← Reading.number?).getD 0)))
    return some (.place (.line number))
  match c with
  | '/' =>
      Reading.skip 1
      return some (.place (← readFinder extended '/'))
  | '\\' =>
      Reading.skip 1
      let some mark ← Reading.next? | Reading.fail "unterminated address regex"
      return some (.place (← readFinder extended mark))
  | '$' =>
      Reading.skip 1
      return some (.place .last)
  | '+' | '~' =>
      Reading.skip 1
      let number := (← Reading.number?).getD 0
      if first then Reading.fail "invalid usage of +N or ~N as first address"
      return some (if c = '+' then .after number else .multiple number)
  | _ => return none

/-- The text of a command up to the end of a line that does not go on. -/
def textUpTo : Nat → List Char → List Char × List Char
  | 0, rest => ([], rest)
  | _, [] => ([], [])
  | _, '\n' :: rest => ([], rest)
  | _, ['\\'] => ([], [])
  | fuel + 1, '\\' :: rest =>
      let (c, behind) : Char × List Char :=
        match numbered? rest, rest with
        | some found, _ => found
        | none, c :: behind => ((Regex.letterFor? c).getD c, behind)
        | none, [] => ('\\', [])
      let (text, left) := textUpTo fuel behind
      (c :: text, left)
  | fuel + 1, c :: rest =>
      let (text, left) := textUpTo fuel rest
      (c :: text, left)

def readText : Reading String := do
  Reading.skipBlanks
  let some c ← Reading.peek? | Reading.fail "expected \\ after \x60a', \x60c' or \x60i'"
  if c = '\\' then
    Reading.skip 1
    let rest := (← get).rest
    let behind := rest.dropWhile Reading.isBlank
    if behind.head? = some '\n' then Reading.skip (rest.length - behind.length + 1)
    else if rest.isEmpty then return ""
  let rest := (← get).rest
  let (text, left) := textUpTo (rest.length + 1) rest
  Reading.skip (rest.length - left.length)
  return String.ofList text ++ "\n"

def readName : Reading String := do
  Reading.skipBlanks
  let name ← Reading.takeWhile (· != '\n')
  if name.isEmpty then Reading.fail "missing filename in r/R/w/W commands"
  return String.ofList name

def piecesOf : Nat → List Char → List Piece
  | 0, _ | _, [] => []
  | fuel + 1, '\\' :: rest =>
      match numbered? rest, rest with
      | some (c, behind), _ => .text [c] :: piecesOf fuel behind
      | none, [] => [.text ['\\']]
      | none, c :: behind =>
          let piece : Piece := match c with
            | 'U' => .turn (.all true)
            | 'L' => .turn (.all false)
            | 'u' => .turn (.next true)
            | 'l' => .turn (.next false)
            | 'E' => .turn .done
            | _ => if c.isDigit then .group (c.toNat - '0'.toNat)
              else .text [(Regex.letterFor? c).getD c]
          piece :: piecesOf fuel behind
  | fuel + 1, '&' :: rest => .group 0 :: piecesOf fuel rest
  | fuel + 1, c :: rest => .text [c] :: piecesOf fuel rest

/-- The letters behind a replacement that have been read. -/
structure Flags where
  number : Option Nat
  all : Bool
  prints : Bool
  runs : Bool
  letters : List Char
  file : Option String

def readFlags : Nat → Flags → Reading Flags
  | 0, flags => return flags
  | fuel + 1, flags => do
      Reading.skipBlanks
      let some c ← Reading.peek? | return flags
      if c = '\x7d' ∨ c = '#' then return flags
      if c.isDigit then
        let number := (← Reading.number?).getD 0
        if flags.number.isSome then
          Reading.fail "multiple number options to \x60s' command"
        if number = 0 then Reading.fail "number option to \x60s' command may not be zero"
        readFlags fuel { flags with number := some number }
      else
        Reading.skip 1
        match c with
        | '\n' | ';' => return flags
        | 'g' =>
            if flags.all then Reading.fail "multiple \x60g' options to \x60s' command"
            readFlags fuel { flags with all := true }
        | 'p' =>
            if flags.prints then Reading.fail "multiple \x60p' options to \x60s' command"
            readFlags fuel { flags with prints := true }
        | 'i' | 'I' | 'm' | 'M' => readFlags fuel { flags with letters := c :: flags.letters }
        | 'e' => readFlags fuel { flags with runs := true }
        | 'w' => return { flags with file := some (← readName) }
        | _ => Reading.fail "unknown option to \x60s'"

def readReplacing (extended : Bool) : Reading Action := do
  let unended := "unterminated \x60s' command"
  let some mark ← Reading.next? | Reading.fail unended
  let wanted ← marked true mark unended
  let text ← marked false mark unended
  let fuel := (← get).rest.length + 1
  let flags ← readFlags fuel ⟨none, false, false, false, [], none⟩
  let finder ← finderOf extended wanted flags.letters
  let pieces := piecesOf (text.length + 1) text
  let most := pieces.foldl (fun most piece =>
    match piece with
    | .group number => max most number
    | _ => most) 0
  if finder.any (·.groups < most) then
    Reading.fail s!"invalid reference \\{most} on \x60s' command's RHS"
  return .replace ⟨finder, pieces, flags.number.getD 1, flags.all, flags.prints, flags.runs,
    flags.file⟩

def translated : Nat → List Char → List Char
  | 0, _ | _, [] => []
  | fuel + 1, '\\' :: rest =>
      match numbered? rest, rest with
      | some (c, behind), _ => c :: translated fuel behind
      | none, '\\' :: behind => '\\' :: translated fuel behind
      | none, c :: behind =>
          match Regex.letterFor? c with
          | some found => found :: translated fuel behind
          | none => '\\' :: c :: translated fuel behind
      | none, [] => ['\\']
  | fuel + 1, c :: rest => c :: translated fuel rest

def readExchange : Reading Action := do
  let unended := "unterminated \x60y' command"
  let some mark ← Reading.next? | Reading.fail unended
  let wanted ← marked false mark unended
  let given ← marked false mark unended
  let wanted := translated (wanted.length + 1) wanted
  let given := translated (given.length + 1) given
  if wanted.length ≠ given.length then
    Reading.fail "strings for \x60y' command are different lengths"
  Reading.endOfCommand
  return .translate (wanted.zip given)

def readAction (extended : Bool) (c : Char) : Reading Action := do
  let plain (action : Action) : Reading Action := do
    Reading.endOfCommand
    return action
  let withNumber (make : Option Nat → Action) : Reading Action := do
    Reading.skipBlanks
    let number ← Reading.number?
    Reading.endOfCommand
    return make number
  let jump (when : Jump) : Reading Action := do
    Reading.skipBlanks
    let label ← Reading.takeWhile fun c => !isSpace c && c != ';' && c != '\x7d'
    Reading.endOfCommand
    return .jump when (String.ofList label)
  match c with
  | '=' => plain .number
  | 'a' => return .append (← readText)
  | 'i' => return .insert (← readText)
  | 'c' => return .change (← readText)
  | 'b' => jump .always
  | 't' => jump .replaced
  | 'T' => jump .unreplaced
  | 'd' => plain .delete
  | 'D' => plain .deleteLine
  | 'e' =>
      Reading.skipBlanks
      return .run (String.ofList (← Reading.takeWhile (· != '\n')))
  | 'F' => plain .fileName
  | 'g' => plain .get
  | 'G' => plain .getMore
  | 'h' => plain .hold
  | 'H' => plain .holdMore
  | 'x' => plain .exchange
  | 'l' => withNumber .list
  | 'n' => plain .next
  | 'N' => plain .nextMore
  | 'p' => plain .print
  | 'P' => plain .printLine
  | 'q' => withNumber fun number => .quit true (number.getD 0)
  | 'Q' => withNumber fun number => .quit false (number.getD 0)
  | 'r' => return .readFile (← readName)
  | 'R' => return .readLine (← readName)
  | 's' => readReplacing extended
  | 'v' =>
      let _ ← Reading.takeWhile fun c => c != '\n' && c != ';'
      plain .nothing
  | 'w' => return .write (← readName)
  | 'W' => return .writeLine (← readName)
  | 'y' => readExchange
  | 'z' => plain .clear
  | _ => Reading.fail ("unknown command: \x60" ++ String.singleton c ++ "'")

/-- Reads the lines that the next command is for, and the first character of it. -/
def readLines (extended : Bool) : Reading (Option Place × Option Stop × Bool × Char) := do
  let first : Option Place ← do
    match ← readStop extended true with
    | some (.place place) => pure (some place)
    | _ => pure none
  Reading.skipBlanks
  let stop : Option Stop ← do
    if first.isSome ∧ (← Reading.peek?) = some ',' then
      Reading.skip 1
      Reading.skipBlanks
      match ← readStop extended false with
      | some stop => pure (some stop)
      | none =>
          Reading.skip 1
          Reading.fail "unexpected \x60,'"
    else pure none
  Reading.skipBlanks
  let some c ← Reading.next? | Reading.fail "missing command"
  if first = some (.line 0) then
    match stop with
    | some (.place (.finding _)) => pure ()
    | _ => Reading.fail "invalid usage of line address 0"
  if c ≠ '!' then return (first, stop, false, c)
  Reading.skipBlanks
  let some c ← Reading.next? | Reading.fail "missing command"
  if c = '!' then Reading.fail "multiple \x60!'s"
  return (first, stop, true, c)

/-- Reads commands up to the end of a script, or of the braces that they stand in if they are
`inside` of some; at most `fuel` of them. -/
def readCommands (extended : Bool) : Nat → Bool → Reading (List Command)
  | 0, _ => return []
  | fuel + 1, inside => do
      let _ ← Reading.takeWhile fun c => isSpace c || c == ';'
      if (← Reading.peek?).isNone then
        if inside then throw ⟨"unmatched \x60\x7b'", 0⟩ else return []
      let (first, stop, opposite, c) ← readLines extended
      let command (action : Action) : Command := ⟨first, stop, opposite, action⟩
      match c with
      | '#' =>
          if first.isSome then Reading.fail "comments don't accept any addresses"
          let _ ← Reading.takeWhile (· != '\n')
          readCommands extended fuel inside
      | '\x7b' =>
          let body ← readCommands extended fuel true
          let behind ← readCommands extended fuel inside
          return command (.opening body.length) :: body ++ behind
      | '\x7d' =>
          if !inside then Reading.fail "unexpected \x60\x7d'"
          if first.isSome then Reading.fail "\x60\x7d' doesn't want any addresses"
          Reading.endOfCommand
          return [command .closing]
      | ':' =>
          if first.isSome then Reading.fail ": doesn't want any addresses"
          Reading.skipBlanks
          let label ← Reading.takeWhile fun c => !isSpace c && c != ';'
          if label.isEmpty then Reading.fail "\":\" lacks a label"
          return command (.label (String.ofList label)) :: (← readCommands extended fuel inside)
      | _ =>
          if (c = 'q' ∨ c = 'Q') ∧ stop.isSome then Reading.fail "command only uses one address"
          let action ← readAction extended c
          return command action :: (← readCommands extended fuel inside)

def commandsOf (extended : Bool) (script : String) : Except Fault (List Command) := do
  let text := script.toList
  let (commands, _) ← (readCommands extended (text.length + 1) false).run ⟨text, 0⟩
  return commands

/-- The label that a jump of some commands goes to without there being one. -/
def missingLabel? (commands : List Command) : Option String :=
  let labels := commands.filterMap fun command =>
    match command.action with
    | .label name => some name
    | _ => none
  commands.findSome? fun command =>
    match command.action with
    | .jump _ label => if label.isEmpty || labels.contains label then none else some label
    | _ => none

end SqlColumns.Shell.Edit
