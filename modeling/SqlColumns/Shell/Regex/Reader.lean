import SqlColumns.Shell.Numeral
import SqlColumns.Shell.Regex.Basic

/-!
# Reading regular expressions

The two ways in which expressions are written differ in which signs need a backslash to mean
something: in the extended one brackets, braces, bars, plus signs and question marks mean something
without one.
-/

set_option autoImplicit false

namespace SqlColumns.Shell.Regex

/-- Why a text is no expression. -/
inductive Fault where
  | openBracket
  | openGroup
  | closedGroup
  | openBrace
  | content
  | backReference
  | trailing
  | className
  | range
  | incomplete
  | tooBig
  deriving DecidableEq, Repr

def Fault.message : Fault → String
  | .openBracket => "Unmatched [, [^, [:, [., or [="
  | .openGroup => "Unmatched ( or \\("
  | .closedGroup => "Unmatched ) or \\)"
  | .openBrace => "Unmatched \\\x7b"
  | .content => "Invalid content of \\\x7b\\\x7d"
  | .backReference => "Invalid back reference"
  | .trailing => "Trailing backslash"
  | .className => "Invalid character class name"
  | .range => "Invalid range end"
  | .incomplete => "Invalid regular expression"
  | .tooBig => "Regular expression too big"

/-- How expressions are written: whether in the extended way, whether letters behind backslashes may
stand for characters, outside of brackets or also between them, and whether a bracket that closes
no group stands for itself. -/
structure Style where
  extended : Bool
  letters : Bool
  inBrackets : Bool
  loose : Bool
  deriving DecidableEq, Repr

/-- A sign of an expression. -/
inductive Sign where
  | opening
  | closing
  | bar
  | times (least : Nat) (most : Option Nat)
  | part (regex : Regex)
  deriving DecidableEq, Repr

def charPart (c : Char) : Sign :=
  .part (.among false [.range c c])

/-- The expression of the characters of words, or of blanks, or of all others. -/
def classPart (opposite : Bool) (c : Char) : Sign :=
  if c = 'w' then .part (.among opposite [.named "alnum", .range '_' '_'])
  else .part (.among opposite [.named "space"])

def letterFor? (c : Char) : Option Char :=
  match c with
  | 'n' => some '\n'
  | 't' => some '\t'
  | 'r' => some '\r'
  | 'f' => some '\x0c'
  | 'v' => some '\x0b'
  | 'a' => some '\x07'
  | _ => none

/-- A character between brackets, and the text behind it. -/
def readMember (style : Style) (text : List Char) : Option (Char × List Char) :=
  match text with
  | '\\' :: c :: rest =>
      match letterFor? c with
      | some found =>
          if style.letters then some (found, rest)
          else if style.inBrackets then some (c, rest)
          else some ('\\', c :: rest)
      | none => if style.inBrackets then some (c, rest) else some ('\\', c :: rest)
  | '[' :: '.' :: c :: '.' :: ']' :: rest => some (c, rest)
  | '[' :: '=' :: c :: '=' :: ']' :: rest => some (c, rest)
  | c :: rest => some (c, rest)
  | [] => none

/-- The members of a set up to its closing bracket, and the text behind that. The text is read as
far as `fuel` members. -/
def readMembers (style : Style) : Nat → Bool → List Char → Except Fault (List Member × List Char)
  | 0, _, _ | _, _, [] => .error .openBracket
  | fuel + 1, first, text => do
      if text.head? = some ']' ∧ !first then return ([], text.drop 1)
      match readClass? text with
      | some (name, behind) =>
          if (classNamed? name).isNone then throw .className
          let (members, behind) ← readMembers style fuel false behind
          return (.named name :: members, behind)
      | none =>
          if text.take 2 = ['[', ':'] then throw .openBracket
          let some (low, behind) := readMember style text | throw .openBracket
          match behind with
          | '-' :: next :: more =>
              if next = ']' then
                let (members, behind) ← readMembers style fuel false behind
                return (.range low low :: members, behind)
              else
                let some (high, behind) := readMember style (next :: more) | throw .openBracket
                if high < low then throw .range
                let (members, behind) ← readMembers style fuel false behind
                return (.range low high :: members, behind)
          | _ =>
              let (members, behind) ← readMembers style fuel false behind
              return (.range low low :: members, behind)

def readSet (style : Style) (text : List Char) : Except Fault (Sign × List Char) := do
  let opposite := text.head? = some '^'
  let body := if opposite then text.drop 1 else text
  if body.isEmpty then throw .incomplete
  let (members, behind) ← readMembers style (body.length + 1) true body
  return (.part (.among opposite members), behind)

/-- How often something may stand, behind an opening brace, and the text behind the closing one. -/
def readTimes? (extended : Bool) (text : List Char) : Option (Sign × List Char) :=
  let low := text.takeWhile Char.isDigit
  let behind := text.drop low.length
  let close (most : Option Nat) (behind : List Char) : Option (Sign × List Char) :=
    match extended, behind with
    | true, '\x7d' :: rest => some (.times (digitsValue low) most, rest)
    | false, '\\' :: '\x7d' :: rest => some (.times (digitsValue low) most, rest)
    | _, _ => none
  match behind with
  | ',' :: rest =>
      let high := rest.takeWhile Char.isDigit
      close (if high.isEmpty then none else some (digitsValue high)) (rest.drop high.length)
  | _ => if low.isEmpty then none else close (some (digitsValue low)) behind

/-- The sign that says how often something may stand, if that is possible. -/
def checkTimes (found : Sign × List Char) : Except Fault (Sign × List Char) :=
  match found.1 with
  | .times least most =>
      if most.any (· < least) then .error .content
      else if 32767 < most.getD least then .error .tooBig
      else .ok found
  | _ => .ok found

/-- The sign that a character behind a backslash is, and the text behind it. -/
def readEscaped (style : Style) (start : Bool) (c : Char) (rest : List Char) :
    Except Fault (Sign × List Char) :=
  let plain (sign : Sign) : Except Fault (Sign × List Char) := .ok (sign, rest)
  let basic (sign : Sign) : Except Fault (Sign × List Char) :=
    if style.extended then plain (charPart c) else plain sign
  match c with
  | '(' => basic .opening
  | ')' => basic .closing
  | '|' => basic .bar
  | '+' => if start then plain (charPart c) else basic (.times 1 none)
  | '?' => if start then plain (charPart c) else basic (.times 0 (some 1))
  | '\x7b' =>
      if style.extended || start then plain (charPart c)
      else
        match readTimes? false rest with
        | some found => checkTimes found
        | none => .error (if rest.contains '\x7d' then .content else .openBrace)
  | '<' => plain (.part (.anchored .wordStart))
  | '>' => plain (.part (.anchored .wordEnd))
  | 'b' => plain (.part (.anchored .wordEdge))
  | 'B' => plain (.part (.anchored .noEdge))
  | '\x60' => plain (.part (.anchored .textStart))
  | '\'' => plain (.part (.anchored .textEnd))
  | 'w' => plain (classPart false 'w')
  | 'W' => plain (classPart true 'w')
  | 's' => plain (classPart false 's')
  | 'S' => plain (classPart true 's')
  | _ =>
      if '1' ≤ c ∧ c ≤ '9' then plain (.part (.same (c.toNat - '0'.toNat)))
      else
        match letterFor? c with
        | some found => plain (charPart (if style.letters then found else c))
        | none => plain (charPart c)

/-- Whether a text behind a dollar sign lets it mean an end. -/
def endsBranch (text : List Char) : Bool :=
  text.isEmpty || text.take 2 == ['\\', ')'] || text.take 2 == ['\\', '|']

/-- The sign at the front of a text, and the text behind it; `start` says whether nothing stands in
front of it that could stand several times. -/
def readSign (style : Style) (start : Bool) (c : Char) (rest : List Char) :
    Except Fault (Sign × List Char) :=
  let plain (sign : Sign) : Except Fault (Sign × List Char) := .ok (sign, rest)
  let extended (sign : Sign) : Except Fault (Sign × List Char) :=
    if style.extended then plain sign else plain (charPart c)
  match c with
  | '\\' =>
      match rest with
      | escaped :: behind => readEscaped style start escaped behind
      | [] => .error .trailing
  | '[' => readSet style rest
  | '.' => plain (.part .anyChar)
  | '*' => if start && !style.extended then plain (charPart c) else plain (.times 0 none)
  | '^' =>
      if style.extended || start then plain (.part (.anchored .lineStart)) else plain (charPart c)
  | '$' =>
      if style.extended || endsBranch rest then plain (.part (.anchored .lineEnd))
      else plain (charPart c)
  | '(' => extended .opening
  | ')' => extended .closing
  | '|' => extended .bar
  | '+' => extended (.times 1 none)
  | '?' => extended (.times 0 (some 1))
  | '\x7b' =>
      if style.extended then
        match readTimes? true rest with
        | some found => checkTimes found
        | none => plain (charPart c)
      else plain (charPart c)
  | _ => plain (charPart c)

/-- What is left of a text, how many groups were opened, and which ones are closed. -/
structure Progress where
  rest : List Char
  opened : Nat
  closed : List Nat
  deriving Repr

abbrev Reading := StateT Progress (Except Fault)

def behind (before : Option Regex) (regex : Regex) : Regex :=
  match before with
  | some first => .inOrder first regex
  | none => regex

def isStart : Option Regex → Bool
  | some (.anchored .lineStart) => true
  | _ => false

/-- Reads what stands behind an expression up to the end of the text or of a group that is `inside`:
`done` is what the last part stands behind, and `last` that part. -/
def readBehind (style : Style) : Nat → Bool → Option Regex → Option Regex → Reading Regex
  | 0, _, done, last => return behind done (last.getD .nothing)
  | fuel + 1, inside, done, last => do
      let progress ← get
      let whole := behind done (last.getD .nothing)
      match progress.rest with
      | [] => if inside then throw .openGroup else return whole
      | c :: rest =>
          let start := last.isNone || (isStart last && done.isNone && !style.extended)
          let (sign, rest) ← readSign style start c rest
          set { progress with rest }
          let joined : Option Regex :=
            match last with
            | some one => some (behind done one)
            | none => done
          match sign with
          | .part regex =>
              if let .same number := regex then
                if !progress.closed.contains number then throw .backReference
              readBehind style fuel inside joined (some regex)
          | .times least most =>
              readBehind style fuel inside done (last.map (.repeated least most))
          | .bar => return .either whole (← readBehind style fuel inside none none)
          | .closing =>
              if inside then return whole
              else if style.loose then
                readBehind style fuel inside joined (some (.among false [.range ')' ')']))
              else throw .closedGroup
          | .opening =>
              let number := progress.opened + 1
              modify fun progress => { progress with opened := number }
              let body ← readBehind style fuel true none none
              modify fun progress => { progress with closed := number :: progress.closed }
              readBehind style fuel inside joined (some (.group number body))

/-- The expression that a text is, and how many groups it has. -/
def read (style : Style) (text : List Char) : Except Fault (Regex × Nat) := do
  let (regex, progress) ← (readBehind style (4 * text.length + 4) false none none).run ⟨text, 0, []⟩
  return (regex, progress.opened)

end SqlColumns.Shell.Regex
