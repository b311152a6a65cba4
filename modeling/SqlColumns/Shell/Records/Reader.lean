import SqlColumns.Shell.Records.Syntax
import SqlColumns.Shell.Records.Token
import SqlColumns.Shell.Regex.Reader

/-!
# Reading programs that work on records

Terms are read by how tightly their signs bind: choices, then what holds either way or both ways,
expressions that texts fit, comparisons, texts behind each other, sums, products, powers and counts.
A sign for more is one for a file where something is printed.
-/

set_option autoImplicit false

namespace SqlColumns.Shell.Records

/-- What surrounds the steps that are read: the time before the records or behind them, a rule for
records, or a function with its parameters. -/
inductive Place where
  | edge
  | rule
  | function (parameters : List String)

/-- What is left of a program, how many brackets and braces are open, how many loops are around,
what is known of names, and which functions are called from which lines with how many values. -/
structure Cursor where
  tokens : List Token
  brackets : Nat
  braces : Nat
  loops : Nat
  place : Place
  arrays : List (String × Bool)
  functions : List (String × Function)
  calls : List (String × Nat × Nat)

abbrev Fault := List String

abbrev Reading := StateT Cursor (Except Fault)

/-- The function behind a word, and how many values it takes. -/
def known? (word : String) : Option (Known × Nat × Nat) :=
  match word with
  | "substr" => some (.part, 2, 3)
  | "index" => some (.index, 2, 2)
  | "split" => some (.split, 2, 3)
  | "sub" => some (.replace false, 2, 3)
  | "gsub" => some (.replace true, 2, 3)
  | "match" => some (.find, 2, 2)
  | "sprintf" => some (.form, 1, 255)
  | "sin" => some (.sine, 1, 1)
  | "cos" => some (.cosine, 1, 1)
  | "atan2" => some (.angle, 2, 2)
  | "exp" => some (.exponential, 1, 1)
  | "log" => some (.logarithm, 1, 1)
  | "sqrt" => some (.root, 1, 1)
  | "int" => some (.whole, 1, 1)
  | "rand" => some (.random, 0, 0)
  | "srand" => some (.seed, 0, 1)
  | "tolower" => some (.small, 1, 1)
  | "toupper" => some (.capital, 1, 1)
  | "system" => some (.system, 1, 1)
  | "close" => some (.close, 1, 1)
  | "fflush" => some (.flush, 0, 1)
  | "systime" => some (.moment, 0, 0)
  | "strftime" => some (.date, 0, 3)
  | _ => none

def changes : List (String × Sum) :=
  [("+=", .add), ("-=", .subtract), ("*=", .multiply), ("/=", .divide), ("%=", .remainder),
    ("^=", .power)]

def orders : List (String × Order) :=
  [("<", .less), ("<=", .atMost), ("==", .equal), ("!=", .unequal), (">", .more), (">=", .atLeast)]

/-- The text of an expression, with its escapes in the form in which expressions know them. -/
def regexText : Nat → List Char → List Char
  | 0, _ | _, [] => []
  | fuel + 1, '\\' :: c :: rest =>
      let plain (c : Char) : List Char :=
        if c.isAlphanum || " /\"&',:;<>=!@#%_~\x60".toList.contains c then [c] else ['\\', c]
      match octalValue? c with
      | some digit =>
          let (found, behind) := readOctal 2 digit rest
          plain found ++ regexText fuel behind
      | none =>
          if c = 'b' then '\x08' :: regexText fuel rest
          else if "ntrfva".toList.contains c then '\\' :: c :: regexText fuel rest
          else plain c ++ regexText fuel rest
  | fuel + 1, c :: rest => c :: regexText fuel rest

def regexStyle : Regex.Style :=
  { extended := true, letters := true, inBrackets := true, loose := true }

/-- What is wrong with an expression, in brackets. -/
def regexComplaint (fault : Regex.Fault) : String :=
  match fault with
  | .openGroup => "missing ')'"
  | .openBracket | .incomplete => "bad class -- [], [^] or ["
  | _ => "bad interval expression"

/-- The expression that a text is, or what is wrong with it. -/
def regexOf (text : List Char) : Except String Regex :=
  if text.head?.any fun c => c == '*' || c == '+' || c == '?' then .error "missing operand"
  else
    match Regex.read regexStyle (regexText (text.length + 1) text) with
    | .ok (regex, _) => .ok regex
    | .error fault => .error (regexComplaint fault)

namespace Reading

def peek : Reading Token := do
  return (← get).tokens.headD ⟨.ending, 1, "end of file"⟩

def sign? : Reading (Option String) := do
  match (← peek).kind with
  | .sign sign => return some sign
  | _ => return none

def word? : Reading (Option String) := do
  match (← peek).kind with
  | .word word => return some word
  | _ => return none

def advance : Reading Unit := do
  let token ← peek
  modify fun cursor => { cursor with tokens := cursor.tokens.drop 1 }
  match token.kind with
  | .sign "(" => modify fun cursor => { cursor with brackets := cursor.brackets + 1 }
  | .sign ")" => modify fun cursor => { cursor with brackets := cursor.brackets - 1 }
  | .sign "\x7b" => modify fun cursor => { cursor with braces := cursor.braces + 1 }
  | .sign "\x7d" => modify fun cursor => { cursor with braces := cursor.braces - 1 }
  | _ => return

/-- Refuses a program with words about the next token. -/
def fail {α : Type} (complaint : String) : Reading α := do
  throw [s!"line {inBase 10 (← peek).line}: {complaint}"]

def refuse {α : Type} : Reading α := do
  let token ← peek
  let cursor ← get
  let line := s!"line {inBase 10 token.line}: "
  let near : String := s!"syntax error at or near {token.shown}"
  match token.kind with
  | .fault complaint => throw [complaint]
  | .ending =>
      if cursor.braces = 0 then throw [line ++ near]
      else throw [line ++ "missing \x7d near end of file"]
  | .sign "\x7d" =>
      if 0 < cursor.brackets then throw [line ++ "missing ) near \x7d"]
      else if cursor.braces = 0 then
        throw [line ++ "extra '\x7d'", line ++ "syntax error at or near end of line"]
      else throw [line ++ near]
  | .sign ";" =>
      if 0 < cursor.brackets then throw [line ++ "missing ) near ;"] else throw [line ++ near]
  | .sign ")" =>
      if cursor.brackets = 0 then throw [line ++ "extra ')'"] else throw [line ++ near]
  | _ => throw [line ++ near]

def accept (sign : String) : Reading Bool := do
  if (← sign?) = some sign then
    advance
    return true
  else return false

/-- Goes past a sign that has to be the next token. -/
def expect (sign : String) : Reading Unit := do
  if !(← accept sign) then refuse

def acceptWord (word : String) : Reading Bool := do
  if (← word?) = some word then
    advance
    return true
  else return false

def skipLines : Reading Unit :=
  modify fun cursor =>
    let isLine (token : Token) : Bool :=
      match token.kind with
      | .newline => true
      | _ => false
    { cursor with tokens := cursor.tokens.dropWhile isLine }

def name : Reading String := do
  match (← peek).kind with
  | .name name | .called name =>
      advance
      return name
  | _ => refuse

def isAtEnd : Reading Bool := do
  match (← peek).kind with
  | .newline | .ending => return true
  | .sign sign => return sign == ";" || sign == "\x7d"
  | _ => return false

def endStep : Reading Unit := do
  match (← peek).kind with
  | .newline =>
      advance
      skipLines
  | .sign ";" =>
      if 0 < (← get).brackets then refuse
      advance
      skipLines
  | .sign "\x7d" => if 0 < (← get).brackets then refuse
  | _ => refuse

/-- Keeps in mind what a name is used for, which has to be the same everywhere. -/
def use (name : String) (isArray : Bool) : Reading Unit := do
  let cursor ← get
  let isOwn := match cursor.place with
    | .function parameters => parameters.contains name
    | _ => false
  if !isOwn then
    match cursor.arrays.find? fun one => one.1 == name with
    | some (_, before) =>
        let kind := if before then "array" else "variable"
        if before ≠ isArray then fail s!"illegal reference to {kind} {name}"
    | none => modify fun cursor => { cursor with arrays := (name, isArray) :: cursor.arrays }

def asValue (term : Term) : Reading Term := do
  if let .variable name := term then use name false
  return term

def isTarget : Term → Bool
  | .variable _ | .field _ | .element _ _ => true
  | _ => false

/-- Whether a term can begin with the next token, behind another one. -/
def beginsTerm : Reading Bool := do
  match (← peek).kind with
  | .number _ | .text _ | .regex _ | .name _ | .called _ => return true
  | .word word => return word == "length" || (known? word).isSome
  | .sign sign => return ["$", "!", "(", "++", "--"].contains sign
  | _ => return false

/-- Joins terms from the left by signs. The terms are read as far as `fuel` signs. -/
def chain (operand : Reading Term) (step? : Reading (Option (Term → Term → Term))) :
    Nat → Term → Reading Term
  | 0, left => return left
  | fuel + 1, left => do
      match ← step? with
      | none => return left
      | some join =>
          let right ← asValue (← operand)
          chain operand step? fuel (join (← asValue left) right)

def joinBy (joins : List (String × (Term → Term → Term))) :
    Reading (Option (Term → Term → Term)) := do
  match ← sign? with
  | none => return none
  | some sign =>
      match joins.find? fun one => one.1 == sign with
      | some (_, join) =>
          advance
          return some join
      | none => return none

end Reading

open Reading

mutual

/-- Reads a term; where something is printed, a sign for more does not belong to it. -/
def readTerm : Nat → Bool → Reading Term
  | 0, _ => refuse
  | fuel + 1, printed => do
      let condition ← readEither fuel printed
      if ← accept "?" then
        let _ ← asValue condition
        let first ← asValue (← readTerm fuel printed)
        expect ":"
        let second ← asValue (← readTerm fuel printed)
        return .choice condition first second
      else return condition

def readEither : Nat → Bool → Reading Term
  | 0, _ => refuse
  | fuel + 1, printed => do
      let step : Reading (Option (Term → Term → Term)) := do
        let found ← joinBy [("||", .either)]
        if found.isSome then skipLines
        return found
      chain (readBoth fuel printed) step fuel (← readBoth fuel printed)

def readBoth : Nat → Bool → Reading Term
  | 0, _ => refuse
  | fuel + 1, printed => do
      let step : Reading (Option (Term → Term → Term)) := do
        let found ← joinBy [("&&", .both)]
        if found.isSome then skipLines
        return found
      chain (readMember fuel printed) step fuel (← readMember fuel printed)

def readMember : Nat → Bool → Reading Term
  | 0, _ => refuse
  | fuel + 1, printed => do readArrays fuel (← readFits fuel printed)

def readArrays : Nat → Term → Reading Term
  | 0, term => return term
  | fuel + 1, term => do
      if ← acceptWord "in" then
        let array ← name
        use array true
        match term with
        | .group parts => readArrays fuel (.member parts array)
        | _ => readArrays fuel (.member [← asValue term] array)
      else return term

def readFits : Nat → Bool → Reading Term
  | 0, _ => refuse
  | fuel + 1, printed => do
      chain (readCompared fuel printed) (joinBy [("~", .fits false), ("!~", .fits true)]) fuel
        (← readCompared fuel printed)

def readCompared : Nat → Bool → Reading Term
  | 0, _ => refuse
  | fuel + 1, printed => do
      let usable := orders.filter fun one => !printed || one.1.toList.head? != some '>'
      let step : Reading (Option (Term → Term → Term)) := do
        if printed && (← sign?) = some ">=" then fail "syntax error at or near ="
        joinBy (usable.map fun (sign, order) => (sign, .compare order))
      chain (readJoined fuel printed) step fuel (← readJoined fuel printed)

/-- Reads texts behind each other, or what is put in place of something. -/
def readJoined : Nat → Bool → Reading Term
  | 0, _ => refuse
  | fuel + 1, printed => do
      let first ← readSum fuel printed
      let sign := (← sign?).getD ""
      if isTarget first ∧ sign = "=" then
        let _ ← asValue first
        advance
        return .assign first (← asValue (← readTerm fuel printed))
      else
        match isTarget first, changes.find? fun one => one.1 == sign with
        | true, some (_, sum) =>
            let _ ← asValue first
            advance
            return .change sum first (← asValue (← readTerm fuel printed))
        | _, _ =>
            let step : Reading (Option (Term → Term → Term)) := do
              return if ← beginsTerm then some .joined else none
            chain (readSum fuel printed) step fuel first

def readSum : Nat → Bool → Reading Term
  | 0, _ => refuse
  | fuel + 1, printed => do
      chain (readProduct fuel printed) (joinBy [("+", .sum .add), ("-", .sum .subtract)]) fuel
        (← readProduct fuel printed)

def readProduct : Nat → Bool → Reading Term
  | 0, _ => refuse
  | fuel + 1, printed => do
      let joins := [("*", Term.sum .multiply), ("/", .sum .divide), ("%", .sum .remainder)]
      chain (readSigned fuel printed) (joinBy joins) fuel (← readSigned fuel printed)

def readSigned : Nat → Bool → Reading Term
  | 0, _ => refuse
  | fuel + 1, printed => do
      match ← sign? with
      | some "!" =>
          advance
          return .opposite (← asValue (← readSigned fuel printed))
      | some "-" =>
          advance
          return .signed true (← asValue (← readSigned fuel printed))
      | some "+" =>
          advance
          return .signed false (← asValue (← readSigned fuel printed))
      | _ => readPiped fuel (← readPower fuel printed)

def readPiped : Nat → Term → Reading Term
  | 0, term => return term
  | fuel + 1, term => do
      let reads := match (← get).tokens with
        | bar :: next :: _ =>
            match bar.kind, next.kind with
            | .sign "|", .word "getline" => true
            | _, _ => false
        | _ => false
      if reads then
        let _ ← asValue term
        advance
        advance
        readPiped fuel (.reading (.command term) (← readTarget fuel))
      else return term

def readTarget : Nat → Reading (Option Term)
  | 0 => return none
  | fuel + 1 => do
      match (← peek).kind with
      | .name _ | .sign "$" => return some (← asValue (← readPrimary fuel false))
      | _ => return none

def readPower : Nat → Bool → Reading Term
  | 0, _ => refuse
  | fuel + 1, printed => do
      let base ← readCounted fuel printed
      if ← accept "^" then
        let _ ← asValue base
        return .sum .power base (← asValue (← readSigned fuel printed))
      else return base

def readCounted : Nat → Bool → Reading Term
  | 0, _ => refuse
  | fuel + 1, printed => do
      match ← sign? with
      | some "++" | some "--" =>
          let up := (← sign?) = some "++"
          advance
          match ← readTarget fuel with
          | some target => return .count up true target
          | none => refuse
      | _ =>
          let target ← readPrimary fuel printed
          match isTarget target, ← sign? with
          | true, some "++" =>
              advance
              return .count true false (← asValue target)
          | true, some "--" =>
              advance
              return .count false false (← asValue target)
          | _, _ => return target

def readIndex : Nat → Reading Term
  | 0 => refuse
  | fuel + 1 => do
      match ← sign? with
      | some "++" | some "--" => readCounted fuel false
      | some "-" | some "+" | some "!" => readSigned fuel false
      | _ => readPrimary fuel false

def readList : Nat → String → Reading (List Term)
  | 0, _ => refuse
  | fuel + 1, closing => do
      if ← accept closing then return []
      else readRest fuel closing

/-- Reads at least one term, with commas between them, up to a closing sign. -/
def readRest : Nat → String → Reading (List Term)
  | 0, _ => refuse
  | fuel + 1, closing => do
      let term ← readTerm fuel false
      if ← accept "," then
        skipLines
        return term :: (← readRest fuel closing)
      else
        expect closing
        return [term]

def readPrimary : Nat → Bool → Reading Term
  | 0, _ => refuse
  | fuel + 1, printed => do
      let token ← peek
      match token.kind with
      | .number value =>
          advance
          return .number value
      | .text value =>
          advance
          return .text value
      | .regex source =>
          match regexOf source with
          | .ok regex =>
              advance
              return .regex regex
          | .error complaint =>
              throw [s!"line {inBase 10 token.line}: regular expression compile failed " ++
                s!"({complaint})\n{String.ofList source}"]
      | .name word =>
          advance
          if ← accept "[" then
            use word true
            return .element word (← (← readRest fuel "]").mapM asValue)
          else if (← sign?) = some "(" ∧ ((← get).functions.any fun one => one.1 == word) then
            readCall fuel word token.line
          else return .variable word
      | .called word =>
          advance
          readCall fuel word token.line
      | .word "getline" =>
          advance
          let target ← readTarget fuel
          if ← accept "<" then
            return .reading (.file (← asValue (← readCounted fuel false))) target
          else return .reading .input target
      | .word word => readKnown fuel word
      | .sign "$" =>
          advance
          return .field (← asValue (← readIndex fuel))
      | .sign "(" =>
          advance
          let parts ← (← readRest fuel ")").mapM asValue
          let stops := (← isAtEnd) || [">", ">>", "|"].contains ((← sign?).getD "")
          if parts.length = 1 ∨ (printed && stops) ∨ (← word?) = some "in" then
            return .group parts
          else refuse
      | _ => refuse

def readCall : Nat → String → Nat → Reading Term
  | 0, _, _ => refuse
  | fuel + 1, word, line => do
      expect "("
      let arguments ← readList fuel ")"
      modify fun cursor => { cursor with calls := cursor.calls ++ [(word, line, arguments.length)] }
      return .call word arguments

def readKnown : Nat → String → Reading Term
  | 0, _ => refuse
  | fuel + 1, word => do
      if word = "length" then
        advance
        if ← accept "(" then
          if ← accept ")" then return .known .length []
          else
            let value ← readTerm fuel false
            expect ")"
            return .known .length [value]
        else return .known .length []
      else
        match known? word with
        | none => refuse
        | some (function, least, most) =>
            let wrong : String := s!"wrong number of arguments in call to {word}"
            advance
            if (← sign?) ≠ some "(" then
              if least = 0 then return .known function []
              refuse
            expect "("
            let arguments ← readArguments fuel function 0
            if arguments.length < least ∨ most < arguments.length then fail wrong
            return .known function arguments

/-- Reads the values of a known function from one with a number on: an array is where texts are
split to, and a place where something is replaced. -/
def readArguments : Nat → Known → Nat → Reading (List Term)
  | 0, _, _ => refuse
  | fuel + 1, function, number => do
      if number = 0 ∧ (← accept ")") then return []
      let argument ←
        match function, number with
        | .split, 1 => do
            let array ← name
            use array true
            pure (Term.variable array)
        | .replace _, 2 => do
            match ← readTarget fuel with
            | some target => pure target
            | none => refuse
        | _, _ => do asValue (← readTerm fuel false)
      if ← accept "," then
        skipLines
        return argument :: (← readArguments fuel function (number + 1))
      else
        expect ")"
        return [argument]

end

def readOutlet (fuel : Nat) : Reading (Option Outlet) := do
  match ← sign? with
  | some ">" =>
      advance
      return some (.file false (← asValue (← readTerm fuel false)))
  | some ">>" =>
      advance
      return some (.file true (← asValue (← readTerm fuel false)))
  | some "|" =>
      advance
      return some (.command (← asValue (← readTerm fuel false)))
  | _ => return none

def readPrinted : Nat → Reading (List Term)
  | 0 => refuse
  | fuel + 1 => do
      let term ← asValue (← readTerm fuel true)
      if ← accept "," then
        skipLines
        return term :: (← readPrinted fuel)
      else return [term]

def readPrint (fuel : Nat) : Reading (List Term × Option Outlet) := do
  let stops := [">", ">>", "|"].contains ((← sign?).getD "")
  let values ← if stops || (← isAtEnd) then pure [] else readPrinted fuel
  let values := match values with
    | [.group parts] => parts
    | _ => values
  return (values, ← readOutlet fuel)

def readCondition (fuel : Nat) : Reading Term := do
  expect "("
  let condition ← asValue (← readTerm fuel false)
  expect ")"
  return condition

def readSimple (fuel : Nat) : Reading Step := do
  let needsRule (word : String) : Reading Unit := do
    match (← get).place with
    | .rule => return
    | _ => fail s!"improper use of {word}"
  let needsLoop (word : String) : Reading Unit := do
    if (← get).loops = 0 then fail s!"{word} statement outside of loop"
  match ← word? with
  | some "print" =>
      advance
      let (values, outlet) ← readPrint fuel
      return .print values outlet
  | some "printf" =>
      advance
      let (values, outlet) ← readPrint fuel
      if values.isEmpty then fail "no arguments in call to printf"
      return .printForm values outlet
  | some "next" =>
      needsRule "next"
      advance
      return .nextRecord
  | some "nextfile" =>
      needsRule "nextfile"
      advance
      return .nextFile
  | some "break" =>
      needsLoop "break"
      advance
      return .leave
  | some "continue" =>
      needsLoop "continue"
      advance
      return .again
  | some "exit" =>
      advance
      if ← isAtEnd then return .exit none
      return .exit (some (← asValue (← readTerm fuel false)))
  | some "return" =>
      match (← get).place with
      | .function _ =>
          advance
          if ← isAtEnd then return .give none
          return .give (some (← asValue (← readTerm fuel false)))
      | _ => fail "return outside function body"
  | some "delete" =>
      advance
      let array ← name
      use array true
      if ← accept "[" then return .delete array (← (← readRest fuel "]").mapM asValue)
      return .delete array []
  | _ => return .value (← asValue (← readTerm fuel false))

def inLoop {α : Type} (body : Reading α) : Reading α := do
  modify fun cursor => { cursor with loops := cursor.loops + 1 }
  let result ← body
  modify fun cursor => { cursor with loops := cursor.loops - 1 }
  return result

mutual

def readStep : Nat → Reading Step
  | 0 => refuse
  | fuel + 1 => do
      match (← peek).kind with
      | .sign "\x7b" => return .row (← readBlock fuel)
      | .sign ";" =>
          endStep
          return .nothing
      | .word "if" =>
          advance
          let condition ← readCondition fuel
          skipLines
          let first ← readStep fuel
          skipLines
          if ← acceptWord "else" then
            skipLines
            return .choice condition first (← readStep fuel)
          else return .choice condition first .nothing
      | .word "while" =>
          advance
          let condition ← readCondition fuel
          if ← accept ";" then
            skipLines
            return .loop condition .nothing
          skipLines
          return .loop condition (← inLoop (readStep fuel))
      | .word "do" =>
          advance
          skipLines
          let body ← inLoop (readStep fuel)
          skipLines
          if !(← acceptWord "while") then refuse
          let condition ← readCondition fuel
          endStep
          return .loopBehind body condition
      | .word "for" =>
          advance
          readFor fuel
      | _ =>
          let step ← readSimple fuel
          endStep
          return step

def readFor : Nat → Reading Step
  | 0 => refuse
  | fuel + 1 => do
      let overKeys := match (← get).tokens.map (·.kind) with
        | .sign "(" :: .name name :: .word "in" :: .name array :: .sign ")" :: _ =>
            some (name, array)
        | _ => none
      match overKeys with
      | some (name, array) =>
          use name false
          use array true
          advance
          advance
          advance
          advance
          advance
          skipLines
          return .each name array (← inLoop (readStep fuel))
      | none =>
          expect "("
          let part (closing : String) : Reading Step := do
            if ← accept closing then return .nothing
            let step ← asValue (← readTerm fuel false)
            expect closing
            return .value step
          let start ← part ";"
          skipLines
          let condition ← if ← accept ";" then pure none
            else do
              let condition ← asValue (← readTerm fuel false)
              expect ";"
              pure (some condition)
          skipLines
          let next ← part ")"
          if ← accept ";" then
            skipLines
            return .loopOver start condition next .nothing
          skipLines
          return .loopOver start condition next (← inLoop (readStep fuel))

def readBlock : Nat → Reading (List Step)
  | 0 => refuse
  | fuel + 1 => do
      expect "\x7b"
      skipLines
      readSteps fuel

def readSteps : Nat → Reading (List Step)
  | 0 => refuse
  | fuel + 1 => do
      skipLines
      if (← sign?) = some "\x7d" then
        if 0 < (← get).brackets then refuse
        advance
        return []
      let step ← readStep fuel
      return step :: (← readSteps fuel)

end

def readParameters (function : String) : Nat → List String → Reading (List String)
  | 0, _ => refuse
  | fuel + 1, before => do
      if before.isEmpty && (← accept ")") then return []
      let parameter ← name
      if parameter = function then fail "function parameter cannot be the function"
      if before.contains parameter then fail s!"{parameter} is duplicated in argument list"
      if ← accept "," then
        skipLines
        readParameters function fuel (before ++ [parameter])
      else
        expect ")"
        return before ++ [parameter]

def readAt (fuel : Nat) (place : Place) : Reading (List Step) := do
  modify fun cursor => { cursor with place, loops := 0 }
  let steps ← readBlock fuel
  modify fun cursor => { cursor with place := .rule }
  let _ ← accept ";"
  return steps

def readItems : Nat → Program → Reading Program
  | 0, _ => refuse
  | fuel + 1, program => do
      skipLines
      match (← peek).kind with
      | .ending => return program
      | .word "BEGIN" =>
          advance
          let steps ← readAt fuel .edge
          readItems fuel { program with before := program.before ++ [steps] }
      | .word "END" =>
          advance
          let steps ← readAt fuel .edge
          readItems fuel { program with behind := program.behind ++ [steps] }
      | .word "function" =>
          advance
          let function ← name
          if (← get).functions.any fun one => one.1 == function then
            fail s!"redefinition of {function}"
          expect "("
          let parameters ← readParameters function fuel []
          skipLines
          modify fun cursor =>
            { cursor with functions := cursor.functions ++ [(function, ⟨parameters, []⟩)] }
          let steps ← readAt fuel (.function parameters)
          readItems fuel
            { program with functions := program.functions ++ [(function, ⟨parameters, steps⟩)] }
      | .sign "\x7b" =>
          let steps ← readAt fuel .rule
          readItems fuel { program with rules := program.rules ++ [⟨.always, some steps⟩] }
      | _ =>
          let condition ← asValue (← readTerm fuel false)
          let selection ←
            if ← accept "," then
              skipLines
              pure (Selection.between condition (← asValue (← readTerm fuel false)))
            else pure (Selection.holding condition)
          if (← sign?) = some "\x7b" then
            let steps ← readAt fuel .rule
            readItems fuel { program with rules := program.rules ++ [⟨selection, some steps⟩] }
          else
            endStep
            readItems fuel { program with rules := program.rules ++ [⟨selection, none⟩] }

def checkCalls (program : Program) : Reading Unit := do
  for (word, line, count) in (← get).calls do
    match program.functions.find? fun one => one.1 == word with
    | none => fail s!"function {word} never defined"
    | some (_, function) =>
        if function.parameters.length < count then
          throw [s!"line {inBase 10 line}: too many arguments in call to {word}"]

def programOf (text : String) : Except Fault Program := do
  let tokens := tokensOf text
  let fuel := 20 * tokens.length + 20
  let reading : Reading Program := do
    let program ← readItems fuel ⟨[], [], [], []⟩
    checkCalls program
    return program
  let usual := ["NR", "NF", "FNR", "FS", "OFS", "RS", "ORS", "FILENAME", "SUBSEP", "RSTART",
    "RLENGTH", "CONVFMT", "OFMT", "ARGC"]
  let arrays := usual.map (·, false) ++ [("ENVIRON", true), ("ARGV", true)]
  let (program, _) ← reading.run ⟨tokens, 0, 0, 0, .rule, arrays, [], []⟩
  return program

end SqlColumns.Shell.Records
