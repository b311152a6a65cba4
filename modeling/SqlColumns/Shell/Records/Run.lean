import SqlColumns.Shell.Records.State
import SqlColumns.Shell.Tools.Moments

/-!
# Running programs that work on records

What terms have as their values and what steps do, with how deep they are inside of each other as a
bound. The records are gone through once, between the steps for the time before them and for the
time behind them.
-/

set_option autoImplicit false

namespace SqlColumns.Shell.Records

open Running

/-- What is to be done: a term has to get its value, or a step has to be made. -/
inductive Task where
  | term (term : Term)
  | step (step : Step)

/-- Who does what is inside of something: the value of a term, or nothing for a step. -/
abbrev Runner := Task → Running Value

/-- Something that can be set. -/
inductive Target where
  | variable (name : String)
  | field (number : Nat)
  | cell (array : String) (key : Key)

def Target.value : Target → Running Value
  | .variable name => valueOf name
  | .field number => Running.field number
  | .cell array key => Running.cell array key

def Target.set (target : Target) (value : Value) : Running Unit :=
  match target with
  | .variable name => setValue name value
  | .field number => setField number value
  | .cell array key => setCell array key value

def keyOf (values : List Value) : Running Key := do
  match values with
  | [value] => return Key.ofValue (← convert) value
  | _ =>
      let texts ← values.mapM textOf
      return ⟨(← sharedText "SUBSEP").intercalate texts, none⟩

def fieldNumber (value : Value) : Running Nat := do
  let number := Value.wholeOf value.toNumber
  if number < 0 then fail s!"negative field index ${decimal number}"
  return number.toNat

def targetOf (runner : Runner) (term : Term) : Running (Option Target) := do
  match term with
  | .variable name => return some (.variable name)
  | .field index => return some (.field (← fieldNumber (← runner (.term index))))
  | .element array keys =>
      let key ← keyOf (← keys.mapM fun key => runner (.term key))
      return some (.cell (← arrayOf array) key)
  | _ => return none

def sumOf (sum : Sum) (left right : Value) : Value :=
  let first := left.toNumber
  let second := right.toNumber
  let result := match sum with
    | .add => first + second
    | .subtract => first - second
    | .multiply => first * second
    | .divide => first / second
    | .remainder =>
        if second == 0 then 0.0 / 0.0
        else
          match Floating.parts first, Floating.parts second with
          | .finite negative upper lower, .finite _ otherUpper otherLower =>
              let whole := Float.ofNat (upper * otherLower % (otherUpper * lower))
              let rest := Float.scaleB whole (-(Nat.log2 (lower * otherLower) : Int))
              if negative then -rest else rest
          | .finite .., .infinite _ => first
          | _, _ => 0.0 / 0.0
    | .power => Float.pow first second
  Value.calculated [left, right] result

/-- Whether two values stand to each other in an order. -/
def holds (order : Order) (left right : Value) : Running Bool := do
  let left := left.plain
  let right := right.plain
  if left.isText || right.isText then
    let first ← textOf left
    let second ← textOf right
    return match order with
      | .less => decide (first < second)
      | .atMost => decide (first ≤ second)
      | .equal => first == second
      | .unequal => first != second
      | .more => decide (second < first)
      | .atLeast => decide (second ≤ first)
  else
    let first := left.toNumber
    let second := right.toNumber
    return match order with
      | .less => first < second
      | .atMost => first ≤ second
      | .equal => first == second || (first.isNaN && second.isNaN)
      | .unequal => !(first == second || (first.isNaN && second.isNaN))
      | .more => second < first
      | .atLeast => second ≤ first

def patternOf (runner : Runner) (term : Term) : Running Regex := do
  match term with
  | .regex regex => return regex
  | _ => expressionOf (← textOf (← runner (.term term)))

def isFound (regex : Regex) (text : String) : Bool :=
  regex.isFound Separator.manner text

/-- What is put in place of something found: an ampersand stands for it, behind a backslash for
itself, and two backslashes in front of one are one. -/
def replacement (found : List Char) : List Char → List Char
  | '\\' :: '\\' :: '&' :: rest => '\\' :: (found ++ replacement found rest)
  | '\\' :: '\\' :: '\\' :: '&' :: rest => '\\' :: '&' :: replacement found rest
  | '\\' :: '&' :: rest => '&' :: replacement found rest
  | '&' :: rest => found ++ replacement found rest
  | c :: rest => c :: replacement found rest
  | [] => []

/-- What a text becomes from a place on, and how often something was replaced; `before` is where the
last thing was found that is not empty. At most `fuel` times something is looked for. -/
def replaceFrom (regex : Regex) (everywhere : Bool) (form : List Char) (chars : Array Char) :
    Nat → Nat → Option Nat → List Char × Nat
  | 0, start, _ => (Regex.between chars start chars.size, 0)
  | fuel + 1, start, before =>
      match regex.search? Separator.manner chars start with
      | none => (Regex.between chars start chars.size, 0)
      | some found =>
          let front := Regex.between chars start found.start
          let isEmpty := found.start == found.stop
          let skipped := isEmpty && before == some found.start
          let shown := if skipped then []
            else replacement (Regex.between chars found.start found.stop) form
          let count := if skipped then 0 else 1
          if !everywhere then
            (front ++ shown ++ Regex.between chars found.stop chars.size, count)
          else if isEmpty then
            if found.stop < chars.size then
              let next := Regex.between chars found.stop (found.stop + 1)
              let (rest, more) :=
                replaceFrom regex everywhere form chars fuel (found.stop + 1) none
              (front ++ shown ++ next ++ rest, count + more)
            else (front ++ shown, count)
          else
            let (rest, more) :=
              replaceFrom regex everywhere form chars fuel found.stop (some found.stop)
            (front ++ shown ++ rest, count + more)

def replaceIn (regex : Regex) (everywhere : Bool) (form : String) (target : Target) :
    Running Value := do
  let chars := (← textOf (← target.value)).toList.toArray
  let (text, count) :=
    replaceFrom regex everywhere form.toList chars (chars.size + 2) 0 none
  if 0 < count then target.set (.text (String.ofList text))
  return .ofNat count

/-- A part of a text: from a place on, and of a length if one is told. A place in front of the text
makes the part longer. -/
def partOf (text : String) (start : Int) (length : Option Int) : String :=
  let chars := text.toList.drop (start - 1).toNat
  match length with
  | none => String.ofList chars
  | some length =>
      let length := if start ≤ 0 then length - start else length
      String.ofList (chars.take length.toNat)

/-- The place in a text where another one begins, counted from one on, or zero. -/
def indexOf (text part : List Char) : Nat → Nat
  | 0 => 0
  | count + 1 =>
      if part.isPrefixOf text then 1
      else
        match indexOf (text.drop 1) part count with
        | 0 => 0
        | place => place + 1

def formed (name : String) (values : List Value) : Running (String × Option String) := do
  let form ← textOf (values.headD .unset)
  let (text, fault) := setByForm (← convert) form (values.drop 1)
  let shown := "(\"" ++ form ++ "\")"
  return (text, fault.map fun
    | .missing => s!"not enough arguments passed to {name}{shown}"
    | .improper number => s!"improper conversion(number {inBase 10 number}) in {name}{shown}")

def mapNumber (f : Float → Float) (values : List Value) : Running Value := do
  let value := values.headD .unset
  return .calculated [value] (f value.toNumber)

def applyKnown (setting : Setting) (function : Known) (values : List Value) : Running Value := do
  let number (place : Nat) : Float := (values.getD place .unset).toNumber
  let text (place : Nat) : Running String := textOf (values.getD place .unset)
  match function with
  | .part =>
      let length := (values[2]?).map fun value => Value.wholeOf value.toNumber
      return .text (partOf (← text 0) (Value.wholeOf (number 1)) length)
  | .index =>
      let whole := (← text 0).toList
      return .ofNat (indexOf whole (← text 1).toList whole.length)
  | .form =>
      let (shown, fault) ← formed "sprintf" values
      match fault with
      | some complaint => fail complaint
      | none => return .text shown
  | .sine => mapNumber Float.sin values
  | .cosine => mapNumber Float.cos values
  | .angle => return .calculated values (Float.atan2 (number 0) (number 1))
  | .exponential => mapNumber Float.exp values
  | .logarithm => mapNumber Float.log values
  | .root => mapNumber Float.sqrt values
  | .whole =>
      let whole (value : Float) : Float := if value < 0 then value.ceil + 0 else value.floor
      mapNumber whole values
  | .random => return .number 0.5
  | .seed =>
      let before := (← get).seed
      modify fun state =>
        { state with seed := values.headD (.number (Float.ofInt SqlColumns.Shell.moment)) }
      return before
  | .small => return .text (← text 0).toLower
  | .capital => return .text (← text 0).toUpper
  | .system =>
      let (code, written) ← start setting (← text 0) (← restOfInput)
      passOn written
      return .ofNat code
  | .close => close setting (← text 0)
  | .flush =>
      flush
      return .ofNat 0
  | .moment => return .number (Float.ofInt SqlColumns.Shell.moment)
  | .date =>
      let form ← if values.isEmpty then pure "%c" else text 0
      let seconds := if values.length < 2 then (SqlColumns.Shell.moment : Int)
        else Value.wholeOf (number 1)
      return .text ((Tools.momentOf seconds).shown (form.length + 1) form.toList)
  | .length | .split | .replace _ | .find => return .unset

def useKnown (setting : Setting) (runner : Runner) (function : Known) (arguments : List Term) :
    Running Value := do
  let value (place : Nat) : Running Value :=
    match arguments[place]? with
    | some term => runner (.term term)
    | none => return .unset
  match function with
  | .length =>
      match arguments with
      | [] => return .ofNat (← textOf (← field 0)).length
      | [.variable name] =>
          let cells := (← table (← arrayOf name)).cells
          if cells.isEmpty then return .ofNat (← textOf (← valueOf name)).length
          else return .ofNat cells.length
      | _ => return .ofNat (← textOf (← value 0)).length
  | .split =>
      let text ← textOf (← value 0)
      let separator ←
        match (arguments[2]? : Option Term) with
        | some (.regex found) => pure (Separator.regex found)
        | some term => separatorOf (← textOf (← runner (.term term)))
        | none => separatorOf (← sharedText "FS")
      let parts := separator.parts text
      if let some (Term.variable name) := (arguments[1]? : Option Term) then
        setTable (← arrayOf name) (Table.ofList (parts.map Value.seeming))
      return .ofNat parts.length
  | .replace everywhere =>
      let found ← patternOf runner (arguments.getD 0 (.text ""))
      let form ← textOf (← value 1)
      let target ← targetOf runner (arguments.getD 2 (.field (.number 0)))
      match target with
      | some target => replaceIn found everywhere form target
      | none => return .ofNat 0
  | .find =>
      let text ← textOf (← value 0)
      let found ← patternOf runner (arguments.getD 1 (.text ""))
      let (start, length) : Value × Value :=
        match found.search? Separator.manner text.toList.toArray 0 with
        | some found => (.ofNat (found.start + 1), .ofNat (found.stop - found.start))
        | none => (.ofNat 0, .number (-1))
      setValue "RSTART" start
      setValue "RLENGTH" length
      return start
  | _ => applyKnown setting function (← arguments.mapM fun term => runner (.term term))

/-- Reads a record: one when it was read, zero at the end, less without a file. -/
def useReading (setting : Setting) (runner : Runner) (origin : Origin Term)
    (target : Option Term) : Running Value := do
  let place ←
    match target with
    | some term => targetOf runner term
    | none => pure none
  let keep (text : String) : Running Unit :=
    match place with
    | some place => place.set (.seeming text)
    | none => setRecord text
  let outside (isCommand : Bool) (name : Term) : Running Value := do
    match ← nextFrom setting isCommand (← textOf (← runner (.term name))) with
    | none => return .number (-1)
    | some none => return .ofNat 0
    | some (some text) =>
        keep text
        return .ofNat 1
  match origin with
  | .input =>
      match ← nextRecord setting fileLimit with
      | some text =>
          keep text
          return .ofNat 1
      | none => return .ofNat 0
  | .file name => outside false name
  | .command text => outside true text

/-- Calls a function with terms. A name alone is given with the array that it is. -/
def useCall (setting : Setting) (runner : Runner) (name : String) (arguments : List Term) :
    Running Value := do
  match setting.program.functions.find? fun one => one.1 == name with
  | none => return .unset
  | some (_, function) =>
      let fresh : Running String := do
        let made := (← get).made
        modify fun state => { state with made := made + 1 }
        return s!"#{inBase 10 made}"
      let frame ← function.parameters.zipIdx.mapM fun (parameter, place) => do
        match arguments[place]? with
        | some (.variable given) =>
            return (parameter, (⟨← valueOf given, ← arrayOf given⟩ : Own))
        | some term => return (parameter, ⟨← runner (.term term), ← fresh⟩)
        | none => return (parameter, ⟨.unset, ← fresh⟩)
      modify fun state => { state with frames := frame :: state.frames }
      let result ← attempt (runner (.step (.row function.steps)))
      modify fun state => { state with frames := state.frames.drop 1 }
      match result with
      | .ok _ => return .unset
      | .error (.give value) => return value
      | .error jump => throw jump

def valueOfTerm (setting : Setting) (runner : Runner) (term : Term) : Running Value := do
  let value (term : Term) : Running Value := runner (.term term)
  match term with
  | .number number => return .number number
  | .text text => return .text text
  | .regex regex => return .ofBool (isFound regex (← textOf (← field 0)))
  | .variable name => valueOf name
  | .field index => field (← fieldNumber (← value index))
  | .element array keys =>
      let key ← keyOf (← keys.mapM value)
      cell (← arrayOf array) key
  | .group parts =>
      let values ← parts.mapM value
      return values.getLastD .unset
  | .assign target body =>
      let place ← targetOf runner target
      let result ← value body
      if let some place := place then place.set result
      return result
  | .change sum target body =>
      let some place ← targetOf runner target | return .unset
      let other ← value body
      let result := sumOf sum (← place.value) other
      place.set result
      return result
  | .count up before target =>
      let some place ← targetOf runner target | return .unset
      let number := (← place.value).toNumber
      let result := Value.number (if up then number + 1 else number - 1)
      place.set result
      return if before then result else .number number
  | .signed negative body =>
      let inner ← value body
      let number := inner.toNumber
      return .calculated [inner] (if negative then -number else number)
  | .opposite body => return .ofBool !(← value body).isTrue
  | .sum sum left right =>
      let first ← value left
      return sumOf sum first (← value right)
  | .compare order left right =>
      let first ← value left
      return .ofBool (← holds order first (← value right))
  | .joined left right =>
      let first ← textOf (← value left)
      return .text (first ++ (← textOf (← value right)))
  | .fits opposite text pattern =>
      let text ← textOf (← value text)
      let regex ← patternOf runner pattern
      return .ofBool (isFound regex text != opposite)
  | .member keys array =>
      let key ← keyOf (← keys.mapM value)
      return .ofBool ((← table (← arrayOf array)).find? key).isSome
  | .both left right =>
      if (← value left).isTrue then return .ofBool (← value right).isTrue else return .ofBool false
  | .either left right =>
      if (← value left).isTrue then return .ofBool true else return .ofBool (← value right).isTrue
  | .choice condition first second =>
      if (← value condition).isTrue then value first else value second
  | .call name arguments => useCall setting runner name arguments
  | .known function arguments => useKnown setting runner function arguments
  | .reading origin target => useReading setting runner origin target

def printOut (setting : Setting) (runner : Runner) (outlet : Option Outlet) (text : String) :
    Running Unit := do
  match outlet with
  | none => print text
  | some (.file behind name) =>
      printTo setting behind (← textOf (← runner (.term name))) text
  | some (.command command) => printToCommand (← textOf (← runner (.term command))) text

def turnLimit : Nat := 10000000

/-- Makes turns as long as there may be another one; at most a number of them. -/
def repeated : Nat → Running Bool → Running Unit
  | 0, _ => return
  | count + 1, turn => do
      if ← turn then repeated count turn

def turn (body : Running Unit) : Running Bool := do
  match ← attempt body with
  | .ok _ | .error .again => return true
  | .error .leave => return false
  | .error jump => throw jump

def forEach (body : String → Running Unit) : List String → Running Unit
  | [] => return
  | key :: keys => do
      if ← turn (body key) then forEach body keys

def makeStep (setting : Setting) (runner : Runner) (step : Step) : Running Unit := do
  let value (term : Term) : Running Value := runner (.term term)
  let make (step : Step) : Running Unit := do
    let _ ← runner (.step step)
  match step with
  | .nothing => return
  | .value term =>
      let _ ← value term
  | .print values outlet =>
      let ending ← sharedText "ORS"
      if values.isEmpty then printOut setting runner outlet ((← textOf (← field 0)) ++ ending)
      else
        let format := (← shared "OFMT").toText "%.6g"
        let texts ← values.mapM fun term => return (← value term).toText format
        printOut setting runner outlet ((← sharedText "OFS").intercalate texts ++ ending)
  | .printForm values outlet =>
      let (text, fault) ← formed "printf" (← values.mapM value)
      if !text.isEmpty ∨ fault.isNone then printOut setting runner outlet text
      if let some complaint := fault then fail complaint
  | .row steps => steps.forM make
  | .choice condition first second =>
      if (← value condition).isTrue then make first else make second
  | .loop condition body =>
      repeated turnLimit do
        if (← value condition).isTrue then turn (make body) else return false
  | .loopBehind body condition =>
      repeated turnLimit do
        if ← turn (make body) then return (← value condition).isTrue else return false
  | .loopOver first condition next body =>
      make first
      repeated turnLimit do
        let goes ←
          match condition with
          | some condition => pure (← value condition).isTrue
          | none => pure true
        if !goes then return false
        let more ← turn (make body)
        if more then make next
        return more
  | .each name array body =>
      let keys := (← table (← arrayOf array)).keys
      forEach (fun key => do
        setValue name (.seeming key)
        make body) keys
  | .leave => throw .leave
  | .again => throw .again
  | .nextRecord => throw .nextRecord
  | .nextFile => throw .nextFile
  | .exit code =>
      if let some term := code then
        let code := Value.wholeOf (← value term).toNumber
        modify fun state => { state with code := (code % 256).toNat }
      throw .exit
  | .give result =>
      match result with
      | some term => throw (.give (← value term))
      | none => throw (.give .unset)
  | .delete array keys =>
      let array ← arrayOf array
      if keys.isEmpty then setTable array Table.empty
      else
        let key ← keyOf (← keys.mapM value)
        setTable array ((← table array).remove key)

/-- Does what is to be done; at most `fuel` things are inside of each other. -/
def run (setting : Setting) : Nat → Runner
  | 0, _ => fail "function call nesting too deep"
  | fuel + 1, .term term => valueOfTerm setting (run setting fuel) term
  | fuel + 1, .step step => do
      makeStep setting (run setting fuel) step
      return .unset

def depthLimit : Nat := 100000

/-- Whether a rule with a number is for the record. -/
def selects (runner : Runner) (number : Nat) (selection : Selection) : Running Bool := do
  let isTrue (term : Term) : Running Bool := do
    return (← runner (.term term)).isTrue
  match selection with
  | .always => return true
  | .holding condition => isTrue condition
  | .between first last =>
      let goesOn := (← get).active.contains number
      if goesOn || (← isTrue first) then
        let stops ← isTrue last
        modify fun state =>
          let others := state.active.filter (· != number)
          { state with active := if stops then others else number :: others }
        return true
      else return false

def useRules (setting : Setting) (runner : Runner) : Running Unit := do
  for (rule, number) in setting.program.rules.zipIdx do
    if ← selects runner number rule.selection then
      match rule.steps with
      | some steps =>
          let _ ← runner (.step (.row steps))
      | none =>
          let _ ← runner (.step (.print [] none))

def useRecords (setting : Setting) (runner : Runner) : Nat → Running Unit
  | 0 => return
  | count + 1 => do
      match ← nextRecord setting fileLimit with
      | none => return
      | some text =>
          setRecord text
          match ← attempt (useRules setting runner) with
          | .ok _ | .error .nextRecord => useRecords setting runner count
          | .error .nextFile =>
              modify fun state => { state with current := none }
              useRecords setting runner count
          | .error jump => throw jump

/-- Runs a program from before the first record to behind the last one. -/
def wholeRun (setting : Setting) : Running Unit := do
  let runner := run setting depthLimit
  let program := setting.program
  let result ← attempt do
    for steps in program.before do
      let _ ← runner (.step (.row steps))
    if !(program.rules.isEmpty && program.behind.isEmpty) then
      useRecords setting runner turnLimit
  match result with
  | .ok _ | .error .exit =>
      modify fun state => { state with frames := [] }
      for steps in program.behind do
        let _ ← runner (.step (.row steps))
  | .error jump => throw jump

def finish (setting : Setting) : Running Unit := do
  let names := (← get).outlets.map (·.1)
  let waiting := (← get).waiting
  modify fun state => { state with waiting := [] }
  for name in names do
    let _ ← closeOutlet setting name
  modify fun state => { state with waiting := state.waiting ++ waiting }
  flush

/-- Runs a program with operands and variables that are set in front of it. -/
def perform (setting : Setting) (operands : List String) (settings : List (String × String)) :
    Ended :=
  let scene := setting.scene
  let words := scene.called :: operands
  let environment := scene.environment.map fun one => (one.1, Value.seeming one.2)
  let numbered := words.zipIdx.map fun (word, index) => (inBase 10 index, Value.seeming word)
  let values : List (String × Value) :=
    [("FS", .text " "), ("OFS", .text " "), ("ORS", .text "\n"), ("RS", .text "\n"),
      ("NR", .number 0), ("FNR", .number 0), ("FILENAME", .text ""), ("SUBSEP", .text "\x1c"),
      ("CONVFMT", .text "%.6g"), ("OFMT", .text "%.6g"), ("RSTART", .number 0),
      ("RLENGTH", .number (-1)), ("ARGC", .ofNat words.length)]
  let start : State :=
    { values
      tables := [("ENVIRON", ⟨environment, (environment.map (·.1)).reverse, [], true⟩),
        ("ARGV", ⟨numbered, (numbered.map (·.1)).reverse, [], true⟩)]
      frames := [], made := 0, record := .seeming "", fields := [], operand := 1, current := none
      finished := false, input := Supply.ofText scene.input.text, supplies := [], outlets := []
      active := [], files := scene.files, waiting := [], written := [], seed := .number 0
      code := 0 }
  let work : Running Unit := do
    for (name, text) in settings do
      assign name text
    wholeRun setting
  let (result, state) := work.run start
  let fault : Option String := match result with
    | .error (.fault complaint) => some complaint
    | _ => none
  let told := match fault with
    | some complaint => (Stream.errors, s!"{scene.called}: {complaint}\n") :: state.written
    | none => state.written
  let (_, state) := (finish setting).run { state with written := told }
  let code := if fault.isSome then 2 else state.code
  let left := if state.current.isSome || state.finished then { scene.input with text := "" }
    else scene.input
  ⟨.exited code, state.written.reverse, left, state.files⟩

end SqlColumns.Shell.Records
