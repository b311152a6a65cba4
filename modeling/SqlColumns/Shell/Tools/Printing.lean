import SqlColumns.Shell.Condition
import SqlColumns.Shell.Printf
import SqlColumns.Text.Timestamp

/-!
# Programs that print

The small programs that print what they are told: words, words by a format, numbers, parts of paths,
and moments.
-/

set_option autoImplicit false

namespace SqlColumns.Shell.Tools

def idle (code : Nat) : Utility := fun scene _ => scene.ended code "" ""

def missingOperand (code : Nat) (kind : String) : Utility := fun scene _ =>
  scene.misuse code s!"missing {kind}"

def extraOperand (code : Nat) (operand : String) : Utility := fun scene _ =>
  scene.misuse code s!"extra operand {quoted operand}"

def sleep : Utility := fun scene words =>
  if words.isEmpty then missingOperand 1 "operand" scene words
  else
    match words.filter fun word => (pauseOf? [word]).isNone with
    | [] =>
        let length := (pauseOf? words).getD 0
        { scene.success "" with written := [(.clock length, "")] }
    | wrong =>
        let complaints := wrong.map fun word =>
          s!"{scene.called}: invalid time interval {quoted word}\n"
        scene.ended 1 "" (String.join complaints ++ scene.hint)

/-- How complaints about the words of a format are worded. -/
def dialect (called : String) : Printf.Dialect :=
  let complaint (text : String) : String := s!"{called}: {text}\n"
  { noNumber := fun word => complaint s!"{quoted word}: expected a numeric value"
    partly := fun word => complaint s!"{quoted word}: value not completely converted"
    tooBig := fun word => complaint s!"{quoted word}: Numerical result out of range"
    invalid := fun slot => complaint s!"{slot}: invalid conversion specification"
    unfinished := fun text => complaint s!"{text}: invalid conversion specification"
    rich := true }

def printf : Utility := fun scene words =>
  let words := if words.head? = some "--" then words.drop 1 else words
  match words with
  | [] => missingOperand 1 "operand" scene words
  | format :: words =>
      let progress := Printf.run (dialect scene.called) format words
      let excess :=
        if progress.stopped then []
        else
          match progress.words with
          | first :: _ =>
              let reason := s!"ignoring excess arguments, starting with {quoted first}"
              [s!"{scene.called}: warning: {reason}\n"]
          | [] => []
      let complaints := progress.complaints ++ progress.fault.toList
      scene.ended (if complaints.isEmpty then 0 else 1) progress.output
        (String.join (complaints ++ excess))

/-- Text with its escapes read, hexadecimal digits among them, up to one that stops it. The text is
read as far as `fuel` steps. -/
def unescapeAll : Nat → List Char → List Char × Bool
  | 0, _ | _, [] => ([], false)
  | fuel + 1, '\\' :: 'x' :: rest =>
      match Printf.readHexEscape 2 rest with
      | some (value, behind) =>
          let (text, stopped) := unescapeAll fuel behind
          (Char.ofNat value :: text, stopped)
      | none =>
          let (text, stopped) := unescapeAll fuel rest
          ('\\' :: 'x' :: text, stopped)
  | _ + 1, '\\' :: 'c' :: _ => ([], true)
  | fuel + 1, '\\' :: rest =>
      let (c, behind) :=
        match rest with
        | '0' :: digits => readOctal 3 0 digits
        | _ => readEscape rest
      let (text, stopped) := unescapeAll fuel behind
      (c :: text, stopped)
  | fuel + 1, c :: rest =>
      let (text, stopped) := unescapeAll fuel rest
      (c :: text, stopped)

def echo : Utility := fun scene words =>
  let isFlag (word : String) : Bool :=
    match word.toList with
    | '-' :: c :: rest => (c :: rest).all "neE".toList.contains
    | _ => false
  let flags := (words.takeWhile isFlag).flatMap fun word => word.toList.drop 1
  let text := " ".intercalate (words.dropWhile isFlag)
  let escapes := (flags.filter (· != 'n')).getLast? = some 'e'
  let (shown, stopped) :=
    if escapes then
      let (shown, stopped) := unescapeAll (text.length + 1) text.toList
      (String.ofList shown, stopped)
    else (text, false)
  scene.success (if flags.contains 'n' || stopped then shown else shown ++ "\n")

def folderOf (scene : Scene) : String :=
  Octets.ofText (FileSystem.pathTo scene.files.current).text

def printFolder : Utility :=
  withOptions 1 ⟨"LP", [("logical", 'L'), ("physical", 'P')]⟩ false fun scene choices operands =>
    let ignored := if operands.isEmpty then ""
      else s!"{scene.called}: ignoring non-option arguments\n"
    let logical := (scene.textOf? "PWD").filter fun path =>
      path.startsWith "/" &&
        (scene.files.locate (pathOf path)).toOption == some scene.files.current
    let folder :=
      if lastOf? choices "LP" = some 'L' then logical.getD (folderOf scene) else folderOf scene
    scene.ended 0 (folder ++ "\n") ignored

/-- A decimal number: a whole number of units of which ten to a power make one. -/
structure Scaled where
  units : Int
  places : Nat
  width : Nat
  deriving DecidableEq, Repr

def scaled? (word : String) : Option Scaled :=
  let (negative, rest) := readSign word.toList
  let whole := rest.takeWhile Char.isDigit
  let behind := rest.drop whole.length
  let read (places behind : List Char) : Option Scaled :=
    if (whole.isEmpty ∧ places.isEmpty) ∨ !behind.isEmpty then none
    else
      let units : Int := digitsValue (whole ++ places)
      some ⟨if negative then -units else units, places.length, word.length⟩
  match behind with
  | '.' :: more =>
      let places := more.takeWhile Char.isDigit
      read places (more.drop places.length)
  | _ => read [] behind

/-- The units of a number when there are more places. -/
def Scaled.at (number : Scaled) (places : Nat) : Int :=
  number.units * (Nat.pow 10 (places - number.places) : Nat)

def unitsText (places : Nat) (units : Int) : String :=
  (if units < 0 then "-" else "") ++ Floating.fixed false places units.natAbs (Nat.pow 10 places)

/-- Numbers from the first to the last by a step; `count` bounds them. -/
def numbers : Nat → Int → Int → Int → List Int
  | 0, _, _, _ => []
  | count + 1, first, step, last =>
      if (0 < step ∧ first ≤ last) ∨ (step < 0 ∧ last ≤ first) then
        first :: numbers count (first + step) step last
      else []

def zeroPadded (width : Nat) (text : String) : String :=
  match text.toList with
  | '-' :: digits => "-" ++ "".pushn '0' (width - 1 - digits.length) ++ String.ofList digits
  | digits => "".pushn '0' (width - digits.length) ++ String.ofList digits

/-- Words that a sign of a number makes look like options. -/
def isNegative (word : String) : Bool :=
  match word.toList with
  | '-' :: c :: _ => c.isDigit || c == '.'
  | _ => false

def seq : Utility := fun scene words =>
  let front := words.takeWhile fun word => !isNegative word
  let grammar : Grammar :=
    ⟨"s:wf:", [("separator", 's'), ("equal-width", 'w'), ("format", 'f')]⟩
  match grammar.read true front with
  | .error complaint => scene.misuse 1 complaint
  | .ok (choices, operands) =>
      let operands := operands ++ words.drop front.length
      match operands with
      | [] => missingOperand 1 "operand" scene words
      | _ :: _ :: _ :: extra :: _ => extraOperand 1 extra scene words
      | _ =>
          match operands.find? fun word => (scaled? word).isNone with
          | some word => scene.misuse 1 s!"invalid floating point argument: {quoted word}"
          | none =>
              let one : Scaled := ⟨1, 0, 1⟩
              let (first, step, last) :=
                match operands.filterMap scaled? with
                | [last] => (one, one, last)
                | [first, last] => (first, one, last)
                | first :: step :: last :: _ => (first, step, last)
                | [] => (one, one, one)
              if step.units = 0 then
                let word := (operands[1]?).getD "0"
                scene.misuse 1 s!"invalid Zero increment value: {quoted word}"
              else
                let places := max first.places step.places
                let shared := max places last.places
                let least := first.at shared
                let most := last.at shared
                let stride := step.at shared
                let count := ((most - least) / stride).toNat + 1
                let values := numbers count least stride most
                let shown (value : Int) : String :=
                  match valueOf? choices 'f' with
                  | some format =>
                      (Printf.run (dialect scene.called) format [unitsText shared value]).output
                  | none =>
                      let unit := Nat.pow 10 (shared - places)
                      unitsText places (value.tdiv unit)
                let texts := values.map shown
                let unit := Nat.pow 10 (shared - places)
                let width := ([first, last].map fun number =>
                  (unitsText places ((number.at shared).tdiv unit)).length).foldl max 0
                let texts := if given choices 'w' then texts.map (zeroPadded width) else texts
                let separator := (valueOf? choices 's').getD "\n"
                scene.success
                  (if texts.isEmpty then "" else separator.intercalate texts ++ "\n")

/-- Prints its words again and again, until nobody reads any more. -/
def yes : Utility := fun scene words =>
  let words := if words.head? = some "--" then words.drop 1 else words
  let line := (if words.isEmpty then "y" else " ".intercalate words) ++ "\n"
  let count := 65536 / line.length + 1
  { scene.success (String.join (List.replicate count line)) with status := .killed 13 }

def withoutSlashes (name : String) : List Char :=
  (name.toList.reverse.dropWhile (· == '/')).reverse

def lastName (name ending : String) : String :=
  let body := withoutSlashes name
  let last := (body.reverse.takeWhile (· != '/')).reverse
  if body.isEmpty then if name.isEmpty then "" else "/"
  else
    let ending := ending.toList
    if ending.isSuffixOf last && ending != last then
      String.ofList (last.take (last.length - ending.length))
    else String.ofList last

def basename : Utility :=
  withOptions 1 ⟨"as:z", [("multiple", 'a'), ("suffix", 's'), ("zero", 'z')]⟩ true
    fun scene choices operands =>
      let ending := if given choices 'z' then "\x00" else "\n"
      let several := given choices 'a' || given choices 's'
      match operands with
      | [] => missingOperand 1 "operand" scene operands
      | name :: rest =>
          if several then
            let suffix := (valueOf? choices 's').getD ""
            scene.success (String.join (operands.map fun name => lastName name suffix ++ ending))
          else
            match rest with
            | _ :: extra :: _ => extraOperand 1 extra scene operands
            | _ => scene.success (lastName name (rest.headD "") ++ ending)

/-- The path of the directory that a path lies in. -/
def folderName (name : String) : String :=
  let front := ((withoutSlashes name).reverse.dropWhile (· != '/')).dropWhile (· == '/')
  if !front.isEmpty then String.ofList front.reverse
  else if name.startsWith "/" then "/"
  else "."

def dirname : Utility :=
  withOptions 1 ⟨"z", [("zero", 'z')]⟩ false fun scene choices operands =>
    let ending := if given choices 'z' then "\x00" else "\n"
    if operands.isEmpty then missingOperand 1 "operand" scene operands
    else scene.success (String.join (operands.map fun name => folderName name ++ ending))

/-- Says whether its words say something true; the last of them has to be a bracket where one is
opened. -/
def test (bracket : Bool) : Utility := fun scene words =>
  if bracket ∧ words.getLast? ≠ some "]" then scene.failure 2 "missing ']'"
  else
    let words := if bracket then words.dropLast else words
    match Condition.holds scene words with
    | .ok holds => scene.ended (if holds then 0 else 1) "" ""
    | .error (.noNumber word) => scene.failure 2 s!"invalid integer {quoted word}"
    | .error (.missing sign) => scene.failure 2 s!"missing argument after {quoted sign}"
    | .error .unclosed => scene.failure 2 "')' expected"
    | .error (.unexpected word) =>
        match words with
        | [_, last] => scene.failure 2 s!"missing argument after {quoted last}"
        | [_, middle, _] => scene.failure 2 s!"{quoted middle}: binary operator expected"
        | _ =>
            let behind := (words.dropWhile (· != word)).drop 1
            scene.failure 2 s!"extra argument {quoted (behind.headD word)}"

end SqlColumns.Shell.Tools
