import SqlColumns.Shell.Report
import SqlColumns.Shell.Tools.Printing

/-!
# Programs on columns

The small programs that work on parts of lines: they cut parts out, put lines beside each other,
break lines, and exchange tabs and spaces.
-/

set_option autoImplicit false

namespace SqlColumns.Shell.Tools

/-- Numbers from one to another one, or from one on. -/
structure Span where
  first : Nat
  last : Option Nat
  deriving DecidableEq, Repr

def Span.holds (span : Span) (number : Nat) : Bool :=
  span.first ≤ number && span.last.all (number ≤ ·)

/-- What is known of a span that is being read: its first number behind a dash, and the number so
far. -/
structure SpanReading where
  dashed : Option (Option Nat)
  number : Option Nat

/-- The words of complaints about spans: what is numbered, what a number is called, and what a range
is. -/
structure SpanWords where
  numbered : String
  value : String
  range : String

def SpanReading.finish (words : SpanWords) (reading : SpanReading) : Except String Span :=
  match reading.dashed, reading.number with
  | none, none | none, some 0 => .error words.numbered
  | none, some number => .ok ⟨number, some number⟩
  | some none, none => .error "invalid range with no endpoint: -"
  | some first, none => .ok ⟨first.getD 1, none⟩
  | some first, some last =>
      if last < first.getD 1 then .error "invalid decreasing range"
      else .ok ⟨first.getD 1, some last⟩

def readSpans (words : SpanWords) : SpanReading → List Char → Except String (List Span)
  | reading, [] => do return [← reading.finish words]
  | reading, c :: rest =>
      if c = ',' ∨ c = ' ' ∨ c = '\t' then do
        let span ← reading.finish words
        return span :: (← readSpans words ⟨none, none⟩ rest)
      else if c = '-' then
        if reading.dashed.isSome then .error words.range
        else if reading.number = some 0 then .error words.numbered
        else readSpans words ⟨some reading.number, none⟩ rest
      else
        match digitValue? c with
        | some digit =>
            if digit < 10 then
              let number := reading.number.getD 0 * 10 + digit
              readSpans words { reading with number := some number } rest
            else .error s!"{words.value} {cited (String.ofList (c :: rest))}"
        | none => .error s!"{words.value} {cited (String.ofList (c :: rest))}"

def joinSpans (spans : List Span) : List Span :=
  let sorted := spans.mergeSort fun left right => decide (left.first ≤ right.first)
  (sorted.foldl (fun kept span =>
    match kept with
    | before :: others =>
        if before.last.all (span.first ≤ ·) then
          let last := match before.last, span.last with
            | some left, some right => some (max left right)
            | _, _ => none
          ⟨before.first, last⟩ :: others
        else span :: kept
    | [] => [span]) []).reverse

def otherSpans : Nat → List Span → List Span
  | start, [] => [⟨start, none⟩]
  | start, span :: rest =>
      let front := if start < span.first then [⟨start, some (span.first - 1)⟩] else []
      match span.last with
      | some last => front ++ otherSpans (last + 1) rest
      | none => front

def partsOf (zero : Bool) (text : String) : List String :=
  if zero then
    let parts := text.splitOn "\x00"
    if parts.getLast? = some "" then parts.dropLast else parts
  else plainLines text

/-- Prints the parts of lines in spans: characters or fields. -/
def cut : Utility :=
  withOptions 1 ⟨"b:c:d:f:nszCo:", [("bytes", 'b'), ("characters", 'c'), ("delimiter", 'd'),
    ("fields", 'f'), ("only-delimited", 's'), ("zero-terminated", 'z'), ("complement", 'C'),
    ("output-delimiter", 'o')]⟩ false fun scene choices names =>
      let lists := choices.filter fun choice => "bcf".toList.contains choice.letter
      let mark := valueOf? choices 'd'
      let fields := lists.any (·.letter = 'f')
      let words : SpanWords :=
        if fields then
          ⟨"fields are numbered from 1", "invalid field value", "invalid field range"⟩
        else
          ⟨"byte/character positions are numbered from 1", "invalid byte/character position",
            "invalid byte or character range"⟩
      match lists with
      | [] => scene.misuse 1 "you must specify a list of bytes, characters, or fields"
      | _ :: _ :: _ => scene.misuse 1 "only one list may be specified"
      | [list] =>
          if mark.any fun mark => 1 < mark.length then
            scene.misuse 1 "the delimiter must be a single character"
          else if !fields ∧ mark.isSome then
            scene.misuse 1 "an input delimiter may be specified only when operating on fields"
          else if !fields ∧ given choices 's' then
            scene.misuse 1 ("suppressing non-delimited lines makes sense\n" ++
              "\tonly when operating on fields")
          else
            match readSpans words ⟨none, none⟩ (list.value.getD "").toList with
            | .error complaint => scene.misuse 1 complaint
            | .ok spans =>
                let spans := joinSpans spans
                let spans := if given choices 'C' then otherSpans 1 spans else spans
                let wanted (number : Nat) : Bool := spans.any fun span => span.holds number
                let mark := if mark = some "" then "\x00" else mark.getD "\t"
                let between := (valueOf? choices 'o').getD (if fields then mark else "")
                let starts (number : Nat) : Bool := spans.any fun span => span.first == number
                let shown (line : String) : Option String :=
                  if fields then
                    let cells := line.splitOn mark
                    if cells.length < 2 then if given choices 's' then none else some line
                    else
                      let kept := cells.zipIdx.filter fun cell => wanted (cell.2 + 1)
                      some (between.intercalate (kept.map (·.1)))
                  else
                    let kept := line.toList.zipIdx.filter fun one => wanted (one.2 + 1)
                    some (String.join (kept.zipIdx.map fun ((c, place), index) =>
                      (if index ≠ 0 ∧ starts (place + 1) then between else "") ++
                        String.singleton c))
                let zero := given choices 'z'
                let readings := scene.readings asIs names
                let ending := if zero then "\x00" else "\n"
                let all (text : String) : String :=
                  String.join (((partsOf zero text).filterMap shown).map (· ++ ending))
                (scene.shownEach 1 readings all).afterReadingOf names

def marksOf : List Char → List String
  | '\\' :: c :: rest =>
      (match c with
        | '0' => ""
        | 'n' => "\n"
        | 't' => "\t"
        | 'b' => "\x08"
        | 'f' => "\x0c"
        | 'r' => "\r"
        | 'v' => "\x0b"
        | _ => String.singleton c) :: marksOf rest
  | c :: rest => String.singleton c :: marksOf rest
  | [] => []

/-- Lines of files where one that is named several times gives its lines in turn. -/
def sharedLines (readings : List (String × List String)) : List (List String) :=
  readings.zipIdx.map fun ((name, lines), index) =>
    if name = "-" then
      let places := (readings.zipIdx.filter fun one => one.1.1 = "-").map (·.2)
      let turn := (places.idxOf? index).getD 0
      let all := (readings.find? fun one => one.1 = "-").map (·.2) |>.getD lines
      (all.zipIdx.filter fun one => one.2 % places.length = turn).map (·.1)
    else lines

def withMarks (marks : List String) (texts : List String) : String :=
  String.join (texts.zipIdx.map fun (text, index) =>
    (if index = 0 then "" else marks.getD ((index - 1) % marks.length) "") ++ text)

def paste : Utility :=
  withOptions 1 ⟨"d:sz", [("delimiters", 'd'), ("serial", 's'), ("zero-terminated", 'z')]⟩ false
    fun scene choices names =>
      let marks := match marksOf ((valueOf? choices 'd').getD "\t").toList with
        | [] => [""]
        | marks => marks
      let zero := given choices 'z'
      let ending := if zero then "\x00" else "\n"
      let names := if names.isEmpty then ["-"] else names
      let readings := scene.readings asIs names
      let complaints := complaintsIn readings
      let lines := (textsIn readings).map fun one => (one.1, partsOf zero one.2)
      if given choices 's' then
        let row (text : String) : String := withMarks marks (partsOf zero text) ++ ending
        (scene.shownEach 1 readings row).afterReadingOf names
      else
        match complaints with
        | complaint :: _ => scene.ended 1 "" complaint
        | [] =>
            let columns := sharedLines lines
            let height := (columns.map List.length).foldl max 0
            let rows := (List.range height).map fun row =>
              withMarks marks (columns.map fun column => column.getD row "") ++ ending
            (scene.success (String.join rows)).afterReadingOf names

def columnBehind (bytes : Bool) (column : Nat) (c : Char) : Nat :=
  if bytes then column + 1
  else if c = '\x08' then column - 1
  else if c = '\r' then 0
  else if c = '\t' then column + 8 - column % 8
  else column + 1

/-- Text broken into lines that are not wider than some columns, behind the last blank if asked to:
`line` is the line so far, backwards. -/
def broken (width : Nat) (bytes spaces : Bool) : Nat → List Char → Nat → List Char → String
  | 0, line, _, _ => String.ofList line.reverse
  | _, line, _, [] => String.ofList line.reverse
  | fuel + 1, line, column, c :: rest =>
      if c = '\n' then
        String.ofList ('\n' :: line).reverse ++ broken width bytes spaces fuel [] 0 rest
      else
        let next := columnBehind bytes column c
        if width < next ∧ !line.isEmpty then
          let behind := line.takeWhile fun c => !(c == ' ' || c == '\t')
          if spaces ∧ behind.length < line.length then
            let front := (line.drop behind.length).reverse
            let column := behind.reverse.foldl (columnBehind bytes) 0
            String.ofList front ++ "\n" ++
              broken width bytes spaces fuel behind column (c :: rest)
          else
            String.ofList line.reverse ++ "\n" ++ broken width bytes spaces fuel [] 0 (c :: rest)
        else broken width bytes spaces fuel (c :: line) next rest

/-- Words in which a number behind a dash is an option of its own. -/
def spelledWidth (letter : String) (words : List String) : List String :=
  words.map fun word =>
    match word.toList with
    | '-' :: c :: rest => if c.isDigit then s!"-{letter}" ++ String.ofList (c :: rest) else word
    | _ => word

def fold : Utility := fun scene words =>
  withOptions 1 ⟨"bsw:", [("bytes", 'b'), ("spaces", 's'), ("width", 'w')]⟩ false
    (fun scene choices names =>
      let text := (valueOf? choices 'w').getD "80"
      match count? text with
      | none => scene.failure 1 s!"invalid number of columns: {cited text}"
      | some 0 =>
          scene.failure 1 s!"invalid number of columns: {cited text}: Numerical result out of range"
      | some width =>
          let readings := scene.readings asIs names
          let shown (text : String) : String :=
            let steps := 3 * text.length + 3
            broken width (given choices 'b') (given choices 's') steps [] 0 text.toList
          (scene.shownEach 1 readings shown).afterReadingOf names)
    scene (spelledWidth "w" words)

/-- The column of the next stop behind a column: the stops that are told, or each multiple of the
only one. -/
def nextStop (stops : List Nat) (column : Nat) : Nat :=
  match stops with
  | [size] => (column / size + 1) * size
  | _ => (stops.find? (column < ·)).getD (column + 1)

def stopsOf? (text : String) : Option (List Nat) :=
  let plain := String.ofList (text.toList.map fun c => if c = ',' then ' ' else c)
  ((plain.splitOn " ").filter (· != "")).mapM fun word =>
    (count? word).filter (0 < ·)

/-- Text with spaces for tabs, only those in front of lines or all. -/
def expanded (stops : List Nat) (onlyFront : Bool) (text : String) : String :=
  let (shown, _, _) := text.toList.foldl
    (fun ((shown, column, front) : List Char × Nat × Bool) c =>
      if c = '\n' then (c :: shown, 0, true)
      else if c = '\t' ∧ (front ∨ !onlyFront) then
        let stop := nextStop stops column
        (List.replicate (stop - column) ' ' ++ shown, stop, front)
      else (c :: shown, columnBehind false column c, front && (c == ' ' || c == '\t')))
    ([], 0, true)
  String.ofList shown.reverse

def expand : Utility := fun scene words =>
  withOptions 1 ⟨"it:", [("initial", 'i'), ("tabs", 't')]⟩ false (fun scene choices names =>
    let text := (valueOf? choices 't').getD "8"
    match stopsOf? text with
    | none =>
        let reason := if text.toList.all fun c => c.isDigit || c == ',' || c == ' ' then
            "tab size cannot be 0"
          else s!"tab size contains invalid character(s): {cited text}"
        scene.failure 1 reason
    | some stops =>
        let readings := scene.readings asIs names
        let shown := expanded stops (given choices 'i')
        (scene.shownEach 1 readings shown).afterReadingOf names)
    scene (spelledWidth "t" words)

/-- Text of blanks from one column to another one, with tabs as far as they go; a single space
stays. -/
def blanksBetween (stops : List Nat) : Nat → Nat → Nat → String
  | 0, _, _ => ""
  | fuel + 1, start, stop =>
      if stop ≤ start then ""
      else
        let next := nextStop stops start
        if next ≤ stop then "\t" ++ blanksBetween stops fuel next stop
        else "".pushn ' ' (stop - start)

/-- A line with tabs for spaces, in front of it or everywhere; `column` is where the text stands. -/
def contracted (stops : List Nat) (everywhere : Bool) : Nat → Nat → List Char → String
  | 0, _, text => String.ofList text
  | _, _, [] => ""
  | fuel + 1, column, c :: rest =>
      if c = ' ' ∨ c = '\t' then
        let blanks := (c :: rest).takeWhile fun c => c == ' ' || c == '\t'
        let stop := blanks.foldl (fun column c =>
          if c = '\t' then nextStop stops column else column + 1) column
        let behind := (c :: rest).drop blanks.length
        let shown := if blanks = [' '] ∧ column ≠ 0 then " "
          else blanksBetween stops (stop - column + 1) column stop
        if everywhere then shown ++ contracted stops true fuel stop behind
        else shown ++ String.ofList behind
      else if everywhere then
        String.singleton c ++ contracted stops true fuel (columnBehind false column c) rest
      else String.ofList (c :: rest)

def unexpand : Utility := fun scene words =>
  withOptions 1 ⟨"at:F", [("all", 'a'), ("tabs", 't'), ("first-only", 'F')]⟩ false
    (fun scene choices names =>
      match stopsOf? ((valueOf? choices 't').getD "8") with
      | none =>
          let text := cited ((valueOf? choices 't').getD "")
          scene.failure 1 s!"tab size contains invalid character(s): {text}"
      | some stops =>
          let everywhere := (given choices 'a' || given choices 't') && !given choices 'F'
          let readings := scene.readings asIs names
          let shown (text : String) : String :=
            String.join ((linesOf text).map fun line =>
              contracted stops everywhere (line.length + 1) 0 line.toList)
          (scene.shownEach 1 readings shown).afterReadingOf names)
    scene (spelledWidth "t" words)

end SqlColumns.Shell.Tools
