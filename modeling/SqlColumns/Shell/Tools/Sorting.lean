import SqlColumns.Shell.Floating
import SqlColumns.Shell.Report
import SqlColumns.Shell.Tools.Printing

/-!
# Programs on lines in order

The small programs that put lines in order, and those that need lines in order: they compare by
keys, which are parts of lines, or by whole lines.
-/

set_option autoImplicit false

namespace SqlColumns.Shell.Tools

def isBlankChar (c : Char) : Bool :=
  c == ' ' || c == '\t' || c == '\n'

/-- How keys are compared: as numbers of some kind, without blanks in front, without case, without
marks, without what does not print, and backwards. -/
structure KeyOrder where
  kind : Option Char
  skipsFront : Bool
  skipsEnd : Bool
  folds : Bool
  plain : Bool
  printing : Bool
  backwards : Bool
  deriving DecidableEq, Repr

def KeyOrder.usual : KeyOrder := ⟨none, false, false, false, false, false, false⟩

/-- A key: from a field and a character of it up to others. -/
structure SortKey where
  startField : Nat
  startChar : Nat
  endField : Option Nat
  endChar : Nat
  order : KeyOrder
  deriving Repr

def behindFields (mark : Option Char) : Nat → List Char → List Char
  | 0, text => text
  | count + 1, text =>
      match mark with
      | some mark => behindFields (some mark) count ((text.dropWhile (· != mark)).drop 1)
      | none =>
          let field := (text.dropWhile isBlankChar).dropWhile fun c => !isBlankChar c
          behindFields none count field

def endOfField (mark : Option Char) (field : Nat) (text : List Char) : Nat :=
  let front := behindFields mark field text
  let rest := match mark with
    | some mark => front.dropWhile (· != mark)
    | none => (front.dropWhile isBlankChar).dropWhile fun c => !isBlankChar c
  text.length - rest.length

def SortKey.of (key : SortKey) (mark : Option Char) (line : List Char) : List Char :=
  let front := behindFields mark key.startField line
  let front := if key.order.skipsFront then front.dropWhile isBlankChar else front
  let start := min line.length (line.length - front.length + key.startChar)
  let stop := match key.endField with
    | none => line.length
    | some field =>
        if key.endChar = 0 then endOfField mark field line
        else
          let behind := behindFields mark field line
          let behind := if key.order.skipsEnd then behind.dropWhile isBlankChar else behind
          min line.length (line.length - behind.length + key.endChar)
  (line.take stop).drop start

def compareChars (left right : List Char) : Ordering :=
  compareOfLessAndEq (String.ofList left) (String.ofList right)

/-- The decimal number in front of a text: its sign and digits before and behind the point. -/
def plainDecimal (text : List Char) : Scaled :=
  let text := text.dropWhile isBlankChar
  let negative := text.head? = some '-'
  let unsigned := if negative then text.drop 1 else text
  let whole := unsigned.takeWhile Char.isDigit
  let places := match unsigned.drop whole.length with
    | '.' :: rest => rest.takeWhile Char.isDigit
    | _ => []
  let units : Int := digitsValue (whole ++ places)
  ⟨if negative then -units else units, places.length, 0⟩

def compareDecimals (left right : Scaled) : Ordering :=
  let places := max left.places right.places
  compareOfLessAndEq (left.at places) (right.at places)

def unitRank (text : List Char) : Nat :=
  let text := text.dropWhile isBlankChar
  let text := if text.head? = some '-' then text.drop 1 else text
  match (text.dropWhile fun c => c.isDigit || c == '.').head? with
  | some 'k' | some 'K' => 1
  | some 'M' => 2
  | some 'G' => 3
  | some 'T' => 4
  | some 'P' => 5
  | some 'E' => 6
  | _ => 0

def compareSizes (left right : List Char) : Ordering :=
  let signed (text : List Char) : Int × Scaled :=
    let value := plainDecimal text
    let rank : Int := unitRank text
    (if value.units < 0 then -rank - 1 else if value.units = 0 then 0 else rank + 1, value)
  let first := signed left
  let second := signed right
  match compareOfLessAndEq first.1 second.1 with
  | .eq => compareDecimals first.2 second.2
  | order => order

def compareFloats (left right : List Char) : Ordering :=
  match Floating.leading? left, Floating.leading? right with
  | none, none => .eq
  | none, some _ => .lt
  | some _, none => .gt
  | some (first, _), some (second, _) =>
      if first < second then .lt else if second < first then .gt else .eq

def monthRank (text : List Char) : Nat :=
  let months := ["jan", "feb", "mar", "apr", "may", "jun", "jul", "aug", "sep", "oct", "nov", "dec"]
  let name := String.ofList (((text.dropWhile isBlankChar).take 3).map Char.toLower)
  match months.idxOf? name with
  | some index => index + 1
  | none => 0

/-- The order of a character in versions: tildes first, then ends, letters, and all others. -/
def versionRank (c : Char) : Int :=
  if c.isDigit then 0
  else if c.isAlpha then c.toNat
  else if c = '~' then -1
  else c.toNat + 256

/-- Compares texts as versions: in turns parts without digits and numbers. At most `fuel` turns are
taken. -/
def compareVersions : Nat → List Char → List Char → Ordering
  | 0, _, _ => .eq
  | fuel + 1, left, right =>
      if left.isEmpty ∧ right.isEmpty then .eq
      else
        let isOther (c : Char) : Bool := !c.isDigit
        let first := left.takeWhile isOther
        let second := right.takeWhile isOther
        let length := max first.length second.length
        let ranks (text : List Char) : List Int :=
          text.map versionRank ++ List.replicate (length - text.length) 0
        let differing := ((ranks first).zip (ranks second)).find? fun one => one.1 != one.2
        match differing with
        | some (low, high) => compareOfLessAndEq low high
        | none =>
            let left := left.drop first.length
            let right := right.drop second.length
            let number := left.takeWhile Char.isDigit
            let other := right.takeWhile Char.isDigit
            match compareOfLessAndEq (digitsValue number) (digitsValue other) with
            | .eq =>
                compareVersions fuel (left.drop number.length) (right.drop other.length)
            | order => order

def KeyOrder.compare (order : KeyOrder) (left right : List Char) : Ordering :=
  let prepared (text : List Char) : List Char :=
    let text := if order.plain then
        text.filter fun c => c.isAlphanum || c == ' ' || c == '\t'
      else if order.printing then text.filter isShown
      else text
    if order.folds then text.map Char.toUpper else text
  let result := match order.kind with
    | some 'n' => compareDecimals (plainDecimal left) (plainDecimal right)
    | some 'g' => compareFloats left right
    | some 'h' => compareSizes left right
    | some 'M' => compareOfLessAndEq (monthRank left) (monthRank right)
    | some 'V' => compareVersions (left.length + right.length + 1) left right
    | _ => compareChars (prepared left) (prepared right)
  if order.backwards then result.swap else result

def KeyOrder.with (order : KeyOrder) (atEnd : Bool) (letters : List Char) : KeyOrder :=
  letters.foldl (fun order letter =>
    match letter with
    | 'b' => if atEnd then { order with skipsEnd := true } else { order with skipsFront := true }
    | 'd' => { order with plain := true }
    | 'f' => { order with folds := true }
    | 'i' => { order with printing := true }
    | 'r' => { order with backwards := true }
    | 'n' | 'g' | 'h' | 'M' | 'V' => { order with kind := some letter }
    | _ => order) order

/-- A place in a key: a field, a character in it, and letters; or a complaint. -/
def readPlace (kind whole : String) (zero : Bool) (text : List Char) :
    Except String (Nat × Option Nat × List Char) := do
  let digits := text.takeWhile Char.isDigit
  if digits.isEmpty then
    throw s!"invalid number {kind}: invalid count at start of {cited (String.ofList text)}"
  if digitsValue digits = 0 then
    throw s!"field number is zero: invalid field specification {cited whole}"
  match text.drop digits.length with
  | '.' :: rest =>
      let chars := rest.takeWhile Char.isDigit
      if chars.isEmpty then
        let rest := cited (String.ofList rest)
        throw s!"invalid number after '.': invalid count at start of {rest}"
      if digitsValue chars = 0 ∧ !zero then
        throw s!"character offset is zero: invalid field specification {cited whole}"
      return (digitsValue digits, some (digitsValue chars), rest.drop chars.length)
  | rest => return (digitsValue digits, none, rest)

def readKey (text : String) : Except String SortKey := do
  let letters := "bdfghiMnRrV".toList
  let (field, char, rest) ← readPlace "at field start" text false text.toList
  let first := rest.takeWhile letters.contains
  let order := KeyOrder.usual.with false first
  match rest.drop first.length with
  | [] => return ⟨field - 1, char.getD 1 - 1, none, 0, order⟩
  | ',' :: rest =>
      let (lastField, lastChar, rest) ← readPlace "after ','" text true rest
      let second := rest.takeWhile letters.contains
      if second.length < rest.length then
        throw s!"stray character in field spec: invalid field specification {cited text}"
      return ⟨field - 1, char.getD 1 - 1, some (lastField - 1), lastChar.getD 0,
        order.with true second⟩
  | _ => throw s!"stray character in field spec: invalid field specification {cited text}"

/-- How lines are put in order. -/
structure SortManner where
  mark : Option Char
  keys : List SortKey
  backwards : Bool
  stable : Bool
  unique : Bool

abbrev Keyed := List Char × List (List Char)

/-- Compares lines by their keys, and by all of them where the keys are the same. -/
def SortManner.compare (manner : SortManner) (left right : Keyed) : Ordering :=
  let differing := (manner.keys.zip (left.2.zip right.2)).findSome? fun one =>
    match one.1.order.compare one.2.1 one.2.2 with
    | .eq => none
    | order => some order
  match differing with
  | some order => order
  | none =>
      if !manner.keys.isEmpty ∧ (manner.stable ∨ manner.unique) then .eq
      else
        let order := compareChars left.1 right.1
        if manner.backwards then order.swap else order

def SortManner.keyed (manner : SortManner) (line : String) : Keyed :=
  (line.toList, manner.keys.map fun key => key.of manner.mark line.toList)

/-- Whether a line may stand in front of another one. -/
def SortManner.precedes (manner : SortManner) (left right : Keyed) : Bool :=
  manner.compare left right != .gt

/-- Lines in order, each of those that are alike once if they are to be unique. -/
def SortManner.once (manner : SortManner) (sorted : List Keyed) : List String :=
  let kept := if manner.unique then
      sorted.foldr (fun one kept =>
        match kept with
        | next :: rest => if manner.compare one next = .eq then one :: rest else one :: kept
        | [] => [one]) []
    else sorted
  kept.map fun one => String.ofList one.1

def SortManner.sort (manner : SortManner) (lines : List String) : List String :=
  manner.once ((lines.map manner.keyed).mergeSort manner.precedes)

def SortManner.merge (manner : SortManner) (parts : List (List String)) : List String :=
  manner.once (parts.foldl (fun merged lines =>
    merged.merge (lines.map manner.keyed) manner.precedes) [])

/-- The number and the text of the first line that is not in order. -/
def SortManner.disorder? (manner : SortManner) (lines : List String) : Option (Nat × String) :=
  let keyed := lines.map manner.keyed
  let pairs := (keyed.zip (keyed.drop 1)).zipIdx
  (pairs.find? fun one =>
    match manner.compare one.1.1 one.1.2 with
    | .gt => true
    | .eq => manner.unique
    | .lt => false).map fun one => (one.2 + 2, String.ofList one.1.2.1)

def zeroLines (text : String) : List String :=
  let parts := text.splitOn "\x00"
  if parts.getLast? = some "" then parts.dropLast else parts

/-- How lines are put in order by options, or a complaint. -/
def sortMannerOf (choices : List Choice) : Except String SortManner := do
  let letters := choices.map (·.letter)
  let global := KeyOrder.usual.with false (letters.filter "bdfghiMnRrV".toList.contains)
  let keys ← (valuesOf choices 'k').mapM readKey
  let shared := { global with skipsEnd := global.skipsFront }
  let keys := keys.map fun key =>
    if key.order = KeyOrder.usual then { key with order := shared } else key
  let keys := if keys.isEmpty ∧ { global with backwards := false } ≠ KeyOrder.usual then
      [⟨0, 0, none, 0, shared⟩]
    else keys
  let mark ← match valueOf? choices 't' with
    | none => pure none
    | some "" => throw "empty tab"
    | some "\\0" => pure (some '\x00')
    | some text =>
        match text.toList with
        | [c] => pure (some c)
        | _ => throw s!"multi-character tab {cited text}"
  let mixed (order : KeyOrder) : Bool := order.kind.isSome && (order.plain || order.printing)
  match keys.find? fun key => mixed key.order with
  | some key =>
      let names := (if key.order.plain then "d" else "") ++ (if key.order.printing then "i" else "")
      let kind := String.singleton (key.order.kind.getD 'n')
      let shown := if key.order.plain then names ++ kind else names ++ kind
      throw s!"options '-{shown}' are incompatible"
  | none => pure ()
  return ⟨mark, keys, global.backwards, given choices 's', given choices 'u'⟩

def sort : Utility :=
  withOptions 2 ⟨"bcCdfghik:mMno:rRsS:t:T:uVzXN:", [("ignore-leading-blanks", 'b'), ("check", 'c'),
    ("dictionary-order", 'd'), ("ignore-case", 'f'), ("general-numeric-sort", 'g'),
    ("human-numeric-sort", 'h'), ("ignore-nonprinting", 'i'), ("key", 'k'), ("merge", 'm'),
    ("month-sort", 'M'), ("numeric-sort", 'n'), ("output", 'o'), ("reverse", 'r'),
    ("random-sort", 'R'), ("stable", 's'), ("field-separator", 't'), ("unique", 'u'),
    ("version-sort", 'V'), ("zero-terminated", 'z'), ("buffer-size", 'S'), ("parallel", 'N')]⟩ false
    fun scene choices names =>
      match sortMannerOf choices with
      | .error complaint => scene.failure 2 complaint
      | .ok manner =>
          let checks := given choices 'c' || given choices 'C'
          let refused (_ : String) (_ : OsError) : String := ""
          let failure (name : String) (cause : OsError) : Ended :=
            let start := if cause = .isDirectory then "read failed"
              else if checks then "open failed" else "cannot read"
            scene.failure 2 s!"{start}: {plainlyQuoted name}: {plainMessage cause}"
          let missing := names.findSome? fun name =>
            if name = "-" then none
            else
              match scene.read name with
              | .ok _ => none
              | .error cause => some (name, cause)
          match missing, names with
          | _, first :: extra :: _ =>
              if checks then scene.failure 2 s!"extra operand {quoted extra} not allowed with -c"
              else
                match missing with
                | some (name, cause) => failure name cause
                | none => finish scene choices manner (first :: extra :: names.drop 2) refused
          | some (name, cause), _ => failure name cause
          | none, _ => finish scene choices manner names refused
where
  /-- What is printed when all can be read. -/
  finish (scene : Scene) (choices : List Choice) (manner : SortManner) (names : List String)
      (refused : String → OsError → String) : Ended :=
    let zero := given choices 'z'
    let texts := (textsIn (scene.readings refused names)).map (·.2)
    let lines := texts.flatMap fun text => if zero then zeroLines text else plainLines text
    if given choices 'c' || given choices 'C' then
      match manner.disorder? lines with
      | some (number, line) =>
          let name := plainlyQuoted (names.headD "-")
          let complaint := if given choices 'C' then "" else
            s!"{scene.called}: {name}:{inBase 10 number}: disorder: {line}\n"
          (scene.ended 1 "" complaint).afterReadingOf names
      | none => (scene.success "").afterReadingOf names
    else
      let parts := texts.map fun text => if zero then zeroLines text else plainLines text
      let sorted := if given choices 'm' then manner.merge parts else manner.sort lines
      let output := String.join (sorted.map (· ++ if zero then "\x00" else "\n"))
      match valueOf? choices 'o' with
      | none => (scene.success output).afterReadingOf names
      | some name =>
          match scene.write scene.files false name output with
          | .ok files => { (scene.success "").afterReadingOf names with files }
          | .error cause =>
              scene.failure 2 s!"open failed: {plainlyQuoted name}: {plainMessage cause}"

/-- Runs of lines that are alike, each with its first line and how many there are of them. -/
def runs (alike : String → String → Bool) (lines : List String) : List (List String) :=
  lines.foldr (fun line groups =>
    match groups with
    | (first :: group) :: rest =>
        if alike line first then (line :: first :: group) :: rest
        else [line] :: (first :: group) :: rest
    | _ => [line] :: groups) []

/-- Prints lines, each run of those that are alike once. -/
def unique : Utility :=
  withOptions 1 ⟨"cdDf:is:uw:zG::", [("count", 'c'), ("repeated", 'd'), ("all-repeated", 'D'),
    ("skip-fields", 'f'), ("ignore-case", 'i'), ("skip-chars", 's'), ("unique", 'u'),
    ("check-chars", 'w'), ("zero-terminated", 'z'), ("group", 'G')]⟩ false
    fun scene choices names =>
      let number (letter : Char) : Option Nat := (valueOf? choices letter).bind count?
      let wrong := "fsw".toList.find? fun letter =>
        (valueOf? choices letter).isSome && (number letter).isNone
      match wrong, names with
      | some letter, _ =>
          let what := match letter with
            | 'f' => "invalid number of fields to skip"
            | 's' => "invalid number of bytes to skip"
            | _ => "invalid number of bytes to compare"
          scene.failure 1 (cited ((valueOf? choices letter).getD "") ++ ": " ++ what)
      | none, _ :: _ :: extra :: _ => extraOperand 1 extra scene names
      | none, _ =>
          let has (letter : Char) : Bool := given choices letter
          let key (line : String) : List Char :=
            let field (text : List Char) : List Char :=
              (text.dropWhile isBlankChar).dropWhile fun c => !isBlankChar c
            let behind := (List.range ((number 'f').getD 0)).foldl (fun text _ => field text)
              line.toList
            let behind := behind.drop ((number 's').getD 0)
            let kept := match number 'w' with
              | some count => behind.take count
              | none => behind
            if has 'i' then kept.map Char.toLower else kept
          let input := names.headD "-"
          let reading : Except String String :=
            ((scene.readings asIs [input]).map (·.2)).headD (.ok "")
          match reading with
          | .ok text =>
              let lines := if has 'z' then zeroLines text else plainLines text
              let groups := runs (fun left right => key left == key right) lines
              let kept := groups.filter fun group =>
                let several := decide (1 < group.length)
                (!(has 'd' || has 'D') || several) && (!has 'u' || !several)
              let shown (group : List String) : List String :=
                if has 'D' || has 'G' then group
                else
                  let count := if has 'c' then padLeft 7 (inBase 10 group.length) ++ " " else ""
                  [count ++ group.headD ""]
              let ending := if has 'z' then "\x00" else "\n"
              let parts := kept.map fun group => String.join ((shown group).map (· ++ ending))
              let output := if has 'G' then ending.intercalate parts else String.join parts
              match names with
              | [_, target] =>
                  match scene.write scene.files false target output with
                  | .ok files => { (scene.success "").afterReadingOf [input] with files }
                  | .error cause =>
                      scene.failure 1 s!"{plainlyQuoted target}: {plainMessage cause}"
              | _ => (scene.success output).afterReadingOf [input]
          | .error complaint => scene.ended 1 "" complaint

/-- What comes out of two files in order: a line in a column, or the number of a file whose next
line is not in order. -/
inductive Row where
  | line (column : Nat) (text : String)
  | disorder (file : Nat)
  deriving DecidableEq, Repr

/-- Lines of two files in order, each with the column that it belongs to. At most `fuel` steps are
made, and `unpaired` says whether a line stood alone before. -/
def merged : Nat → Bool → List String → List String → List Row
  | 0, _, _, _ => []
  | fuel + 1, unpaired, lefts, rights =>
      let falls (unpaired : Bool) (file : Nat) (line : String) (rest : List String) : List Row :=
        if unpaired && rest.head?.any fun next => decide (next < line) then [.disorder file] else []
      let first (left : String) (lefts : List String) : List Row :=
        .line 1 left :: falls true 1 left lefts ++ merged fuel true lefts rights
      let second (right : String) (rights : List String) : List Row :=
        .line 2 right :: falls true 2 right rights ++ merged fuel true lefts rights
      match lefts, rights with
      | [], [] => []
      | left :: lefts, [] => first left lefts
      | [], right :: rights => second right rights
      | left :: lefts, right :: rights =>
          if left = right then
            .line 3 left :: falls unpaired 1 left lefts ++ falls unpaired 2 right rights ++
              merged fuel unpaired lefts rights
          else if left < right then first left lefts
          else second right rights

def twoOperands (names : List String) : Except (Scene → Ended) (String × String) :=
  match names with
  | [] => .error fun scene => missingOperand 1 "operand" scene []
  | [name] => .error fun scene => missingOperand 1 s!"operand after {quoted name}" scene []
  | [left, right] => .ok (left, right)
  | _ :: _ :: extra :: _ => .error fun scene => extraOperand 1 extra scene []

def compareSorted : Utility :=
  withOptions 1 ⟨"123o:CNtz", [("output-delimiter", 'o'), ("check-order", 'C'),
    ("nocheck-order", 'N'), ("total", 't')]⟩ false fun scene choices names =>
      match twoOperands names with
      | .error refuse => refuse scene
      | .ok (left, right) =>
          let readings := scene.readings asIs [left, right]
          match complaintsIn readings, (textsIn readings).map (·.2) with
          | [], [first, second] =>
              let lefts := plainLines first
              let rights := plainLines second
              let rows := merged (lefts.length + rights.length + 1) false lefts rights
              let mark := (valueOf? choices 'o').getD "\t"
              let hides (column : Nat) : Bool := given choices (Char.ofNat (48 + column))
              let front (column : Nat) : String :=
                let before := (List.range column).filter fun other =>
                  other != 0 && !hides other
                String.join (before.map fun _ => mark)
              let count (column : Nat) : String :=
                inBase 10 (rows.filter fun row => match row with
                  | .line other _ => other = column
                  | .disorder _ => false).length
              let complaint (text : String) : String := s!"{scene.called}: {text}\n"
              let report := rows.foldl (fun ((report, told) : Report × List Nat) row =>
                match row with
                | .line column text =>
                    (if hides column then report else report.print (front column ++ text ++ "\n"),
                      told)
                | .disorder file =>
                    if told.contains file || given choices 'N' then (report, told)
                    else
                      (report.complain
                        (complaint s!"file {inBase 10 file} is not in sorted order"), file :: told))
                (⟨[], false⟩, [])
              let total := if given choices 't' then
                  mark.intercalate [count 1, count 2, count 3, "total"] ++ "\n"
                else ""
              let report := report.1.print total
              let report := if report.failed then
                  report.complain (complaint "input is not in sorted order")
                else report
              (report.ended scene 1).afterReadingOf names
          | complaint :: _, _ => scene.ended 1 "" complaint
          | _, _ => scene.success ""

/-- How lines of two files are joined. -/
structure Joining where
  mark : Option Char
  fields : Nat × Nat
  folds : Bool
  alone : List Nat
  pairs : Bool
  empty : String
  shown : Option (List (Nat × Nat))

def Joining.split (manner : Joining) (line : String) : List String :=
  match manner.mark with
  | some mark => line.splitOn (String.singleton mark)
  | none => ((line.toList.map fun c => if isBlankChar c then ' ' else c) |> String.ofList
      |>.splitOn " ").filter (· != "")

/-- The line that two lines make: what they share first, then the other fields. -/
def Joining.row (manner : Joining) (left right : Option (List String)) : String :=
  let mark := String.singleton (manner.mark.getD ' ')
  let key := match left, right with
    | some fields, _ => fields.getD manner.fields.1 ""
    | none, some fields => fields.getD manner.fields.2 ""
    | none, none => ""
  let others (place : Nat) (fields : Option (List String)) : List String :=
    (fields.getD []).eraseIdx place
  let filled (text : Option String) : String :=
    match text with
    | some "" | none => manner.empty
    | some text => text
  match manner.shown with
  | none => mark.intercalate
      (key :: others manner.fields.1 left ++ others manner.fields.2 right)
  | some places =>
      let cell (place : Nat × Nat) : String :=
        if place.1 = 0 then filled (some key)
        else
          let fields := if place.1 = 1 then left else right
          filled (fields.bind fun fields => fields[place.2 - 1]?)
      mark.intercalate (places.map cell)

/-- Lines of two files in the order of their keys, joined. At most `fuel` steps are made. -/
def Joining.rows (manner : Joining) : Nat → List (List String) → List (List String) → List String
  | 0, _, _ => []
  | fuel + 1, lefts, rights =>
      let keyOf (place : Nat) (fields : List String) : String :=
        let key := fields.getD place ""
        if manner.folds then key.toLower else key
      let leftAlone (fields : List String) : List String :=
        if manner.alone.contains 1 then [manner.row (some fields) none] else []
      let rightAlone (fields : List String) : List String :=
        if manner.alone.contains 2 then [manner.row none (some fields)] else []
      match lefts, rights with
      | [], [] => []
      | left :: lefts, [] => leftAlone left ++ manner.rows fuel lefts []
      | [], right :: rights => rightAlone right ++ manner.rows fuel [] rights
      | left :: lefts, right :: rights =>
          let first := keyOf manner.fields.1 left
          let second := keyOf manner.fields.2 right
          if first < second then leftAlone left ++ manner.rows fuel lefts (right :: rights)
          else if second < first then rightAlone right ++ manner.rows fuel (left :: lefts) rights
          else
            let same := (left :: lefts).takeWhile fun one => keyOf manner.fields.1 one == first
            let other := (right :: rights).takeWhile fun one => keyOf manner.fields.2 one == first
            let joined := same.flatMap fun one => other.map fun two =>
              manner.row (some one) (some two)
            (if manner.pairs then joined else []) ++
              manner.rows fuel ((left :: lefts).drop same.length)
                ((right :: rights).drop other.length)

def join : Utility :=
  withOptions 1 ⟨"a:e:ij:1:2:t:v:o:zHCN", [("ignore-case", 'i'), ("check-order", 'C'),
    ("nocheck-order", 'N'), ("header", 'H')]⟩ false fun scene choices names =>
      match twoOperands names with
      | .error refuse => refuse scene
      | .ok (left, right) =>
          let field (letter : Char) : Nat :=
            (((valueOf? choices letter).or (valueOf? choices 'j')).bind count?).getD 1 - 1
          let place (text : String) : Option (Nat × Nat) :=
            match (text.splitOn ".").map count? with
            | [some 0] => some (0, 0)
            | [some file, some field] => some (file, field)
            | _ => none
          let separators (c : Char) : Char := if c = ',' ∨ c = '\t' then ' ' else c
          let manner : Joining :=
            { mark := (valueOf? choices 't').bind fun text => text.toList.head?
              fields := (field '1', field '2')
              folds := given choices 'i'
              alone := ((valuesOf choices 'a') ++ (valuesOf choices 'v')).filterMap count?
              pairs := !given choices 'v'
              empty := (valueOf? choices 'e').getD ""
              shown := (valueOf? choices 'o').map fun text =>
                ((String.ofList (text.toList.map separators)).splitOn " ").filterMap place }
          let readings := scene.readings asIs [left, right]
          match complaintsIn readings, (textsIn readings).map (·.2) with
          | [], [first, second] =>
              let lefts := (plainLines first).map manner.split
              let rights := (plainLines second).map manner.split
              let rows := manner.rows (lefts.length + rights.length + 1) lefts rights
              (scene.success (onLines rows)).afterReadingOf names
          | complaint :: _, _ => scene.ended 1 "" complaint
          | _, _ => scene.success ""

end SqlColumns.Shell.Tools
