import SqlColumns.Shell.Format
import SqlColumns.Shell.Report
import SqlColumns.Shell.Tools.Printing

/-!
# Programs that show files

The small programs that print files or what they are given: all of it, its ends, how much it is, its
lines with numbers or backwards, and its bytes as numbers.
-/

set_option autoImplicit false

namespace SqlColumns.Shell.Tools

/-- A character as it is shown when what does not print is to be seen. -/
def visible (tabs : Bool) (c : Char) : String :=
  let low (c : Char) : String :=
    if c.toNat < 32 then "^" ++ String.singleton (Char.ofNat (c.toNat + 64))
    else if c.toNat = 127 then "^?"
    else String.singleton c
  if c = '\n' ∨ (c = '\t' ∧ !tabs) then String.singleton c
  else if 128 ≤ c.toNat then "M-" ++ low (Char.ofNat (c.toNat - 128))
  else low c

/-- How lines are shown: numbered, all or those with something in them, with ends and tabs to be
seen, other characters to be seen, and without repeated empty lines. -/
structure LineStyle where
  numbered : Bool
  filled : Bool
  ends : Bool
  tabs : Bool
  others : Bool
  squeezed : Bool

/-- Lines in a style, and the number of the next one and whether the last one was empty. -/
def styledLines (style : LineStyle) : List String → Nat → Bool → List String × Nat × Bool
  | [], number, wasEmpty => ([], number, wasEmpty)
  | line :: lines, number, wasEmpty =>
      let isEmpty := line == "\n"
      if style.squeezed && isEmpty && wasEmpty then styledLines style lines number true
      else
        let counts := style.numbered && !(style.filled && isEmpty)
        let front := if counts then padLeft 6 (inBase 10 number) ++ "\t" else ""
        let shown (c : Char) : String :=
          if c = '\n' then if style.ends then "$\n" else "\n"
          else if c = '\t' then if style.tabs then "^I" else "\t"
          else if style.others then visible false c
          else String.singleton c
        let (rest, number, wasEmpty) :=
          styledLines style lines (if counts then number + 1 else number) isEmpty
        ((front ++ String.join (line.toList.map shown)) :: rest, number, wasEmpty)

def concatenate : Utility :=
  withOptions 1 ⟨"AbeEnstTuv", [("show-all", 'A'), ("number-nonblank", 'b'), ("show-ends", 'E'),
    ("number", 'n'), ("squeeze-blank", 's'), ("show-tabs", 'T'), ("show-nonprinting", 'v')]⟩ false
    fun scene choices names =>
      let has (letters : String) : Bool :=
        choices.any fun choice => letters.toList.contains choice.letter
      let style : LineStyle :=
        ⟨has "nb", has "b", has "AeE", has "AtT", has "Aetv", has "s"⟩
      let (report, _) := (scene.readings asIs names).foldl
        (fun ((report, number, wasEmpty) : Report × Nat × Bool) one =>
          match one.2 with
          | .error complaint => (report.complain complaint, number, wasEmpty)
          | .ok text =>
              let (lines, number, wasEmpty) := styledLines style (linesOf text) number wasEmpty
              (report.print (String.join lines), number, wasEmpty))
        (⟨[], false⟩, 1, false)
      (report.ended scene 1).afterReadingOf names

/-- How much of a text is printed: a number of lines or bytes, from the other end where it is
`rest`. -/
structure Amount where
  bytes : Bool
  rest : Bool
  count : Nat
  deriving Repr

def firstPart (amount : Amount) (text : String) : String :=
  if amount.bytes then
    let count := if amount.rest then text.length - amount.count else amount.count
    String.ofList (text.toList.take count)
  else
    let lines := linesOf text
    let count := if amount.rest then lines.length - amount.count else amount.count
    String.join (lines.take count)

def lastPart (amount : Amount) (text : String) : String :=
  if amount.bytes then
    let count := if amount.rest then amount.count - 1 else text.length - amount.count
    String.ofList (text.toList.drop count)
  else
    let lines := linesOf text
    let count := if amount.rest then amount.count - 1 else lines.length - amount.count
    String.join (lines.drop count)

/-- An option in the form of a number in front of other words, with its letter spelled out. -/
def spelledCount (words : List String) : List String :=
  match words with
  | word :: rest =>
      match word.toList with
      | '-' :: c :: more =>
          if c.isDigit then
            let digits := (c :: more).takeWhile Char.isDigit
            match (c :: more).drop digits.length with
            | [] => "-n" :: String.ofList digits :: rest
            | ['c'] => "-c" :: String.ofList digits :: rest
            | _ => words
          else words
      | _ => words
  | [] => []

/-- The amount that options tell; a sign in front of it means the other end. -/
def amountOf (sign : Char) (choices : List Choice) : Except String Amount :=
  match (choices.filter fun choice => choice.letter = 'n' ∨ choice.letter = 'c').getLast? with
  | none => .ok ⟨false, false, 10⟩
  | some choice =>
      let bytes := choice.letter == 'c'
      let unit := if bytes then "bytes" else "lines"
      let text := choice.value.getD ""
      let (rest, digits) :=
        match text.toList with
        | '-' :: digits => ('-' == sign, String.ofList digits)
        | '+' :: digits => ('+' == sign, String.ofList digits)
        | _ => (false, text)
      match sizedCount? digits with
      | some count => .ok ⟨bytes, rest, count⟩
      | none => .error s!"invalid number of {unit}: {quoted text}"

/-- Prints a part of each of some files, with their names in front where there are several. -/
def printParts (sign : Char) (part : Amount → String → String) : Utility := fun scene words =>
  withOptions 1 ⟨"n:c:qvzf", [("lines", 'n'), ("bytes", 'c'), ("quiet", 'q'), ("silent", 'q'),
    ("verbose", 'v')]⟩ false (fun scene choices names =>
      match amountOf sign choices with
      | .error complaint => scene.failure 1 complaint
      | .ok amount =>
          let verbosity := lastOf? choices "qv"
          let titled := if verbosity = some 'q' then false
            else verbosity = some 'v' || 1 < names.length
          let titleOf (first : Bool) (name : String) : String :=
            let shown := if name = "-" then "standard input" else name
            if titled then (if first then "" else "\n") ++ s!"==> {shown} <==\n" else ""
          let (report, _) := (scene.readings cannotOpen names).foldl
            (fun ((report, first) : Report × Bool) one =>
              match one.2 with
              | .ok text => (report.print (titleOf first one.1 ++ part amount text), false)
              | .error complaint =>
                  if scene.files.isDirectory (pathOf one.1) then
                    ((report.print (titleOf first one.1)).complain complaint, false)
                  else (report.complain complaint, first))
            (⟨[], false⟩, true)
          let ended := (report.ended scene 1).afterReadingOf names
          if sign = '-' ∧ readsInput names ∧ scene.input.seekable then
            let used := (part amount scene.input.text).length
            { ended with
              left := { scene.input with
                text := String.ofList (scene.input.text.toList.drop used) } }
          else ended)
    scene (spelledCount words)

def head : Utility := printParts '-' firstPart

def tail : Utility := fun scene words =>
  let words :=
    match words with
    | word :: rest =>
        match word.toList with
        | '+' :: digits => if digits.all Char.isDigit ∧ rest.length ≤ 1 ∧ !digits.isEmpty then
            "-n" :: word :: rest else words
        | _ => words
    | [] => []
  printParts '+' lastPart scene words

/-- The number of runs of characters that are no white space. -/
def wordCount (text : String) : Nat :=
  (text.toList.foldl (fun (count, inside) c =>
    if isSpace c then (count, false) else (if inside then count else count + 1, true))
    ((0, false) : Nat × Bool)).1

/-- How wide the widest line of a text is, where tabs reach to the next multiple of eight. -/
def widestLine (text : String) : Nat :=
  ((plainLines text).map fun line => line.toList.foldl (fun width c =>
    if c = '\t' then (width / 8 + 1) * 8 else if ' ' ≤ c ∧ c ≤ '~' then width + 1 else width) 0)
      |>.foldl max 0

/-- What can be counted in a text, by letters and in the order in which it is shown. -/
def countables : List (Char × (String → Nat)) :=
  [('l', fun text => text.toList.count '\n'), ('w', wordCount), ('m', String.length),
    ('c', String.length), ('L', widestLine)]

def count : Utility :=
  withOptions 1 ⟨"clmwL", [("bytes", 'c'), ("lines", 'l'), ("chars", 'm'), ("words", 'w'),
    ("max-line-length", 'L')]⟩ false fun scene choices names =>
      let wanted := if choices.isEmpty then "lwc".toList else choices.map (·.letter)
      let counters := countables.filter fun one => wanted.contains one.1
      let readings := scene.readings asIs names
      let regular (name : String) : Option Nat :=
        if name = "-" ∨ isInput name then
          if scene.input.seekable then some scene.input.text.length else none
        else if scene.files.isFile (pathOf name) then
          (scene.files.size (pathOf name)).toOption
        else none
      let sizes := (readings.filter fun one =>
        one.2.isOk || scene.files.isDirectory (pathOf one.1)).map fun one => regular one.1
      let total := sizes.foldl (fun sum size => sum + size.getD 0) 0
      let least := if sizes.any Option.isNone then 7 else 1
      let width :=
        if readings.length = 1 ∧ counters.length = 1 then 1
        else max least (inBase 10 total).length
      let line (values : List Nat) (name : String) : String :=
        let columns := values.map fun value => padLeft width (inBase 10 value)
        " ".intercalate columns ++ (if name.isEmpty then "" else " " ++ name) ++ "\n"
      let valuesOf (text : String) : List Nat := counters.map fun one => one.2 text
      let shown := readings.foldl (fun (report : Report) one =>
        match one.2 with
        | .ok text => report.print (line (valuesOf text) (if names.isEmpty then "" else one.1))
        | .error complaint =>
            let report := report.complain complaint
            if scene.files.isDirectory (pathOf one.1) then
              report.print (line (valuesOf "") one.1)
            else report) ⟨[], false⟩
      let texts := (textsIn readings).map (·.2)
      let sums := counters.map fun one =>
        let each := texts.map one.2
        if one.1 = 'L' then each.foldl max 0 else each.foldl (· + ·) 0
      let report := if names.length < 2 then shown else shown.print (line sums "total")
      (report.ended scene 1).afterReadingOf names

def reversed : Utility :=
  withOptions 1 ⟨"bs:r", [("before", 'b'), ("separator", 's')]⟩ false fun scene _ names =>
    let failed (name : String) (cause : OsError) : String :=
      if cause = .isDirectory then s!"{name}: read error"
      else s!"failed to open {quoted name} for reading"
    let readings := scene.readings failed names
    let shown (text : String) : String := String.join (linesOf text).reverse
    (scene.shownEach 1 readings shown).afterReadingOf names

def mirrored : Utility := fun scene names =>
  let readings := scene.readings (fun name _ => s!"cannot open {name}") names
  let turn (line : String) : String :=
    String.ofList (withoutFeed line).toList.reverse ++
      if withoutFeed line = line then "" else "\n"
  let shown (text : String) : String := String.join ((linesOf text).map turn)
  (scene.shownEach 1 readings shown).afterReadingOf names

/-- Lines with numbers in front, all or those with something in them. -/
def numberedLines (all : Bool) (width : Nat) (separator : String) (zeros left : Bool) (step : Int) :
    Int → List String → List String
  | _, [] => []
  | number, line :: lines =>
      let counts := all || line != ""
      if counts then
        let digits := decimal number
        let field := if left then padRight width digits
          else if zeros then zeroPadded width digits
          else padLeft width digits
        (field ++ separator ++ line) ::
          numberedLines all width separator zeros left step (number + step) lines
      else
        ("".pushn ' ' (width + separator.length) ++ line) ::
          numberedLines all width separator zeros left step number lines

def numbered : Utility :=
  withOptions 1 ⟨"b:w:s:v:i:n:", [("body-numbering", 'b'), ("number-width", 'w'),
    ("number-separator", 's'), ("starting-line-number", 'v'), ("line-increment", 'i'),
    ("number-format", 'n')]⟩ false fun scene choices names =>
      let number (letter : Char) (usual : Int) : Int :=
        ((valueOf? choices letter).bind decimal?).getD usual
      let readings := scene.readings asIs names
      let lines := (textsIn readings).flatMap fun one => plainLines one.2
      let format := (valueOf? choices 'n').getD "rn"
      let body := (valueOf? choices 'b').getD "t"
      let separator := (valueOf? choices 's').getD "\t"
      let shown :=
        if body = "n" then
          lines.map fun line => "".pushn ' ' ((number 'w' 6).toNat + separator.length) ++ line
        else
          numberedLines (body == "a") (number 'w' 6).toNat separator (format == "rz")
            (format == "ln") (number 'i' 1) (number 'v' 1) lines
      (scene.endedWith 1 (onLines shown) (complaintsIn readings)).afterReadingOf names

/-- A way to show bytes: as characters, names of characters, or numbers of some bytes in a base,
with a sign or not; and whether the line is shown as text too. -/
structure DumpStyle where
  kind : Char
  size : Nat
  text : Bool
  deriving DecidableEq, Repr

/-- The styles that a text spells: letters with sizes behind them. The text is read as far as `fuel`
steps. -/
def dumpStyles? : Nat → List Char → Option (List DumpStyle)
  | 0, _ => none
  | _, [] => some []
  | fuel + 1, kind :: rest =>
      let digits := rest.takeWhile Char.isDigit
      let behind := rest.drop digits.length
      let (size, behind) : Option Nat × List Char :=
        if !digits.isEmpty then (some (digitsValue digits), behind)
        else
          match behind with
          | 'C' :: more => (some 1, more)
          | 'S' :: more => (some 2, more)
          | 'I' :: more => (some 4, more)
          | 'L' :: more => (some 8, more)
          | _ => (none, behind)
      let text := behind.head? = some 'z'
      let behind := if text then behind.drop 1 else behind
      let usual := if kind = 'c' ∨ kind = 'a' then 1 else 4
      if "acdoux".toList.contains kind ∧ [1, 2, 4, 8].contains (size.getD usual) then
        (dumpStyles? fuel behind).map (⟨kind, size.getD usual, text⟩ :: ·)
      else none

def controlNames : List String :=
  ["nul", "soh", "stx", "etx", "eot", "enq", "ack", "bel", "bs", "ht", "nl", "vt", "ff", "cr", "so",
    "si", "dle", "dc1", "dc2", "dc3", "dc4", "nak", "syn", "etb", "can", "em", "sub", "esc", "fs",
    "gs", "rs", "us", "sp"]

def shownByte (c : Char) : String :=
  match c with
  | '\x00' => "\\0"
  | '\x07' => "\\a"
  | '\x08' => "\\b"
  | '\x0c' => "\\f"
  | '\n' => "\\n"
  | '\r' => "\\r"
  | '\t' => "\\t"
  | '\x0b' => "\\v"
  | _ => if ' ' ≤ c ∧ c ≤ '~' then String.singleton c
    else zeroPadded 3 (inBase 8 c.toNat)

def DumpStyle.width (style : DumpStyle) : Nat :=
  match style.kind with
  | 'a' | 'c' => 3
  | 'o' => match style.size with | 1 => 3 | 2 => 6 | 4 => 11 | _ => 22
  | 'd' => match style.size with | 1 => 4 | 2 => 6 | 4 => 11 | _ => 20
  | 'u' => match style.size with | 1 => 3 | 2 => 5 | 4 => 10 | _ => 20
  | _ => 2 * style.size

def DumpStyle.shown (style : DumpStyle) (bytes : List Char) : String :=
  let value := bytes.foldr (fun c value => value * 256 + c.toNat) 0
  let limit := Nat.pow 256 style.size
  let first := bytes.headD ' '
  match style.kind with
  | 'c' => shownByte first
  | 'a' =>
      let code := first.toNat % 128
      if code = 127 then "del" else (controlNames[code]?).getD (String.singleton (Char.ofNat code))
  | 'o' => zeroPadded style.width (inBase 8 value)
  | 'x' => zeroPadded style.width (inBase 16 value)
  | 'd' => if limit ≤ 2 * value then decimal ((value : Int) - limit) else inBase 10 value
  | _ => inBase 10 value

def chunks (length : Nat) : Nat → List Char → List (List Char)
  | 0, _ | _, [] => []
  | fuel + 1, text => text.take length :: chunks length fuel (text.drop length)

def DumpStyle.line (style : DumpStyle) (field : Nat) (bytes : List Char) : String :=
  let parts := (chunks style.size 16 bytes).map fun part =>
    padLeft (field * style.size) (style.shown part)
  let row := String.join parts
  if style.text then
    let full := field * 16
    let shown := bytes.map fun c => if ' ' ≤ c ∧ c ≤ '~' then c else '.'
    padRight full row ++ "  >" ++ String.ofList shown ++ "<"
  else row

/-- Lines of bytes with their places in front; lines that repeat the one before are left out, unless
all are wanted. -/
def dumpLines (place : Nat → String) (render : List Char → List String) (all : Bool) :
    Nat → Option (List Char) → Bool → List (List Char) → List String
  | start, _, _, [] => if (place start).isEmpty then [] else [place start]
  | start, before, starred, bytes :: rest =>
      let next := start + bytes.length
      if before = some bytes ∧ bytes.length = 16 ∧ !rest.isEmpty ∧ !all then
        (if starred then [] else ["*"]) ++ dumpLines place render all next before true rest
      else
        let lines := (render bytes).zipIdx.map fun (line, row) =>
          if row = 0 then place start ++ line else "".pushn ' ' (place start).length ++ line
        lines ++ dumpLines place render all next (some bytes) false rest

def dump : Utility :=
  withOptions 1 ⟨"A:t:N:j:vabcdoxsil", [("address-radix", 'A'), ("format", 't'),
    ("read-bytes", 'N'), ("skip-bytes", 'j'), ("output-duplicates", 'v')]⟩ false
    fun scene choices names =>
      let spelled (choice : Choice) : Option String :=
        match choice.letter with
        | 't' => choice.value
        | 'a' => some "a"
        | 'b' => some "o1"
        | 'c' => some "c"
        | 'd' => some "u2"
        | 'o' => some "o2"
        | 'x' => some "x2"
        | 's' => some "d2"
        | 'i' => some "d4"
        | 'l' => some "d8"
        | _ => none
      let texts := choices.filterMap spelled
      let texts := if texts.isEmpty then ["o2"] else texts
      match texts.mapM fun text => dumpStyles? (text.length + 1) text.toList with
      | none => scene.failure 1 ("invalid type string " ++ quoted (texts.headD ""))
      | some styles =>
          let styles := styles.flatten
          let field := styles.foldl (fun most style =>
            max most ((style.width + style.size) / style.size)) 1
          let readings := scene.readings asIs names
          let whole := String.join ((textsIn readings).map (·.2))
          let skipped := ((valueOf? choices 'j').bind sizedCount?).getD 0
          let text := whole.toList.drop skipped
          let text :=
            match (valueOf? choices 'N').bind sizedCount? with
            | some most => text.take most
            | none => text
          let place (start : Nat) : String :=
            match valueOf? choices 'A' with
            | some "n" => ""
            | some "x" => zeroPadded 6 (inBase 16 start)
            | some "d" => zeroPadded 7 (inBase 10 start)
            | _ => zeroPadded 7 (inBase 8 start)
          let lines := dumpLines place (fun bytes => styles.map fun style => style.line field bytes)
            (given choices 'v') skipped none false (chunks 16 (text.length + 1) text)
          (scene.endedWith 1 (onLines lines) (complaintsIn readings)).afterReadingOf names

end SqlColumns.Shell.Tools
