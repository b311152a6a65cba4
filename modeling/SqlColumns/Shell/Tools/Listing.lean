import SqlColumns.Shell.Mode
import SqlColumns.Shell.Pattern
import SqlColumns.Shell.Report
import SqlColumns.Shell.Tools.Printing

/-!
# Programs that list entries

The small programs that show what lies in directories, what entries are, and where paths lead.
-/

set_option autoImplicit false

namespace SqlColumns.Shell.Tools

/-- An entry that is shown: by what name, and where it lies. -/
structure Shown where
  name : String
  location : Location
  entry : Entry

def entrySize (entry : Entry) : Nat :=
  match entry with
  | .file content => content.length
  | .directory => 4096
  | .link target => (Text.encodeString target).length
  | .device _ => 0

def entrySpace (entry : Entry) : Nat :=
  match entry with
  | .file content => (content.length + 4095) / 4096 * 4
  | .directory => 4
  | _ => 0

/-- How often an entry is named: directories by those in them too. -/
def linkCount (files : FileSystem) (location : Location) : Nat :=
  if files.entryAt? location = some .directory then
    let folders := (files.namesIn location).filter fun name =>
      files.entryAt? (location ++ [name]) == some .directory
    folders.length + 2
  else 1

def kindLetter (entry : Entry) : Char :=
  match entry with
  | .file _ => '-'
  | .directory => 'd'
  | .link _ => 'l'
  | .device _ => 'c'

/-- How entries are listed. -/
structure ListStyle where
  hidden : Bool
  dots : Bool
  long : Bool
  itself : Bool
  deep : Bool
  follows : Bool
  reversed : Bool
  sizes : Bool
  human : Bool
  numeric : Bool
  owner : Bool
  group : Bool
  marks : Option Char
  order : Option Char
  layout : Char
  cited : Bool
  escaped : Bool
  numbered : Bool
  coloured : Bool
  foldersFirst : Bool
  skipped : List String
  width : Nat

/-- A size in the largest unit that is not too large for it, rounded up. -/
def humanSize (size : Nat) : String :=
  let units := ["K", "M", "G", "T", "P", "E"]
  if size < 1024 then inBase 10 size
  else
    let choose := fun (unit : String) (power : Nat) =>
      let scale := Nat.pow 1024 power
      let tenths := (size * 10 + scale - 1) / scale
      if tenths < 100 then s!"{inBase 10 (tenths / 10)}.{inBase 10 (tenths % 10)}{unit}"
      else inBase 10 ((size + scale - 1) / scale) ++ unit
    let fits := units.zipIdx.find? fun one =>
      (size + Nat.pow 1024 (one.2 + 1) - 1) / Nat.pow 1024 (one.2 + 1) < 1024
    match fits with
    | some (unit, power) => choose unit (power + 1)
    | none => inBase 10 size

/-- Names in the order of versions: runs of digits count as numbers. At most `fuel` steps are made.
-/
def versionPrecedes : Nat → List Char → List Char → Bool
  | 0, _, _ => true
  | _, [], _ => true
  | _, _ :: _, [] => false
  | fuel + 1, left :: lefts, right :: rights =>
      if left.isDigit ∧ right.isDigit then
        let first := (left :: lefts).takeWhile Char.isDigit
        let second := (right :: rights).takeWhile Char.isDigit
        if digitsValue first = digitsValue second then
          versionPrecedes fuel ((left :: lefts).drop first.length)
            ((right :: rights).drop second.length)
        else digitsValue first < digitsValue second
      else if left = right then versionPrecedes fuel lefts rights
      else left < right

def endingOf (name : String) : String :=
  let behind := name.toList.reverse.takeWhile (· != '.')
  if behind.length = name.length then "" else "." ++ String.ofList behind.reverse

def ListStyle.sort (style : ListStyle) (entries : List Shown) : List Shown :=
  let byName (left right : Shown) : Bool := decide (left.name ≤ right.name)
  let before (left right : Shown) : Bool :=
    match style.order with
    | some 'S' =>
        let first := entrySize left.entry
        let second := entrySize right.entry
        if first = second then byName left right else second < first
    | some 'X' =>
        let first := endingOf left.name
        let second := endingOf right.name
        if first = second then byName left right else decide (first < second)
    | some 'v' =>
        versionPrecedes (left.name.length + right.name.length) left.name.toList right.name.toList
    | _ => byName left right
  let sorted := entries.mergeSort before
  if style.reversed then sorted.reverse else sorted

def ListStyle.entriesIn (style : ListStyle) (files : FileSystem) (location : Location) :
    List Shown :=
  let names := (files.namesIn location).filter fun name => style.hidden || !Path.hiddenName name
  let kept := names.filter fun name =>
    !style.skipped.any fun pattern =>
      Pattern.standsFor (Pattern.ofField (Pattern.fieldOf pattern.toList))
        (Octets.ofText name).toList
  let shown := kept.map fun name =>
    let place := location ++ [name]
    let followed := if style.follows then
        (files.locate (FileSystem.pathTo place)).toOption.getD place
      else place
    ⟨Octets.ofText name, followed, (files.entryAt? followed).getD (.file [])⟩
  let dots : List Shown :=
    if style.dots then
      [⟨".", location, .directory⟩, ⟨"..", location.dropLast, .directory⟩]
    else []
  style.sort (dots ++ shown)

def ListStyle.mark (style : ListStyle) (files : FileSystem) (one : Shown) : String :=
  match style.marks, one.entry with
  | some _, .directory => "/"
  | some 'F', .link _ => if style.long then "" else "@"
  | some 'F', .file _ => if files.mayStart one.location then "*" else ""
  | _, _ => ""

def ListStyle.nameOf (style : ListStyle) (one : Shown) : String :=
  let cite (c : Char) : String :=
    if c = '"' then "\\\"" else if c = '\\' then "\\\\"
    else if isShown c then String.singleton c else escapeOf c
  let escape (c : Char) : String := if c = ' ' then "\\ " else if c = '"' then "\"" else cite c
  if style.cited then "\"" ++ String.join (one.name.toList.map cite) ++ "\""
  else if style.escaped then String.join (one.name.toList.map escape)
  else one.name

def colourOf? (files : FileSystem) (one : Shown) : Option String :=
  match one.entry with
  | .directory =>
      if files.modeAt one.location &&& 0o1002 = 0o1002 then some "30;42" else some "01;34"
  | .link _ => some "01;36"
  | .device _ => some "40;33;01"
  | .file _ => if files.mayStart one.location then some "01;32" else none

/-- The name of an entry with its colour and its mark; `first` says whether no colour came before.
-/
def ListStyle.label (style : ListStyle) (files : FileSystem) (first : Bool) (one : Shown) :
    String :=
  let name := style.nameOf one
  let painted :=
    match if style.coloured then colourOf? files one else none with
    | some colour =>
        (if first then "\x1b[0m" else "") ++ "\x1b[" ++ colour ++ "m" ++ name ++ "\x1b[0m"
    | none => name
  painted ++ style.mark files one

def ListStyle.labels (style : ListStyle) (files : FileSystem) (started : Bool)
    (entries : List Shown) : List String × Bool :=
  let (labels, started) := entries.foldl (fun ((labels, started) : List String × Bool) one =>
    let isPainted := style.coloured && (colourOf? files one).isSome
    (labels ++ [style.label files (!started) one], started || isPainted)) ([], started)
  (labels, started)

/-- White space from one column to another one, with tabs as far as they go. -/
def indentation : Nat → Nat → Nat → String
  | 0, _, _ => ""
  | fuel + 1, start, stop =>
      if stop ≤ start then ""
      else if (start + 1) / 8 < stop / 8 then
        "\t" ++ indentation fuel (start + 8 - start % 8) stop
      else " " ++ indentation fuel (start + 1) stop

/-- Widths of columns when there are so many of them: each has room for its names, and two spaces
where it is not the last one. -/
def columnWidths (count : Nat) (down : Bool) (lengths : List Nat) : List Nat :=
  let rows := (lengths.length + count - 1) / count
  lengths.zipIdx.foldl (fun widths one =>
    let column := if down then one.2 / rows else one.2 % count
    let needed := one.1 + if column + 1 = count then 0 else 2
    widths.modify column (max needed)) (List.replicate count 3)

def inColumns (width : Nat) (down : Bool) (labels : List (String × Nat)) : List String :=
  let lengths := labels.map (·.2)
  let most := min labels.length ((width + 2) / 3)
  let fitting := (List.range most).reverse.find? fun index =>
    ((columnWidths (index + 1) down lengths).foldl (· + ·) 0) < width
  let count := (fitting.getD 0) + 1
  let widths := columnWidths count down lengths
  let rows := (labels.length + count - 1) / count
  (List.range rows).map fun row =>
    let cells := (List.range count).filterMap fun column =>
      (labels[if down then column * rows + row else row * count + column]?).map fun label =>
        (label, widths.getD column 0)
    (cells.foldl (fun ((text, place, reached) : String × Nat × Nat) ((label, length), room) =>
      (text ++ indentation room reached place ++ label, place + room, place + length))
      ("", 0, 0)).1

def inRow (width : Nat) (labels : List (String × Nat)) : List String :=
  let (lines, line, _) := labels.zipIdx.foldl
    (fun ((lines, line, place) : List String × String × Nat) ((label, length), index) =>
      if index = 0 then (lines, label, length)
      else if place + length + 2 < width then (lines, line ++ ", " ++ label, place + 2 + length)
      else (lines ++ [line ++ ","], label, length)) ([], "", 0)
  if labels.isEmpty then [] else lines ++ [line]

def entryMoment : String := "Nov 15 12:00"

def entryNumber (files : FileSystem) (location : Location) : Nat :=
  files.entries.findIdx (·.1 == location) + 2

def ListStyle.spaceText (style : ListStyle) (entry : Entry) : String :=
  if style.human then humanSize (entrySpace entry * 1024) else inBase 10 (entrySpace entry)

def ListStyle.longLines (style : ListStyle) (files : FileSystem) (entries : List Shown)
    (labels : List String) : List String :=
  let sizeText (size : Nat) : String := if style.human then humanSize size else inBase 10 size
  let links := entries.map fun one => inBase 10 (linkCount files one.location)
  let sizes := entries.map fun one =>
    match one.entry with
    | .device .full => "1, 7"
    | .device .sink => "1, 3"
    | .device .zeros => "1, 5"
    | _ => sizeText (entrySize one.entry)
  let spaces := entries.map fun one => style.spaceText one.entry
  let widest (texts : List String) : Nat := (texts.map String.length).foldl max 0
  let root := if style.numeric then "0" else "root"
  let rows := ((entries.zip labels).zip (links.zip (sizes.zip spaces)))
  rows.map fun ((one, label), (count, (size, space))) =>
    let mode := String.singleton (kindLetter one.entry) ++ Mode.columns (files.modeAt one.location)
    let target := match one.entry with
      | .link target => " -> " ++ Octets.ofText target
      | _ => ""
    let number := if style.numbered then inBase 10 (entryNumber files one.location) ++ " " else ""
    let front := number ++ if style.sizes then padLeft (widest spaces) space ++ " " else ""
    let owners := (if style.owner then [root] else []) ++ if style.group then [root] else []
    let columns := [mode, padLeft (widest links) count] ++ owners ++
      [padLeft (widest sizes) size, entryMoment, label ++ target]
    front ++ " ".intercalate columns

def ListStyle.lines (style : ListStyle) (files : FileSystem) (started : Bool)
    (entries : List Shown) : List String × Bool :=
  let (labels, started) := style.labels files started entries
  let widest := (entries.map fun one => (style.spaceText one.entry).length).foldl max 0
  let front (one : Shown) : String :=
    let number := if style.numbered then inBase 10 (entryNumber files one.location) ++ " " else ""
    number ++ if style.sizes then
      let space := style.spaceText one.entry
      (if style.layout = 'm' then space else padLeft widest space) ++ " "
    else ""
  let full := (entries.zip labels).map fun (one, label) => front one ++ label
  let lengths := entries.map fun one =>
    (front one).length + (style.nameOf one).length + (style.mark files one).length
  let measured := full.zip lengths
  let lines :=
    if style.long then style.longLines files entries labels
    else if style.layout = 'C' then inColumns style.width true measured
    else if style.layout = 'x' then inColumns style.width false measured
    else if style.layout = 'm' then inRow style.width measured
    else full
  (lines, started)

/-- The line that tells how much space entries take. -/
def ListStyle.total (style : ListStyle) (entries : List Shown) : List String :=
  if style.long || style.sizes then
    let space := (entries.map fun one => entrySpace one.entry).foldl (· + ·) 0
    ["total " ++ if style.human then humanSize (space * 1024) else inBase 10 space]
  else []

/-- The groups of lines of a directory and those in it, each with its title; at most `depth`
directories are inside of each other. -/
def ListStyle.groups (style : ListStyle) (files : FileSystem) (titled : Bool) :
    Nat → Bool → String → Location → List String × Bool
  | 0, started, _, _ => ([], started)
  | depth + 1, started, name, location =>
      let entries := style.entriesIn files location
      let entries :=
        if style.foldersFirst then
          let (folders, others) := entries.partition fun one =>
            files.isDirectory (FileSystem.pathTo one.location)
          folders ++ others
        else entries
      let (lines, started) := style.lines files started entries
      let title := if titled then [name ++ ":"] else []
      let group := onLines (title ++ style.total entries ++ lines)
      let inner := if style.deep then
          entries.filter fun one => one.entry = .directory ∧ one.name ≠ "." ∧ one.name ≠ ".."
        else []
      inner.foldl (fun ((groups, started) : List String × Bool) one =>
        let (more, started) :=
          style.groups files titled depth started (inside name one.name) one.location
        (groups ++ more, started)) ([group], started)

def listStyleOf (scene : Scene) (choices : List Choice) : ListStyle :=
  let has (letters : String) : Bool :=
    choices.any fun choice => letters.toList.contains choice.letter
  let layout := (lastOf? choices "lgno1CxmK").getD '1'
  let named := (valueOf? choices 'K').getD ""
  let layout := if layout = 'K' then
      match named with
      | "long" | "verbose" => 'l'
      | "across" | "horizontal" => 'x'
      | "commas" => 'm'
      | "vertical" => 'C'
      | _ => '1'
    else layout
  let long := "lgno".toList.contains layout || (has "lgno" && layout == '1')
  let width := ((valueOf? choices 'w').bind count?).getD
    (((scene.textOf? "COLUMNS").bind count?).getD 80)
  let indicator := (choices.filter fun choice => "FpE".toList.contains choice.letter).getLast?
  { hidden := has "aAf"
    dots := (lastOf? choices "aAf").any (· != 'A')
    long
    itself := has "d"
    deep := has "R"
    follows := has "L"
    reversed := has "r"
    sizes := has "s"
    human := has "h"
    numeric := has "n"
    owner := !has "g"
    group := !has "oG"
    marks := indicator.bind fun choice =>
      match choice.value with
      | some "never" | some "none" | some "no" | some "auto" => none
      | some "slash" => some 'p'
      | some _ => some 'F'
      | none => some choice.letter
    order := (lastOf? choices "SXvtUfY").map fun letter =>
      if letter = 'Y' then
        match valueOf? choices 'Y' with
        | some "size" => 'S'
        | some "extension" => 'X'
        | some "version" => 'v'
        | _ => 't'
      else letter
    layout
    cited := has "Q"
    escaped := has "b"
    numbered := has "i"
    coloured := (choices.filter (·.letter = 'J')).getLast?.any fun choice =>
      !([some "never", some "no", some "none", some "auto", some "tty"].contains choice.value)
    foldersFirst := has "D"
    skipped := valuesOf choices 'I' ++ if has "B" then ["*~"] else []
    width := if width = 0 then 0x100000 else width }

def list : Utility :=
  withOptions 2 ⟨"aAbBcCdDfFghHiI:klLmnNopqQrRsStT:uUvw:xXZ1Y:K:J::E:", [("all", 'a'),
    ("almost-all", 'A'), ("ignore-backups", 'B'), ("directory", 'd'), ("classify", 'F'),
    ("indicator-style", 'E'), ("human-readable", 'h'), ("ignore", 'I'), ("dereference", 'L'),
    ("literal", 'N'), ("numeric-uid-gid", 'n'), ("quote-name", 'Q'), ("reverse", 'r'),
    ("recursive", 'R'), ("size", 's'), ("sort", 'Y'), ("width", 'w'), ("format", 'K'),
    ("color", 'J'), ("group-directories-first", 'D'), ("no-group", 'G'),
    ("hide-control-chars", 'q'), ("inode", 'i')]⟩ false fun scene choices names =>
      let style := listStyleOf scene choices
      let names := if names.isEmpty then ["."] else names
      let stays := style.itself || ((style.long || style.marks == some 'F') && !style.follows)
      let found := names.map fun name =>
        let own := ownLocation scene.files (pathOf name)
        let reached := scene.files.locate (pathOf name)
        let reached :=
          match own, reached with
          | .ok own, .error _ => if style.follows then reached else .ok own
          | .ok own, .ok _ => if stays then .ok own else reached
          | .error cause, _ => .error cause
        let isLink := match own with
          | .ok own => match scene.files.entryAt? own with
            | some (.link _) => true
            | _ => false
          | .error _ => false
        let shownAt (location : Location) : Location :=
          match own with
          | .ok own =>
              let keeps := isLink && !style.follows
              if keeps && scene.files.entryAt? location != some .directory then own else location
          | .error _ => location
        (name, reached.map shownAt)
      let complaints := found.filterMap fun one =>
        match one.2 with
        | .error cause =>
            some s!"{scene.called}: cannot access {quoted one.1}: {plainMessage cause}\n"
        | .ok _ => none
      let shown : List Shown := found.filterMap fun one =>
        match one.2 with
        | .ok location => some ⟨one.1, location, (scene.files.entryAt? location).getD (.file [])⟩
        | .error _ => none
      let (folders, others) := shown.partition fun one => one.entry = .directory ∧ !style.itself
      let (lines, started) := style.lines scene.files false (style.sort others)
      let first := if others.isEmpty then [] else [onLines lines]
      let titled := 1 < names.length || style.deep
      let (groups, _) := (style.sort folders).foldl
        (fun ((groups, started) : List String × Bool) one =>
          let (more, started) := style.groups scene.files titled 100 started one.name one.location
          (groups ++ more, started)) (first, started)
      let output := "\n".intercalate groups
      scene.endedWith 2 output complaints

def readLink : Utility :=
  withOptions 1 ⟨"femnqsvz", [("canonicalize", 'f'), ("canonicalize-existing", 'e'),
    ("canonicalize-missing", 'm'), ("no-newline", 'n'), ("quiet", 'q'), ("silent", 's'),
    ("verbose", 'v'), ("zero", 'z')]⟩ false fun scene choices names =>
      let ending := if given choices 'z' then "\x00"
        else if given choices 'n' ∧ names.length = 1 then "" else "\n"
      if names.isEmpty then missingOperand 1 "operand" scene names
      else
        scene.doEach names fun work name =>
          let failed (reason : String) : Work :=
            if given choices 'v' then
              work.complain s!"{scene.called}: {plainlyQuoted name}: {reason}\n"
            else { work with report := { work.report with failed := true } }
          let resolved (location : Location) : Work :=
            work.print (Octets.ofText (FileSystem.pathTo location).text ++ ending)
          match lastOf? choices "fem" with
          | none =>
              match ownLocation work.files (pathOf name) with
              | .error cause => failed (plainMessage cause)
              | .ok location =>
                  match work.files.entryAt? location with
                  | some (.link target) => work.print (Octets.ofText target ++ ending)
                  | _ => failed "Invalid argument"
          | some manner =>
              match resolve work.files manner name with
              | .ok location => resolved location
              | .error cause => failed (plainMessage cause)
where
  /-- The location that a path leads to: its last part or all of it may be missing. -/
  resolve (files : FileSystem) (manner : Char) (name : String) : Except OsError Location :=
    match manner, files.find .entry (pathOf name) with
    | _, .ok (.taken location) => .ok location
    | 'e', .ok (.free _) => .error .notFound
    | _, .ok (.free location) => .ok location
    | 'm', .error cause =>
        if name.isEmpty then .error cause else .ok (missing files (pathOf name))
    | _, .error cause => .error cause
  /-- The location of a path of which parts are missing. -/
  missing (files : FileSystem) (path : Path) : Location :=
    (FileSystem.steps path.text).foldl (fun location step =>
      if step = "." then location
      else if step = ".." then location.dropLast
      else
        let next := location ++ [step]
        (files.locate (FileSystem.pathTo next)).toOption.getD next) (files.origin path)

def plainLocation (files : FileSystem) (path : Path) : Location :=
  (FileSystem.steps path.text).foldl (fun location step =>
    if step = "." then location
    else if step = ".." then location.dropLast
    else location ++ [step]) (files.origin path)

def realPath : Utility :=
  withOptions 1 ⟨"eLmPqszT:B:", [("canonicalize-existing", 'e'), ("canonicalize-missing", 'm'),
    ("logical", 'L'), ("physical", 'P'), ("quiet", 'q'), ("strip", 's'), ("no-symlinks", 's'),
    ("zero", 'z'), ("relative-to", 'T'), ("relative-base", 'B')]⟩ false fun scene choices names =>
      let ending := if given choices 'z' then "\x00" else "\n"
      let place (name : String) : Except OsError Location :=
        if given choices 's' then .ok (plainLocation scene.files (pathOf name))
        else if given choices 'L' then
          readLink.resolve scene.files 'f'
            (Octets.ofText (FileSystem.pathTo (plainLocation scene.files (pathOf name))).text)
        else readLink.resolve scene.files ((lastOf? choices "em").getD 'f') name
      let base := (valueOf? choices 'T').bind fun name => (place name).toOption
      let limit := (valueOf? choices 'B').bind fun name => (place name).toOption
      let shown (location : Location) : String :=
        let within := limit.all fun limit => limit.isPrefixOf location
        match base.or limit with
        | some start =>
            if within then
              let shared := ((start.zip location).takeWhile fun one => one.1 == one.2).length
              let steps := List.replicate (start.length - shared) ".." ++ location.drop shared
              if steps.isEmpty then "." else "/".intercalate steps
            else (FileSystem.pathTo location).text
        | none => (FileSystem.pathTo location).text
      if names.isEmpty then missingOperand 1 "operand" scene names
      else
        scene.doEach names fun work name =>
          let result := if name.isEmpty then .error .notFound else place name
          match result with
          | .ok location => work.print (Octets.ofText (shown location) ++ ending)
          | .error cause =>
              if given choices 'q' then
                { work with report := { work.report with failed := true } }
              else work.complain s!"{scene.called}: {plainlyQuoted name}: {plainMessage cause}\n"

def fullKind (entry : Entry) : String :=
  match entry with
  | .file [] => "regular empty file"
  | .file _ => "regular file"
  | .directory => "directory"
  | .link _ => "symbolic link"
  | .device _ => "character special file"

def kindBits (entry : Entry) : Nat :=
  match entry with
  | .file _ => 0o100000
  | .directory => 0o040000
  | .link _ => 0o120000
  | .device _ => 0o020000

def detail (files : FileSystem) (name : String) (one : Shown) (letter : Char) : String :=
  let mode := files.modeAt one.location
  match letter with
  | 'n' => name
  | 'N' =>
      match one.entry with
      | .link target => s!"{quoted name} -> {quoted (Octets.ofText target)}"
      | _ => quoted name
  | 's' => inBase 10 (entrySize one.entry)
  | 'F' => fullKind one.entry
  | 'a' => inBase 8 mode
  | 'A' => String.singleton (kindLetter one.entry) ++ Mode.columns mode
  | 'f' => inBase 16 (kindBits one.entry + mode)
  | 'h' => inBase 10 (linkCount files one.location)
  | 'u' | 'g' => "0"
  | 'U' | 'G' => "root"
  | 'b' => inBase 10 (entrySpace one.entry * 2)
  | 'B' => "512"
  | 'o' => "4096"
  | 'm' => "/"
  | 't' => match one.entry with | .device _ => "1" | _ => "0"
  | 'T' =>
      match one.entry with
      | .device .full => "7"
      | .device .sink => "3"
      | .device .zeros => "5"
      | _ => "0"
  | 'i' => inBase 10 (entryNumber files one.location)
  | 'd' | 'D' => "1"
  | 'w' => "-"
  | 'W' => "0"
  | 'X' | 'Y' | 'Z' => inBase 10 moment
  | 'x' | 'y' | 'z' => "2025-11-15 12:00:00.000000000 +0000"
  | _ => "?"

/-- An entry by a format. The text is read as far as `fuel` characters. -/
def detailed (tell : Char → String) (escapes : Bool) : Nat → List Char → String
  | 0, _ | _, [] => ""
  | fuel + 1, '%' :: rest =>
      let flags := rest.takeWhile fun c => "#-+ 0".toList.contains c
      let width := (rest.drop flags.length).takeWhile Char.isDigit
      match rest.drop (flags.length + width.length) with
      | '%' :: more => "%" ++ detailed tell escapes fuel more
      | letter :: more =>
          let text := tell letter
          let wide := digitsValue width
          let shown :=
            if flags.contains '-' then padRight wide text
            else if flags.contains '0' then zeroPadded wide text
            else padLeft wide text
          shown ++ detailed tell escapes fuel more
      | [] => "%"
  | fuel + 1, '\\' :: c :: rest =>
      if escapes then
        let (found, behind) := readEscape (c :: rest)
        String.singleton found ++ detailed tell escapes fuel behind
      else "\\" ++ detailed tell escapes fuel (c :: rest)
  | fuel + 1, c :: rest => String.singleton c ++ detailed tell escapes fuel rest

def status : Utility :=
  withOptions 1 ⟨"Lftc:p:", [("dereference", 'L'), ("file-system", 'f'), ("terse", 't'),
    ("format", 'c'), ("printf", 'p')]⟩ false fun scene choices names =>
      if names.isEmpty then missingOperand 1 "operand" scene names
      else
        let usual := "  File: %N\n  Size: %s\tBlocks: %b\tIO Block: %o\t%F\nAccess: (%a/%A)  " ++
          "Uid: (%u/%U)   Gid: (%g/%G)\nAccess: %x\nModify: %y\nChange: %z\n Birth: %w"
        let terse := "%n %s %b %f %u %g %D %i %h %t %T %X %Y %Z %W %o"
        let chosen := (choices.filter fun choice => "cp".toList.contains choice.letter).getLast?
        let format := match chosen with
          | some choice => choice.value.getD ""
          | none => if given choices 't' then terse else usual
        let escapes := chosen.any (·.letter = 'p')
        scene.doEach names fun work name =>
          let found := if given choices 'L' then work.files.locate (pathOf name)
            else ownLocation work.files (pathOf name)
          match found with
          | .error cause =>
              work.complain s!"{scene.called}: cannot statx {quoted name}: {plainMessage cause}\n"
          | .ok location =>
              let one : Shown := ⟨name, location, (work.files.entryAt? location).getD .directory⟩
              let text := detailed (detail work.files name one) escapes (format.length + 1)
                format.toList
              work.print (if escapes then text else text ++ "\n")

/-- Paths of a tree with the space that each of them takes with all below it, deepest first. -/
def spaces (files : FileSystem) (measure : Entry → Nat) :
    Nat → String → Location → List (String × Nat × Bool) × Nat
  | 0, _, _ => ([], 0)
  | depth + 1, name, location =>
      match files.entryAt? location with
      | some .directory =>
          let (rows, total) := (files.namesIn location).foldl
            (fun ((rows, total) : List (String × Nat × Bool) × Nat) step =>
              let (more, space) := spaces files measure depth (inside name (Octets.ofText step))
                (location ++ [step])
              (rows ++ more, total + space)) ([], measure .directory)
          (rows ++ [(name, total, true)], total)
      | some entry => ([(name, measure entry, false)], measure entry)
      | none => ([], 0)

def diskUsage : Utility :=
  withOptions 1 ⟨"abcd:hkmsS0", [("all", 'a'), ("bytes", 'b'), ("total", 'c'), ("max-depth", 'd'),
    ("human-readable", 'h'), ("summarize", 's'), ("apparent-size", 'A')]⟩ false
    fun scene choices names =>
      let has (letter : Char) : Bool := given choices letter
      let measure (entry : Entry) : Nat :=
        if has 'b' then match entry with | .directory => 0 | _ => entrySize entry
        else entrySpace entry
      let text (space : Nat) : String :=
        if has 'h' then if has 'b' then humanSize space else humanSize (space * 1024)
        else inBase 10 space
      let line (name : String) (space : Nat) : String := text space ++ "\t" ++ name ++ "\n"
      let limit := if has 's' then some 0 else (valueOf? choices 'd').bind count?
      let depthOf (name path : String) : Nat :=
        (path.toList.drop name.length).count '/' + if name.endsWith "/" ∧ path ≠ name then 1 else 0
      let names := if names.isEmpty then ["."] else names
      let (work, sum) := names.foldl (fun ((work, sum) : Work × Nat) name =>
        match ownLocation work.files (pathOf name) with
        | .error cause =>
            (work.complain s!"{scene.called}: cannot access {quoted name}: {plainMessage cause}\n",
              sum)
        | .ok location =>
            let (rows, total) := spaces work.files measure 100 name location
            let kept := rows.filter fun row =>
              (row.2.2 || has 'a' || row.1 == name) &&
                limit.all fun limit => depthOf name row.1 ≤ limit
            (work.print (String.join (kept.map fun row => line row.1 row.2.1)), sum + total))
        (scene.work, 0)
      (if has 'c' then work.print (line "total" sum) else work).ended scene

end SqlColumns.Shell.Tools
