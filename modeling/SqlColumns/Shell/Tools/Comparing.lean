import SqlColumns.Shell.Tools.Reading

/-!
# Programs that compare files

The small programs that tell where two files differ: at the first byte or all of them, or by the
lines that have to be changed.
-/

set_option autoImplicit false

namespace SqlColumns.Shell.Tools

def shownOctet (c : Char) : String :=
  if c = '\n' then "^J" else visible true c

def differences (left right : List Char) : List (Nat × Char × Char) :=
  ((left.zip right).zipIdx.filter fun one => one.1.1 != one.1.2).map fun one =>
    (one.2 + 1, one.1.1, one.1.2)

def compareBytes : Utility := fun scene words =>
  let help := s!"{scene.called}: Try '{scene.called} --help' for more information.\n"
  let misuse (complaint : String) : Ended :=
    scene.ended 2 "" (s!"{scene.called}: {complaint}\n" ++ help)
  let grammar : Grammar := ⟨"bi:ln:s", [("print-bytes", 'b'), ("ignore-initial", 'i'),
    ("verbose", 'l'), ("bytes", 'n'), ("quiet", 's'), ("silent", 's')]⟩
  match grammar.read false words with
  | .error complaint => misuse complaint
  | .ok (choices, names) =>
      let skipped := ((valueOf? choices 'i').getD "0").splitOn ":"
      let skip (place : Nat) : Option Nat :=
        sizedCount? ((skipped[place]?).getD (skipped.headD "0"))
      let limit := (valueOf? choices 'n').map sizedCount?
      match names, skip 0, skip 1, limit with
      | [], _, _, _ => misuse s!"missing operand after {cited scene.called}"
      | _, none, _, _ | _, _, none, _ =>
          misuse ("invalid --ignore-initial value " ++ cited ((valueOf? choices 'i').getD ""))
      | _, _, _, some none =>
          misuse ("invalid --bytes value " ++ cited ((valueOf? choices 'n').getD ""))
      | first :: more, some front, some behind, _ =>
          let second := more.headD "-"
          match more.drop 1 with
          | _ :: _ :: extra :: _ => misuse s!"extra operand {cited extra}"
          | _ =>
              let refused (name : String) (_ : OsError) : String := name
              let readings := scene.readings refused [first, second]
              match complaintsIn readings, (textsIn readings).map (·.2.toList) with
              | complaint :: _, _ => scene.ended 2 "" (if given choices 's' then "" else complaint)
              | [], [left, right] =>
                  let right := if first = "-" ∧ second = "-" then left else right
                  let cut (text : List Char) : List Char :=
                    match limit with
                    | some (some count) => text.take count
                    | _ => text
                  let left := cut (left.drop front)
                  let right := cut (right.drop behind)
                  finish scene choices first second left right
              | _, _ => scene.success ""
where
  /-- What is printed of two texts. -/
  finish (scene : Scene) (choices : List Choice) (first second : String) (left right : List Char) :
      Ended :=
    let found := differences left right
    let short := if left.length < right.length then first else second
    let shared := min left.length right.length
    let front := left.take shared
    let lines := front.count '\n'
    let ending :=
      if left.length = right.length then ""
      else if shared = 0 then s!"{scene.called}: EOF on {short} which is empty\n"
      else
        let place := s!"{scene.called}: EOF on {short} after byte {inBase 10 shared}"
        if given choices 'l' then place ++ "\n"
        else if front.getLast? = some '\n' then s!"{place}, line {inBase 10 lines}\n"
        else s!"{place}, in line {inBase 10 (lines + 1)}\n"
    let differ := !found.isEmpty || left.length != right.length
    let code := if differ then 1 else 0
    let octal (c : Char) : String := padLeft 3 (inBase 8 c.toNat)
    if given choices 's' then scene.ended code "" ""
    else if given choices 'l' then
      let width := (inBase 10 (max left.length right.length)).length
      let row (one : Nat × Char × Char) : String :=
        let place := padLeft width (inBase 10 one.1)
        if given choices 'b' then
          s!"{place} {octal one.2.1} {padRight 4 (shownOctet one.2.1)} {octal one.2.2} " ++
            shownOctet one.2.2
        else s!"{place} {octal one.2.1} {octal one.2.2}"
      scene.ended code (onLines (found.map row)) ending
    else
      match found with
      | (place, one, other) :: _ =>
          let line := (left.take (place - 1)).count '\n' + 1
          let kind := if given choices 'b' then "byte" else "char"
          let bytes := if given choices 'b' then
              s!" is {octal one} {shownOctet one} {octal other} {shownOctet other}"
            else ""
          let text :=
            s!"{first} {second} differ: {kind} {inBase 10 place}, line {inBase 10 line}{bytes}\n"
          scene.ended code text ""
      | [] => scene.ended code "" ending

/-- Lengths of the longest rows of lines that the ends of two lists share: for each place in the
first list and in the second one. -/
def sharedLengths (alike : String → String → Bool) (left right : Array String) :
    Array (Array Nat) :=
  let last := Array.replicate (right.size + 1) 0
  left.toList.reverse.foldl (fun (rows : Array (Array Nat)) line =>
    let below := rows.getD (rows.size - 1) last
    let row := right.toList.reverse.zipIdx.foldl (fun (row : Array Nat) (other, index) =>
      let place := right.size - 1 - index
      let value :=
        if alike line other then below.getD (place + 1) 0 + 1
        else max (below.getD place 0) (row.getD index 0)
      row.push value) #[0]
    rows.push row.reverse) #[last] |>.reverse

/-- A run of lines that has to be changed: where it starts in both lists, and how many lines of each
it has. -/
structure Hunk where
  left : Nat
  removed : Nat
  right : Nat
  added : Nat
  deriving DecidableEq, Repr

/-- The runs of lines that have to be changed from two places on. At most `fuel` steps are made, and
`hunk` is the run that is open. -/
def hunksFrom (alike : String → String → Bool) (left right : Array String)
    (lengths : Array (Array Nat)) : Nat → Hunk → List Hunk
  | 0, hunk => [hunk]
  | fuel + 1, hunk =>
      let row := hunk.left + hunk.removed
      let column := hunk.right + hunk.added
      let closed := if hunk.removed = 0 ∧ hunk.added = 0 then [] else [hunk]
      match left[row]?, right[column]? with
      | none, none => closed
      | some _, none =>
          hunksFrom alike left right lengths fuel { hunk with removed := hunk.removed + 1 }
      | none, some _ =>
          hunksFrom alike left right lengths fuel { hunk with added := hunk.added + 1 }
      | some one, some other =>
          let reach (row column : Nat) : Nat := (lengths.getD row #[]).getD column 0
          if alike one other then
            closed ++ hunksFrom alike left right lengths fuel ⟨row + 1, 0, column + 1, 0⟩
          else if reach row (column + 1) ≤ reach (row + 1) column then
            hunksFrom alike left right lengths fuel { hunk with removed := hunk.removed + 1 }
          else hunksFrom alike left right lengths fuel { hunk with added := hunk.added + 1 }

/-- A run of lines that are only removed or only added, moved towards the end as far as the lines
allow, up to a limit. -/
def Hunk.slid (alike : String → String → Bool) (left right : Array String) (limit : Nat) :
    Nat → Hunk → Hunk
  | 0, hunk => hunk
  | fuel + 1, hunk =>
      let moved : Hunk := { hunk with left := hunk.left + 1, right := hunk.right + 1 }
      let same (lines : Array String) (start count : Nat) : Bool :=
        match lines[start]?, lines[start + count]? with
        | some first, some next => alike first next
        | _, _ => false
      if limit ≤ hunk.left + hunk.removed then hunk
      else if hunk.added = 0 ∧ same left hunk.left hunk.removed then
        moved.slid alike left right limit fuel
      else if hunk.removed = 0 ∧ same right hunk.right hunk.added then
        moved.slid alike left right limit fuel
      else hunk

def hunksOf (alike : String → String → Bool) (left right : Array String) : List Hunk :=
  let lengths := sharedLengths alike left right
  let size := left.size + right.size + 1
  let hunks := hunksFrom alike left right lengths size ⟨0, 0, 0, 0⟩
  let limits := (hunks.drop 1).map (·.left) ++ [left.size + 1]
  (hunks.zip limits).map fun one =>
    let limit := if one.2 = left.size + 1 then left.size + right.size + 1 else one.2
    one.1.slid alike left right limit size

/-- How files are compared: which lines are alike, in what form the differences are shown, with how
many lines around them, under which names, and whether directories are compared too. -/
structure Comparison where
  folds : Bool
  blanks : Option Char
  context : Option Nat
  brief : Bool
  same : Bool
  deep : Bool
  absent : Bool
  asText : Bool
  labels : List String
  options : String

def Comparison.essence (how : Comparison) (line : String) : String :=
  let text := line.toList
  let blank (c : Char) : Bool := isSpace c
  let text := match how.blanks with
    | some 'w' => text.filter fun c => !blank c
    | some _ =>
        let spaced := text.foldr (fun c kept =>
          if blank c then if kept.head? = some ' ' then kept else ' ' :: kept else c :: kept) []
        let backwards := spaced.reverse
        (if backwards.head? = some ' ' then backwards.drop 1 else backwards).reverse
    | none => text
  String.ofList (if how.folds then text.map Char.toLower else text)

def markedLine (sign line : String) : String :=
  if line.toList.getLast? = some '\n' then sign ++ line
  else sign ++ line ++ "\n\\ No newline at end of file\n"

def plainSpan (start count : Nat) : String :=
  if count = 0 then inBase 10 start
  else if count = 1 then inBase 10 (start + 1)
  else s!"{inBase 10 (start + 1)},{inBase 10 (start + count)}"

def plainDifference (left right : Array String) (hunk : Hunk) : String :=
  let letter := if hunk.removed = 0 then "a" else if hunk.added = 0 then "d" else "c"
  let lines (sign : String) (all : Array String) (start count : Nat) : String :=
    String.join ((all.extract start (start + count)).toList.map (markedLine sign))
  s!"{plainSpan hunk.left hunk.removed}{letter}{plainSpan hunk.right hunk.added}\n" ++
    lines "< " left hunk.left hunk.removed ++
    (if letter = "c" then "---\n" else "") ++
    lines "> " right hunk.right hunk.added

/-- Runs that are so near to each other that the lines around them meet. -/
def nearRuns (context : Nat) (hunks : List Hunk) : List (List Hunk) :=
  hunks.foldr (fun hunk groups =>
    match groups with
    | (next :: group) :: rest =>
        if next.left ≤ hunk.left + hunk.removed + 2 * context then (hunk :: next :: group) :: rest
        else [hunk] :: (next :: group) :: rest
    | _ => [hunk] :: groups) []

/-- The numbers of some lines, in the form with lines around them. -/
def unifiedSpan (start count : Nat) : String :=
  if count = 0 then s!"{inBase 10 start},0"
  else if count = 1 then inBase 10 (start + 1)
  else s!"{inBase 10 (start + 1)},{inBase 10 count}"

def unifiedDifference (context : Nat) (left right : Array String) (group : List Hunk) : String :=
  match group.head?, group.getLast? with
  | some first, some last =>
      let front := min context first.left
      let start := first.left - front
      let other := first.right - front
      let stop := min left.size (last.left + last.removed + context)
      let behind := stop - (last.left + last.removed)
      let count := last.right + last.added + behind - other
      let lines (sign : String) (all : Array String) (start stop : Nat) : String :=
        String.join ((all.extract start stop).toList.map (markedLine sign))
      let (body, place) := group.foldl (fun ((text, place) : String × Nat) hunk =>
        (text ++ lines " " left place hunk.left ++
          lines "-" left hunk.left (hunk.left + hunk.removed) ++
          lines "+" right hunk.right (hunk.right + hunk.added), hunk.left + hunk.removed))
        ("", start)
      s!"@@ -{unifiedSpan start (stop - start)} +{unifiedSpan other count} @@\n" ++ body ++
        lines " " left place stop
  | _, _ => ""

def Comparison.texts (how : Comparison) (first second left right : String) : String × Bool :=
  let binary (text : String) : Bool := text.toList.contains '\x00'
  let identical := if how.same then s!"Files {first} and {second} are identical\n" else ""
  if left = right then (identical, false)
  else if (binary left || binary right) && !how.asText then
    if how.brief then (s!"Files {first} and {second} differ\n", true)
    else (s!"Binary files {first} and {second} differ\n", true)
  else
    let lefts := (linesOf left).toArray
    let rights := (linesOf right).toArray
    let alike (one other : String) : Bool := how.essence one == how.essence other
    match hunksOf alike lefts rights with
    | [] => (identical, false)
    | hunks =>
        if how.brief then (s!"Files {first} and {second} differ\n", true)
        else
          match how.context with
          | none => (String.join (hunks.map (plainDifference lefts rights)), true)
          | some context =>
              let moment := "\t1970-01-01 00:00:00.000000000 +0000"
              let title (place : Nat) (name : String) : String :=
                (how.labels[place]?).getD (name ++ moment)
              (s!"--- {title 0 first}\n+++ {title 1 second}\n" ++
                String.join ((nearRuns context hunks).map
                  (unifiedDifference context lefts rights)), true)

/-- What is printed of what lies in two directories, and whether it differs; at most `depth`
directories are inside of each other. -/
def Comparison.folders (how : Comparison) (files : FileSystem) :
    Nat → String → String → Location → Location → String × Bool
  | 0, _, _, _, _ => ("", false)
  | depth + 1, first, second, left, right =>
      let names := ((files.namesIn left ++ files.namesIn right).eraseDups).mergeSort
        fun one other => decide (one ≤ other)
      names.foldl (fun ((text, differs) : String × Bool) step =>
        let name := Octets.ofText step
        let place (folder : Location) : Option Location :=
          (files.locate (FileSystem.pathTo (folder ++ [step]))).toOption
        let textAt (location : Option Location) : String :=
          Octets.ofBytes ((location.bind fun location =>
            (files.read (FileSystem.pathTo location)).toOption).getD [])
        let entryAt (location : Option Location) : Option Entry := location.bind files.entryAt?
        let one := place left
        let other := place right
        let paths := s!"{inside first name} {inside second name}"
        let titled (shown : String × Bool) : String × Bool :=
          let title := if shown.2 ∧ !how.brief then s!"diff{how.options} {paths}\n" else ""
          (text ++ title ++ shown.1, differs || shown.2)
        let kind (entry : Option Entry) : String :=
          match entry with
          | some .directory => "directory"
          | some (.file []) => "regular empty file"
          | _ => "regular file"
        match entryAt one, entryAt other with
        | some .directory, some .directory =>
            if how.deep then
              match one, other with
              | some one, some other =>
                  let (more, differ) :=
                    how.folders files depth (inside first name) (inside second name) one other
                  (text ++ more, differs || differ)
              | _, _ => (text, differs)
            else
              let line := s!"Common subdirectories: {inside first name} and {inside second name}\n"
              (text ++ line, differs)
        | none, none => (text, differs)
        | some _, none =>
            if how.absent then
              titled (how.texts (inside first name) (inside second name) (textAt one) "")
            else (text ++ s!"Only in {first}: {name}\n", true)
        | none, some _ =>
            if how.absent then
              titled (how.texts (inside first name) (inside second name) "" (textAt other))
            else (text ++ s!"Only in {second}: {name}\n", true)
        | entry, found =>
            if entry = some .directory ∨ found = some .directory then
              let line := s!"File {inside first name} is a {kind entry} while file " ++
                s!"{inside second name} is a {kind found}\n"
              (text ++ line, true)
            else
              titled (how.texts (inside first name) (inside second name) (textAt one)
                (textAt other))) ("", false)

def compareLines : Utility := fun scene words =>
  let help := s!"{scene.called}: Try '{scene.called} --help' for more information.\n"
  let misuse (complaint : String) : Ended :=
    scene.ended 2 "" (s!"{scene.called}: {complaint}\n" ++ help)
  let grammar : Grammar := ⟨"abBdiL:NqrsuU:wt", [("text", 'a'), ("ignore-space-change", 'b'),
    ("ignore-all-space", 'w'), ("ignore-case", 'i'), ("label", 'L'), ("new-file", 'N'),
    ("brief", 'q'), ("recursive", 'r'), ("report-identical-files", 's'), ("unified", 'u'),
    ("minimal", 'd')]⟩
  match grammar.read false words with
  | .error complaint => misuse complaint
  | .ok (choices, names) =>
      let around := match valueOf? choices 'U' with
        | some text => count? text
        | none => if given choices 'u' then some 3 else none
      let spelled := words.filter fun word => word.startsWith "-" && word != "-"
      let shownOptions := spelled.map (" " ++ ·)
      let how : Comparison :=
        { folds := given choices 'i'
          blanks := lastOf? choices "bw"
          context := around
          brief := given choices 'q'
          same := given choices 's'
          deep := given choices 'r'
          absent := given choices 'N'
          asText := given choices 'a'
          labels := valuesOf choices 'L'
          options := String.join shownOptions }
      match names with
      | [] => misuse s!"missing operand after {cited scene.called}"
      | [name] => misuse s!"missing operand after {cited name}"
      | [first, second] =>
          let isFolder (name : String) : Bool := scene.files.isDirectory (pathOf name)
          match isFolder first, isFolder second with
          | true, true =>
              match scene.files.locate (pathOf first), scene.files.locate (pathOf second) with
              | .ok left, .ok right =>
                  if left = right then scene.success "" else
                  let (text, differs) := how.folders scene.files 100 first second left right
                  scene.ended (if differs then 1 else 0) text ""
              | _, _ => scene.success ""
          | left, right =>
              let chosen := if left ∧ second ≠ "-" then inside first (lastName second "") else first
              let other := if right ∧ first ≠ "-" then inside second (lastName first "") else second
              let refused (name : String) (_ : OsError) : String := name
              let readings := scene.readings refused [chosen, other]
              match complaintsIn readings, (textsIn readings).map (·.2) with
              | [], [one, two] =>
                  let two := if first = "-" ∧ second = "-" then one else two
                  let (text, differs) := how.texts chosen other one two
                  (scene.ended (if differs then 1 else 0) text "").afterReadingOf names
              | complaints, _ => scene.ended 2 "" (String.join complaints)
      | _ :: _ :: extra :: _ => misuse s!"extra operand {cited extra}"

end SqlColumns.Shell.Tools
