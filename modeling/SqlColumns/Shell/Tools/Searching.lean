import SqlColumns.Shell.Pattern
import SqlColumns.Shell.Regex.Reader
import SqlColumns.Shell.Report
import SqlColumns.Shell.Tools.Printing

/-!
# Searching lines

A program that prints the lines in which one of some expressions is found, or those in which none
is, perhaps with the lines around them, or only tells how many or in which files they are.
-/

set_option autoImplicit false

namespace SqlColumns.Shell.Tools

namespace Searching

/-- What is told of a file: its lines, how many they are, or only its name, where lines were
selected or where none was. -/
inductive Telling where
  | lines
  | number
  | name (selected : Bool)
  | nothing
  deriving DecidableEq, Repr

/-- What is done with a directory. -/
inductive FolderAction where
  | read
  | skip
  | walk (followsLinks : Bool)
  deriving DecidableEq, Repr

/-- How a search is made and shown. -/
structure Search where
  regex : Regex
  manner : Regex.Manner
  wholeLines : Bool
  wholeWords : Bool
  opposite : Bool
  most : Option Nat
  before : Nat
  after : Nat
  separator : Option String
  telling : Telling
  onlyFound : Bool
  numbered : Bool
  placed : Bool
  titled : Bool
  nulls : Bool
  colored : Bool
  mark : Char
  anyBytes : Bool
  silent : Bool
  label : String

/-- Whether what is found between two places of a line may count. -/
def Search.fits (search : Search) (chars : Array Char) (start stop : Nat) : Bool :=
  let inWord (place : Nat) : Bool := (chars[place]?).any Regex.isWordChar
  if search.wholeLines then start == 0 && stop == chars.size
  else if search.wholeWords then !(start != 0 && inWord (start - 1)) && !inWord stop
  else true

/-- The first place from `start` on where something is found in a line. -/
def Search.found? (search : Search) (line : Array Char) (start : Nat) : Option Regex.Found :=
  search.regex.firstFound? search.manner line (search.fits line)
    ((List.range (line.size + 1 - start)).map (· + start))

def Search.selects (search : Search) (line : Array Char) : Bool :=
  (search.found? line 0).isSome != search.opposite

/-- All places of a line where something that is not empty is found, one behind the other; `fuel` is
how many are looked for. -/
def Search.places (search : Search) (line : Array Char) : Nat → Nat → List (Nat × Nat)
  | 0, _ => []
  | fuel + 1, start =>
      match search.found? line start with
      | none => []
      | some found =>
          if found.stop = found.start then
            if line.size < found.start + 1 then []
            else search.places line fuel (found.start + 1)
          else (found.start, found.stop) :: search.places line fuel found.stop

/-- A line: its number, the place where it begins, its characters, and whether it is selected. -/
structure Line where
  number : Nat
  place : Nat
  chars : Array Char
  selected : Bool

/-- The lines of a text from one on, of which at most a number is selected. -/
def Search.select (search : Search) : Option Nat → Nat → Nat → List (List Char) → List Line
  | _, _, _, [] => []
  | most, number, place, chars :: rest =>
      let line := chars.toArray
      let selected := most != some 0 && search.selects line
      let most := if selected then most.map (· - 1) else most
      ⟨number, place, line, selected⟩ ::
        search.select most (number + 1) (place + chars.length + 1) rest

/-- The characters between marks; what stands behind the last mark counts if it is not empty. -/
def partsOf (mark : Char) (text : String) : List (List Char) :=
  let parts := (text.splitOn (String.singleton mark)).map String.toList
  if parts.getLast? = some [] then parts.dropLast else parts

/-- For each line whether it stands at most a number of lines behind a selected one, or is one. -/
def reaches (reach : Nat) : Nat → List Bool → List Bool
  | _, [] => []
  | left, selected :: rest =>
      if selected then true :: reaches reach reach rest
      else decide (0 < left) :: reaches reach (left - 1) rest

def Search.shown (search : Search) (selected : List Bool) : List Bool :=
  let behind := reaches search.after 0 selected
  let inFront := (reaches search.before 0 selected.reverse).reverse
  (behind.zip inFront).map fun one => one.1 || one.2

def Search.paint (search : Search) (color text : String) : String :=
  if search.colored ∧ !text.isEmpty then s!"\x1b[{color}m\x1b[K{text}\x1b[m\x1b[K" else text

def Search.front (search : Search) (sign name : String) (number place : Nat) : String :=
  let sign := search.paint "36" sign
  let title := if !search.titled then ""
    else search.paint "35" name ++ if search.nulls then "\x00" else sign
  let line := if search.numbered then search.paint "32" (inBase 10 number) ++ sign else ""
  let start := if search.placed then search.paint "32" (inBase 10 place) ++ sign else ""
  title ++ line ++ start

def painted (search : Search) (line : Array Char) (start : Nat) : List (Nat × Nat) → String
  | [] => String.ofList (Regex.between line start line.size)
  | (left, right) :: rest =>
      String.ofList (Regex.between line start left) ++
        search.paint "01;31" (String.ofList (Regex.between line left right)) ++
        painted search line right rest

def Search.lineText (search : Search) (name : String) (line : Line) : String :=
  let ending := String.singleton search.mark
  let places (_ : Unit) := search.places line.chars (line.chars.size + 1) 0
  if search.onlyFound then
    if !line.selected || search.opposite then ""
    else
      String.join ((places ()).map fun (start, stop) =>
        search.front ":" name line.number (line.place + start) ++
          search.paint "01;31" (String.ofList (Regex.between line.chars start stop)) ++ ending)
  else
    let sign := if line.selected then ":" else "-"
    let text := if search.colored && line.selected && !search.opposite then
        painted search line.chars 0 (places ())
      else String.ofList line.chars.toList
    search.front sign name line.number line.place ++ text ++ ending

/-- The lines of a file that are shown, with separators where some are left out; and whether any
line has been shown. -/
def Search.linesText (search : Search) (name : String) (used : Bool) (lines : List Line) :
    String × Bool :=
  let flags := search.shown (lines.map (·.selected))
  let (text, used, _) := (lines.zip flags).foldl
    (fun ((text, used, adjacent) : String × Bool × Bool) (line, shown) =>
      if shown then
        let gap := match search.separator with
          | some separator =>
              if used && !adjacent then search.paint "36" separator ++ "\n" else ""
          | none => ""
        (text ++ gap ++ search.lineText name line, true, true)
      else (text, used, false)) ("", used, false)
  (text, used)

/-- How far a search has come: its report, whether a line was selected, and whether one was shown.
-/
structure State where
  report : Report
  found : Bool
  used : Bool

def Search.searchText (search : Search) (name text : String) (state : State) : State :=
  let isBinary := !search.anyBytes && search.mark != '\x00' && text.toList.contains '\x00'
  let text := if isBinary then text.map fun c => if c = '\x00' then '\n' else c else text
  let lines := search.select search.most 1 0 (partsOf search.mark text)
  let count := (lines.filter (·.selected)).length
  let state := { state with found := state.found || count != 0 }
  let print (text : String) : State := { state with report := state.report.print text }
  match search.telling with
  | .nothing => state
  | .number =>
      let title := if search.titled then
          search.paint "35" name ++ if search.nulls then "\x00" else search.paint "36" ":"
        else ""
      print (title ++ inBase 10 count ++ "\n")
  | .name selected =>
      if (count != 0) = selected then
        print (search.paint "35" name ++ if search.nulls then "\x00" else "\n")
      else state
  | .lines =>
      if isBinary then
        if count = 0 then state else print s!"grep: {name}: binary file matches\n"
      else
        let (text, used) := search.linesText name state.used lines
        { state with report := state.report.print text, used }

def Search.complain (search : Search) (scene : Scene) (name message : String) (state : State) :
    State :=
  let report := state.report.complain s!"{scene.called}: {name}: {message}\n"
  { state with report := if search.silent then { state.report with failed := true } else report }

/-- Which names are left out: those that fit one of some patterns, and those of files that fit none
of others, if there are any. -/
structure Choosing where
  wanted : List String
  unwanted : List String
  unwantedFolders : List String

/-- Whether a pattern stands for a name, or for the last name of a path. -/
def fitsName (name pattern : String) : Bool :=
  let parts := Pattern.ofField (Pattern.fieldOf pattern.toList)
  Pattern.standsFor parts name.toList || Pattern.standsFor parts (lastName name "").toList

def Choosing.takesFile (choosing : Choosing) (name : String) : Bool :=
  !choosing.unwanted.any (fitsName name) &&
    (choosing.wanted.isEmpty || choosing.wanted.any (fitsName name))

/-- Searches all files in a directory; at most `fuel` directories are inside of each other. -/
def Search.walk (search : Search) (scene : Scene) (choosing : Choosing) (follows : Bool) :
    Nat → String → State → State
  | 0, _, state => state
  | fuel + 1, folder, state =>
      let path := pathOf (if folder.isEmpty then "." else folder)
      let location := (scene.files.locate path).toOption
      (namesIn scene.files (location.getD [])).foldl (fun state name =>
        let path := if folder.isEmpty then name
          else if folder.endsWith "/" then folder ++ name
          else s!"{folder}/{name}"
        match lookupOwn? scene.files (pathOf path), follows with
        | some (.link _), false | some (.device _), _ | none, _ => state
        | some _, _ =>
            if scene.files.isDirectory (pathOf path) then
              if choosing.unwantedFolders.any (fitsName path) then state
              else search.walk scene choosing follows fuel path state
            else if !choosing.takesFile path then state
            else
              match scene.read path with
              | .ok text => search.searchText path text state
              | .error cause => search.complain scene path (plainMessage cause) state) state

def Search.searchNamed (search : Search) (scene : Scene) (choosing : Choosing)
    (action : FolderAction) (state : State) (name : String) : State :=
  if name = "-" then
    if choosing.takesFile "-" then search.searchText search.label scene.input.text state else state
  else if scene.files.isDirectory (pathOf name) then
    match action with
    | .read => search.complain scene name "Is a directory" state
    | .skip => state
    | .walk follows =>
        if choosing.unwantedFolders.any (fitsName name) then state
        else search.walk scene choosing follows 200 name state
  else if !choosing.takesFile name then state
  else
    match scene.read name with
    | .ok text => search.searchText name text state
    | .error cause => search.complain scene name (plainMessage cause) state

def isBareClass (pattern : String) : Bool :=
  let chars := pattern.toList
  chars.take 2 == ['[', ':'] && (chars.dropWhile (· != ']')).length == 1 &&
    chars.drop (chars.length - 2) == [':', ']']

/-- An expression of another kind with its shorter names of sets written out. -/
def spelledOut : List Char → List Char
  | '\\' :: 'd' :: rest => "[0-9]".toList ++ spelledOut rest
  | '\\' :: 'D' :: rest => "[^0-9]".toList ++ spelledOut rest
  | '\\' :: 'h' :: rest => "[ \t]".toList ++ spelledOut rest
  | '\\' :: c :: rest => '\\' :: c :: spelledOut rest
  | '(' :: '?' :: ':' :: rest => '(' :: spelledOut rest
  | c :: rest => c :: spelledOut rest
  | [] => []

/-- The expression of some patterns, of which one has to fit, or a complaint; `kind` says how they
are written. -/
def regexOf (kind : Char) (patterns : List String) : Except String Regex := do
  let read (pattern : String) : Except String Regex :=
    let text := if kind = 'P' then spelledOut pattern.toList else pattern.toList
    if kind = 'F' then .ok (Regex.ofText text)
    else if isBareClass pattern then
      .error "character class syntax is [[:space:]], not [:space:]"
    else
      let extended := kind == 'E' || kind == 'P'
      match Regex.read ⟨extended, kind == 'P', kind == 'P', extended⟩ text with
      | .ok (regex, _) => .ok regex
      | .error fault => .error fault.message
  let regexes ← patterns.mapM read
  match regexes with
  | [] => return .among false []
  | first :: rest => return rest.foldl .either first

/-- The patterns that options give, or the file that they cannot be read from. -/
def patternsOf (scene : Scene) (choices : List Choice) :
    Except (String × OsError) (List String) := do
  let lists ← choices.mapM fun choice => do
    let value := choice.value.getD ""
    if choice.letter = 'e' then return value.splitOn "\n"
    else if choice.letter = 'f' then
      if value = "-" then return plainLines scene.input.text
      else
        match scene.read value with
        | .ok text => return plainLines text
        | .error cause => throw (value, cause)
    else return []
  return lists.flatten

/-- A number of lines that is told in digits; what is too large counts as far as it goes. -/
def contextOf (choices : List Choice) (letter : Char) : Except String (Option Nat) :=
  match valueOf? choices letter with
  | none => .ok none
  | some text =>
      match count? text with
      | some count => .ok (some count)
      | none => .error s!"{text}: invalid context length argument"

def digitsOf (choices : List Choice) : Option Nat :=
  let digits := (choices.map (·.letter)).filter Char.isDigit
  if digits.isEmpty then none else some (digitsValue digits)

/-- The options of a search. Those with Greek letters have no short form. -/
def grammar : Grammar :=
  ⟨"EFGPe:f:iyjwxzsvVm:bnHhoqaId:D:rRLlcTZA:B:C:U0123456789α::β:γ:δ:ε:ζ:η:θικ:",
    [("basic-regexp", 'G'), ("extended-regexp", 'E'), ("fixed-strings", 'F'), ("perl-regexp", 'P'),
      ("after-context", 'A'), ("before-context", 'B'), ("binary-files", 'γ'), ("binary", 'U'),
      ("byte-offset", 'b'), ("context", 'C'), ("color", 'α'), ("colour", 'α'), ("count", 'c'),
      ("devices", 'D'), ("directories", 'd'), ("exclude", 'ε'), ("exclude-from", 'ζ'),
      ("exclude-dir", 'η'), ("file", 'f'), ("files-with-matches", 'l'),
      ("files-without-match", 'L'), ("group-separator", 'κ'), ("include", 'δ'),
      ("ignore-case", 'i'), ("no-ignore-case", 'j'), ("initial-tab", 'T'), ("label", 'β'),
      ("line-buffered", 'ι'), ("line-number", 'n'), ("line-regexp", 'x'), ("max-count", 'm'),
      ("no-filename", 'h'), ("no-group-separator", 'θ'), ("no-messages", 's'), ("null", 'Z'),
      ("null-data", 'z'), ("only-matching", 'o'), ("quiet", 'q'), ("recursive", 'r'),
      ("dereference-recursive", 'R'), ("regexp", 'e'), ("invert-match", 'v'), ("silent", 'q'),
      ("text", 'a'), ("version", 'V'), ("with-filename", 'H'), ("word-regexp", 'w')]⟩

def usage : String :=
  "Usage: grep [OPTION]... PATTERNS [FILE]...\nTry 'grep --help' for more information.\n"

def actionOf (choices : List Choice) : FolderAction :=
  match (choices.filter fun choice => "rRd".toList.contains choice.letter).getLast? with
  | some ⟨'r', _⟩ => .walk false
  | some ⟨'R', _⟩ => .walk true
  | some ⟨_, some "skip"⟩ => .skip
  | some ⟨_, some "recurse"⟩ => .walk false
  | _ => .read

def searchOf (choices : List Choice) (regex : Regex) (titled : Bool) :
    Except String Search := do
  let around := (← contextOf choices 'C').or (digitsOf choices)
  let before := (← contextOf choices 'B').or around
  let after := (← contextOf choices 'A').or around
  let most ← match valueOf? choices 'm' with
    | none => pure none
    | some text =>
        match decimal? text with
        | some number => pure (if number < 0 then none else some number.toNat)
        | none => throw "invalid max count"
  let files := valueOf? choices 'γ'
  if let some kind := files then
    if !(["binary", "text", "without-match"].contains kind) then throw "unknown binary-files type"
  let telling : Telling :=
    if given choices 'q' then .nothing
    else
      match lastOf? choices "lL" with
      | some letter => .name (letter == 'l')
      | none => if given choices 'c' then .number else .lines
  let inContext := before.isSome || after.isSome
  let separator := if !inContext || given choices 'θ' then none
    else some ((valueOf? choices 'κ').getD "--")
  return {
    regex
    manner := ⟨(lastOf? choices "iyj").any (· != 'j'), false⟩
    wholeLines := given choices 'x'
    wholeWords := given choices 'w'
    opposite := given choices 'v'
    most
    before := before.getD 0
    after := after.getD 0
    separator
    telling
    onlyFound := given choices 'o'
    numbered := given choices 'n'
    placed := given choices 'b'
    titled := match lastOf? choices "hH" with
      | some letter => letter == 'H'
      | none => titled
    nulls := given choices 'Z'
    colored := (valuesOf choices 'α').getLast? = some "always"
    mark := if given choices 'z' then '\x00' else '\n'
    anyBytes := given choices 'a' || files == some "text"
    silent := given choices 's'
    label := (valueOf? choices 'β').getD "(standard input)" }

/-- A search whose options and operands are read; `kind` says how the patterns are written when no
option does. -/
def begin (kind : Char) (scene : Scene) (choices : List Choice) (operands : List String) : Ended :=
  let kinds := ((choices.map (·.letter)).filter "EFGP".toList.contains).eraseDups
  let namesPatterns := given choices 'e' || given choices 'f'
  let names := if namesPatterns then operands else operands.drop 1
  let action := actionOf choices
  let names := if !names.isEmpty then names
    else match action with
      | .walk _ => [""]
      | _ => ["-"]
  let patterns := if namesPatterns then patternsOf scene choices
    else .ok ((operands.headD "").splitOn "\n")
  let titled := match names with
    | [name] => name.isEmpty ||
        (action matches .walk _) && scene.files.isDirectory (pathOf name)
    | _ => true
  let choosing : Choosing :=
    { wanted := valuesOf choices 'δ'
      unwanted := valuesOf choices 'ε' ++ (valuesOf choices 'ζ').flatMap fun name =>
        (scene.read name).toOption.elim [] plainLines
      unwantedFolders := valuesOf choices 'η' }
  if !namesPatterns ∧ operands.isEmpty then scene.ended 2 "" usage
  else if 1 < kinds.length then scene.failure 2 "conflicting matchers specified"
  else
    match patterns with
    | .error (name, cause) => scene.failure 2 s!"{name}: {plainMessage cause}"
    | .ok patterns =>
        match regexOf (kinds.headD kind) patterns >>= (searchOf choices · titled) with
        | .error complaint => scene.failure 2 complaint
        | .ok search =>
            let start : State := ⟨⟨[], false⟩, false, false⟩
            let state := names.foldl (fun state name =>
              if name.isEmpty && operands.length ≤ 1 && action != .read then
                search.walk scene choosing (action == .walk true) 200 "" state
              else search.searchNamed scene choosing action state name) start
            let quiet := search.telling == .nothing
            let code := if state.found && (quiet || !state.report.failed) then 0
              else if state.report.failed then 2
              else 1
            let ended := { state.report.ended scene 2 with status := .exited code }
            if names.contains "-" then ended.afterReading else ended

end Searching

/-- Searches lines for expressions; `kind` says how they are written when no option does. -/
def search (kind : Char) : Utility := fun scene words =>
  match Searching.grammar.read false words with
  | .error complaint => scene.ended 2 "" s!"{scene.called}: {complaint}\n{Searching.usage}"
  | .ok (choices, operands) =>
      if given choices 'V' then scene.success "grep (GNU grep) 3.11\n"
      else Searching.begin kind scene choices operands

end SqlColumns.Shell.Tools
