import SqlColumns.Shell.Condition
import SqlColumns.Shell.Mode
import SqlColumns.Shell.Printf
import SqlColumns.Shell.Script.Redirection

/-!
# Builtins

What a script does by itself when a command has a certain name: printing, testing, reading lines,
and changing its variables, options, arguments and directory.
-/

set_option autoImplicit false

namespace SqlColumns.Shell.Script

/-- What a script does with the words behind a name. -/
abbrev Builtin := List String → Running Unit

/-- The options in front of words by their letters, and the words behind them. -/
def optionsIn (letters : String) (words : List String) :
    Running (List Choice × List String) := do
  let grammar : Grammar := ⟨letters, []⟩
  let rec go : Nat → List String → Running (List Choice × List String)
    | 0, words => return ([], words)
    | fuel + 1, words =>
        match words with
        | "--" :: rest => return ([], rest)
        | word :: rest =>
            match word.toList with
            | '-' :: c :: more =>
                match (grammar.readLetters (c :: more) rest) with
                | .ok (choices, rest) => do
                    let (others, operands) ← go fuel rest
                    return (choices ++ others, operands)
                | .error _ =>
                    match (c :: more).find? fun one => (grammar.valued? one).isNone with
                    | some unknown => fail s!"Illegal option -{String.singleton unknown}"
                    | none =>
                        let last := String.ofList ((c :: more).drop more.length)
                        fail s!"No arg for -{last} option"
            | _ => return ([], words)
        | [] => return ([], [])
  go (words.length + 1) words

def numberOf (word : String) : Running Nat :=
  match count? word with
  | some number => return number
  | none => fail s!"Illegal number: {word}"

def splitAssignment (word : String) : String × Option String :=
  let name := String.ofList (word.toList.takeWhile (· != '='))
  (name, if name.length < word.length then some (String.ofList (word.toList.drop (name.length + 1)))
    else none)

/-- Text between single quotes, with the single quotes in it between double ones. -/
def singleQuoted (text : String) : String :=
  "'" ++ text.replace "'" "'\"'\"'" ++ "'"

def echo : Builtin := fun words => do
  let plain := words.head? = some "-n"
  let (text, stopped) := unescape (" ".intercalate (if plain then words.drop 1 else words))
  exitWith 0
  print (if plain || stopped then text else text ++ "\n")

/-- How complaints about the words of a format are worded. -/
def dialect : Printf.Dialect :=
  { noNumber := fun word => s!"{word}: expected numeric value"
    partly := fun word => s!"{word}: not completely converted"
    tooBig := fun word => s!"{word}: Numerical result out of range"
    invalid := fun slot => s!"{slot}: invalid directive"
    unfinished := fun _ => "missing format character"
    rich := false }

def printf : Builtin := fun words => do
  let (_, words) ← optionsIn "" words
  match words with
  | [] => fail "usage: printf format [arg ...]"
  | format :: words =>
      let progress := Printf.run dialect format words
      progress.complaints.forM complain
      exitWith (if progress.complaints.isEmpty then 0 else 1)
      if let some fault := progress.fault then
        complain fault
        exitWith 2
      print progress.output

def test (bracket : Bool) : Builtin := fun words => do
  if bracket ∧ words.getLast? ≠ some "]" then fail "missing ]"
  let words := if bracket then words.dropLast else words
  match Condition.holds ((← get).scene "test") words with
  | .ok holds => exitWith (if holds then 0 else 1)
  | .error fault => fail fault.message

/-- The path of a directory seen from another one, by its text alone. -/
def pathFrom (folder name : String) : String :=
  let whole := if name.toList.head? = some '/' then name else s!"{folder}/{name}"
  let steps := (whole.splitOn "/").foldl (fun steps step =>
    if step.isEmpty || step == "." then steps
    else if step == ".." then steps.dropLast
    else steps ++ [step]) ([] : List String)
  "/" ++ "/".intercalate steps

def physical (files : FileSystem) : String :=
  Octets.ofText (FileSystem.pathTo files.current).text

def goTo (follow : Bool) (name : String) : Running Bool := do
  let state ← get
  let path := if follow then name else pathFrom state.folder name
  match state.files.locate (pathOf path) with
  | .error _ => return false
  | .ok location =>
      if state.files.entryAt? location != some .directory then return false
      let files := { state.files with current := location }
      let folder := if follow then physical files else path
      let keep (state : State) (name text : String) : State :=
        state.setEntry name { state.entryOf name with text := some text, exported := true }
      set (keep (keep { state with files, folder } "OLDPWD" state.folder) "PWD" folder)
      return true

/-- The directories in which a relative directory is looked for. -/
def State.startsOf (state : State) (name : String) : List String :=
  let first := (name.splitOn "/").headD ""
  if first.isEmpty || first == "." || first == ".." then [""]
  else ((state.textOf? "CDPATH").getD "").splitOn ":" ++ [""]

def changeFolder : Builtin := fun words => do
  let (choices, words) ← optionsIn "LP" words
  let follow := lastOf? choices "LP" = some 'P'
  let state ← get
  let back := words.head? = some "-"
  let name :=
    match words with
    | [] => (state.textOf? "HOME").getD ""
    | "-" :: _ => (state.textOf? "OLDPWD").getD ""
    | name :: _ => name
  let starts := if name.isEmpty then [""] else state.startsOf name
  let rec goFirst : List String → Running (Option String)
    | [] => return none
    | start :: more => do
        let path := if start.isEmpty then if name.isEmpty then "." else name else s!"{start}/{name}"
        if ← goTo follow path then return some start else goFirst more
  match ← goFirst starts with
  | none => fail s!"can't cd to {name}"
  | some start =>
      exitWith 0
      if back || (!start.isEmpty && start != ".") then print ((← get).folder ++ "\n")

def printFolder : Builtin := fun words => do
  let (choices, _) ← optionsIn "LP" words
  let state ← get
  exitWith 0
  print ((if lastOf? choices "LP" = some 'P' then physical state.files else state.folder) ++ "\n")

/-- A line of what is read, whose characters are cut at separators unless a backslash is in front of
them, and how much of the text it takes; the last part says whether the line ends. The text is read
as far as `fuel` characters. -/
def readLine (raw : Bool) : Nat → List Char → List Glyph × Nat × Bool
  | 0, _ | _, [] => ([], 0, false)
  | _, '\n' :: _ => ([], 1, true)
  | fuel + 1, '\\' :: c :: rest =>
      if raw then
        let (line, length, ended) := readLine raw fuel (c :: rest)
        (.loose '\\' :: line, length + 1, ended)
      else
        let (line, length, ended) := readLine raw fuel rest
        (if c = '\n' then line else .char true c :: line, length + 2, ended)
  | fuel + 1, c :: rest =>
      let (line, length, ended) := readLine raw fuel rest
      (if c = '\x00' ∨ (c = '\\' ∧ !raw) then line else .loose c :: line, length + 1, ended)

def isSeparator (separators : List Char) (blank : Bool) : Glyph → Bool
  | .loose c => separators.contains c && (c == ' ' || c == '\t' || c == '\n') == blank
  | _ => false

def lineText (glyphs : List Glyph) : String :=
  (wholeField [] glyphs).text

/-- A line cut into texts, the last of which gets all that is left but for separators at its end. -/
def splitLine (separators : List Char) : Nat → List Glyph → List String
  | 0, _ => []
  | count + 1, line =>
      let isBlank := isSeparator separators true
      let isOther := isSeparator separators false
      let ends (glyph : Glyph) : Bool := isBlank glyph || isOther glyph
      let line := line.dropWhile isBlank
      if line.isEmpty then []
      else if count = 0 then
        let kept := (line.reverse.dropWhile isBlank).reverse
        let body := kept.dropLast
        let alone := kept.getLast?.any isOther && !(body.any ends)
        [lineText (if alone then body else kept)]
      else
        let first := line.takeWhile fun glyph => !ends glyph
        let behind := (line.drop first.length).dropWhile isBlank
        let behind := if behind.head?.any isOther then behind.drop 1 else behind
        lineText first :: splitLine separators count behind

def readInto : Builtin := fun words => do
  let (choices, names) ← optionsIn "p:r" words
  if names.isEmpty then fail "arg count"
  let state ← get
  let feed := state.feed 0
  let text := feed.text.toList
  let (line, length, ended) := readLine (given choices 'r') (text.length + 1) text
  set (state.setFeed 0 { feed with text := String.ofList (text.drop length) })
  let texts := splitLine state.separators names.length line
  for (name, place) in names.zipIdx do
    if !Syntax.isName name.toList then fail s!"{name}: bad variable name"
    assign name (texts[place]?.getD "")
  exitWith (if ended then 0 else 1)

def printVariables (command : String) (wanted : Variable → Bool) : Running Unit := do
  let found := (← get).values.filter fun one => wanted one.2
  let lines := found.map fun (name, entry) =>
    let value := (entry.text.map fun text => "=" ++ singleQuoted text).getD ""
    command ++ name ++ value
  exitWith 0
  print (onLines (lines.mergeSort fun left right => decide (left ≤ right)))

def mark (command : String) (wanted : Variable → Bool) (change : Variable → Variable) : Builtin :=
  fun words => do
    let (choices, words) ← optionsIn "p" words
    if given choices 'p' || words.isEmpty then printVariables (command ++ " ") wanted
    else
      for word in words do
        let (name, text) := splitAssignment word
        if !Syntax.isName name.toList then fail s!"{name}: bad variable name"
        if let some text := text then assign name text
        modify fun state => state.setEntry name (change (state.entryOf name))
      exitWith 0

def makeLocal : Builtin := fun words => do
  match (← get).frames with
  | [] => fail "not in a function"
  | frame :: frames =>
      let mut hidden := frame
      for word in words do
        let (name, text) := splitAssignment word
        if !Syntax.isName name.toList then fail s!"{name}: bad variable name"
        let state ← get
        let before := (state.values.find? fun one => one.1 == name).map (·.2)
        if !hidden.any fun one => one.1 == name then hidden := (name, before) :: hidden
        if let some text := text then assign name text
      modify fun state => { state with frames := hidden :: frames, last := 0 }

def unset : Builtin := fun words => do
  let (choices, names) ← optionsIn "vf" words
  for name in names do
    if lastOf? choices "vf" = some 'f' then
      modify fun state =>
        { state with functions := state.functions.filter fun one => one.1 != name }
    else
      if !Syntax.isName name.toList then fail s!"{name}: bad variable name"
      if ((← get).entryOf name).fixed then fail s!"{name}: is read only"
      modify fun state => state.forget name
  exitWith 0

def optionNames : List (String × Char) :=
  [("errexit", 'e'), ("noglob", 'f'), ("ignoreeof", 'I'), ("interactive", 'i'), ("monitor", 'm'),
    ("noexec", 'n'), ("stdin", 's'), ("xtrace", 'x'), ("verbose", 'v'), ("vi", 'V'), ("emacs", 'E'),
    ("noclobber", 'C'), ("allexport", 'a'), ("notify", 'b'), ("nounset", 'u'), ("privileged", 'p'),
    ("nolog", 'L'), ("debug", 'D')]

def setOption (isSet : Bool) (option : Char) : Running Unit :=
  modify fun state =>
    let others := state.options.filter (· != option)
    { state with options := if isSet then option :: others else others }

def printOptions (asTable : Bool) : Running Unit := do
  let state ← get
  let shown (name : String) (option : Char) : String :=
    if asTable then padRight 16 name ++ if state.has option then "on" else "off"
    else "set " ++ (if state.has option then "-" else "+") ++ s!"o {name}"
  let title := if asTable then "Current option settings\n" else ""
  print (title ++ onLines (optionNames.map fun one => shown one.1 one.2))

def optionNamed? (name : String) : Option Char :=
  (optionNames.find? fun one => one.1 == name).map (·.2)

/-- Sets options by words in front, and the arguments to the words behind them if there are any. -/
def setOptions : Nat → List String → Running (Option (List String))
  | 0, _ => return none
  | fuel + 1, words => do
      match words with
      | [] => return none
      | "--" :: rest => return some rest
      | "-" :: rest =>
          setOption false 'x'
          return if rest.isEmpty then none else some rest
      | word :: rest =>
          match word.toList with
          | sign :: letters =>
              if sign = '-' ∨ sign = '+' then
                let isSet := sign == '-'
                if letters = ['o'] then
                  match rest with
                  | [] =>
                      printOptions isSet
                      return none
                  | name :: more =>
                      match optionNamed? name with
                      | some option =>
                          setOption isSet option
                          setOptions fuel more
                      | none =>
                          fail s!"Illegal option {String.singleton sign}o {name}"
                else
                  for letter in letters do
                    let fits := letter != 'L' && letter != 'D'
                    if fits && optionNames.any fun one => one.2 == letter then
                      setOption isSet letter
                    else fail s!"Illegal option {String.singleton sign}{String.singleton letter}"
                  setOptions fuel rest
              else return some words
          | [] => return some words

/-- Why jobs cannot be moved to the foreground and back. -/
def noTerminal : String :=
  "can't access tty; job control turned off"

def setAll : Builtin := fun words => do
  if words.isEmpty then printVariables "" fun entry => entry.text.isSome
  else
    exitWith 0
    if let some operands ← setOptions (words.length + 1) words then
      modify fun state => { state with arguments := state.arguments.take 1 ++ operands }
    if (← get).has 'm' then
      complain noTerminal
      setOption false 'm'

def shift : Builtin := fun words => do
  let count ← (words.head?.map numberOf).getD (pure 1)
  let state ← get
  if state.operands.length < count then fail "can't shift that many"
  set { state with
    arguments := state.arguments.take 1 ++ state.operands.drop count
    last := 0 }

/-- Sets or prints the permissions that new files do not get. -/
def setMask : Builtin := fun words => do
  let (choices, words) ← optionsIn "S" words
  let mask := (← get).mask
  exitWith 0
  match words with
  | [] =>
      print (if given choices 'S' then Mode.symbolic (0o777 ^^^ mask) ++ "\n"
        else Mode.octal 4 mask ++ "\n")
  | word :: _ =>
      if word.toList.head?.any Char.isDigit then
        match Mode.change? word 0 false 0 with
        | some mode => modify fun state => { state with mask := mode &&& 0o777 }
        | none => fail s!"Illegal number: {word}"
      else
        match Mode.change? word 0 false (0o777 ^^^ mask) with
        | some mode => modify fun state => { state with mask := 0o777 ^^^ (mode &&& 0o777) }
        | none => fail s!"Illegal mode: {word}"

/-- What reading options finds at a place: a letter and its text if it is one, what is complained
of, and the place behind it. Nothing when there are no more options. -/
def nextOption? (wanted : List Char) (words : List String) (index offset : Nat) :
    Option (Char × Option String × Option String × Nat × Nat) :=
  let quiet := wanted.head? == some ':'
  let current := if offset = 0 then [] else ((words[index - 2]?).getD "").toList.drop offset
  let opened : Option (List Char × Nat × Nat) :=
    if !current.isEmpty then some (current, index, offset)
    else
      match (words[index - 1]?).map String.toList with
      | some ('-' :: c :: rest) =>
          if c = '-' ∧ rest.isEmpty then none else some (c :: rest, index + 1, 1)
      | _ => none
  opened.bind fun (text, index, offset) =>
    match text with
    | [] => none
    | c :: rest =>
        let place := (index, if rest.isEmpty then 0 else offset + 1)
        match if c = ':' then [] else wanted.dropWhile (· != c) with
        | [] =>
            if quiet then some ('?', some (String.singleton c), none, place)
            else some ('?', none, some s!"Illegal option -{String.singleton c}\n", place)
        | _ :: ':' :: _ =>
            if !rest.isEmpty then some (c, some (String.ofList rest), none, index, 0)
            else
              match words[index - 1]? with
              | some text => some (c, some text, none, index + 1, 0)
              | none =>
                  if quiet then some (':', some (String.singleton c), none, index, 0)
                  else
                    let complaint := s!"No arg for -{String.singleton c} option\n"
                    some ('?', none, some complaint, index, 0)
        | _ => some (c, some "", none, place)

def getOptions : Builtin := fun words => do
  match words with
  | wanted :: name :: given =>
      let state ← get
      let words := if given.isEmpty then state.operands else given
      let index := max ((count? ((state.textOf? "OPTIND").getD "1")).getD 1) 1
      let offset := if state.place.1 = index then state.place.2 else 0
      match nextOption? wanted.toList words index offset with
      | none =>
          let skipped := if offset = 0 ∧ words[index - 1]? = some "--" then index + 1 else index
          assign "OPTIND" (inBase 10 skipped)
          assign name "?"
          modify fun state => { state with place := (skipped, 0), last := 1 }
      | some (letter, text, complaint, place) =>
          tell (complaint.getD "")
          match text with
          | some text => assign "OPTARG" text
          | none => modify fun state => state.forget "OPTARG"
          assign "OPTIND" (inBase 10 place.1)
          assign name (String.singleton letter)
          modify fun state => { state with place, last := 0 }
  | _ => fail "Usage: getopts optstring var [arg...]"

def leaveLoops (kind : Nat → Jump) : Builtin := fun words => do
  let count ← (words.head?.map numberOf).getD (pure 1)
  if count = 0 then fail ("Illegal number: " ++ words.headD "")
  let loops := (← get).loops
  exitWith 0
  if loops ≠ 0 then throw (kind (min count loops))

def exit : Builtin := fun words => do
  if let some word := words.head? then exitWith (← numberOf word)
  throw .ended

/-- Ends a function, or a script that is read by another one. -/
def back : Builtin := fun words => do
  if let some word := words.head? then exitWith (← numberOf word)
  throw .back

def trap : Builtin := fun words => do
  let (_, words) ← optionsIn "" words
  exitWith 0
  match words with
  | [] =>
      let traps := (← get).traps.mergeSort fun left right => decide (left.1 ≤ right.1)
      print (onLines (traps.map fun (number, action) =>
        s!"trap -- {singleQuoted action} {signalName number}"))
  | first :: rest =>
      let isSignal := rest.isEmpty || (count? first).isSome
      let action := if isSignal || first == "-" then none else some first
      for word in if isSignal then words else rest do
        match signalNumber? word with
        | none =>
            tell s!"trap: {word}: bad trap\n"
            exitWith 1
            return
        | some number =>
            modify fun state =>
              let others := state.traps.filter fun one => one.1 != number
              { state with
                traps :=
                  match action with
                  | some action => (number, action) :: others
                  | none => others }

/-- Prints the names of programs that are known, or forgets them. -/
def hash : Builtin := fun words => do
  let (choices, words) ← optionsIn "rv" words
  exitWith 0
  if given choices 'r' then modify fun state => { state with known := [] }
  else if words.isEmpty then
    let state ← get
    let searched := (state.textOf? "PATH").getD ""
    print (onLines (state.known.filterMap (findProgram? state.files searched)))
  else
    for word in words do
      let state ← get
      match findProgram? state.files ((state.textOf? "PATH").getD "") word with
      | some _ => set { state with known := state.known ++ [word] }
      | none =>
          complain s!"{word}: not found"
          exitWith 1

def idle (code : Nat) : Builtin := fun _ => exitWith code

def plainBuiltin? (name : String) : Option Builtin :=
  match name with
  | ":" | "true" | "alias" | "unalias" | "ulimit" => some (idle 0)
  | "false" => some (idle 1)
  | "echo" => some echo
  | "printf" => some printf
  | "test" => some (test false)
  | "[" => some (test true)
  | "cd" | "chdir" => some changeFolder
  | "pwd" => some printFolder
  | "read" => some readInto
  | "export" => some (mark "export" (·.exported) fun entry => { entry with exported := true })
  | "readonly" => some (mark "readonly" (·.fixed) fun entry => { entry with fixed := true })
  | "local" => some makeLocal
  | "unset" => some unset
  | "set" => some setAll
  | "shift" => some shift
  | "umask" => some setMask
  | "getopts" => some getOptions
  | "break" => some (leaveLoops .leave)
  | "continue" => some (leaveLoops .again)
  | "exit" => some exit
  | "return" => some back
  | "trap" => some trap
  | "hash" => some hash
  | _ => none

end SqlColumns.Shell.Script
