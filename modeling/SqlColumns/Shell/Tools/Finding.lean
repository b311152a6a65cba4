import SqlColumns.Shell.Pattern
import SqlColumns.Shell.Regex.Reader
import SqlColumns.Shell.Tools.Listing
import SqlColumns.Shell.Tools.Starting

/-!
# Finding entries

A program that walks through directories and asks of each entry what an expression of tests says;
the actions in the expression print entries, remove them or start programs for them.
-/

set_option autoImplicit false

namespace SqlColumns.Shell.Tools

namespace Finding

/-- A number that is met exactly, or from above, or from below. -/
inductive Bound where
  | more (count : Nat)
  | less (count : Nat)
  | same (count : Nat)
  deriving DecidableEq, Repr

def Bound.meets (bound : Bound) (number : Nat) : Bool :=
  match bound with
  | .more count => count < number
  | .less count => number < count
  | .same count => number == count

/-- A test or an action. -/
inductive Test where
  | always (holds : Bool)
  | name (folds whole : Bool) (pattern : String)
  | target (folds : Bool) (pattern : String)
  | regex (folds : Bool) (expression : Regex)
  | kind (follows : Bool) (letters : List Char)
  | empty
  | size (unit : Nat) (bound : Bound)
  | mode (sign : Char) (bits : Nat)
  | links (bound : Bound)
  | aged (bound : Bound)
  | newer
  | place (location : Option Location)
  | may
  | print (ending : String)
  | format (text : String)
  | list
  | delete
  | prune
  | quit
  | start (inFolder : Bool) (words : List String)
  | gather (inFolder : Bool) (number : Nat) (words : List String)
  | confirm (words : List String)
  deriving DecidableEq, Repr

/-- An expression of tests. -/
inductive Expression where
  | test (test : Test)
  | opposite (inner : Expression)
  | both (left right : Expression)
  | either (left right : Expression)
  | behind (left right : Expression)
  deriving Repr

/-- How directories are walked through: how deep, which links are followed, and whether directories
come behind what is in them. -/
structure Walk where
  least : Nat
  most : Option Nat
  deepFirst : Bool
  follows : Bool

/-- What is left of the words, how the walk goes on, how many lists of words are gathered, and
whether an action was read. -/
structure Progress where
  words : List String
  walk : Walk
  gathered : Nat
  acts : Bool

abbrev Reading := StateT Progress (Except String)

def bound? (text : String) : Option Bound :=
  match text.toList with
  | '+' :: digits => (count? (String.ofList digits)).map .more
  | '-' :: digits => (count? (String.ofList digits)).map .less
  | digits => (count? (String.ofList digits)).map .same

/-- The words of a call up to its end, and whether it gathers all entries. -/
def callWords (inner : List String) : List String → Option (List String × Bool × List String)
  | [] => none
  | ";" :: rest => some (inner.reverse, false, rest)
  | "+" :: rest =>
      if inner.head? = some "\x7b\x7d" then some ((inner.drop 1).reverse, true, rest)
      else callWords ("+" :: inner) rest
  | word :: rest => callWords (word :: inner) rest

def argument (name : String) : Reading String := do
  let progress ← get
  match progress.words with
  | word :: rest =>
      set { progress with words := rest }
      return word
  | [] => throw ("missing argument to \x60" ++ name ++ "'")

def unitOf? (c : Char) : Option Nat :=
  match c with
  | 'b' => some 512
  | 'c' => some 1
  | 'w' => some 2
  | 'k' => some 1024
  | 'M' => some 1048576
  | 'G' => some 1073741824
  | _ => none

def sizeTest (text : String) : Except String Test :=
  let wrong : Except String Test := .error ("invalid -size type \x60" ++ text ++ "'")
  match text.toList.getLast? with
  | none => .error "invalid null argument to -size"
  | some c =>
      let (unit, digits) := match unitOf? c with
        | some unit => (some unit, String.ofList text.toList.dropLast)
        | none => (if c.isDigit then some 512 else none, text)
      match unit, bound? digits with
      | some unit, some bound => .ok (.size unit bound)
      | none, _ => .error ("invalid -size type \x60" ++ String.singleton c ++ "'")
      | _, none => wrong

def modeTest (text : String) : Except String Test :=
  let (sign, rest) := match text.toList with
    | '-' :: rest => ('-', rest)
    | '/' :: rest => ('/', rest)
    | rest => (' ', rest)
  match Mode.change? (String.ofList rest) 0 false 0 with
  | some bits => .ok (.mode sign bits)
  | none => .error s!"invalid mode {cited text}"

def kindTest (name text : String) : Except String Test :=
  let parts := text.splitOn ","
  let letters := parts.flatMap String.toList
  if text.isEmpty then .error s!"Arguments to {name} should contain at least one letter"
  else
    let strange (part : String) : Bool :=
      part.length != 1 || !"bcdpflsD".toList.contains (part.toList.headD ' ')
    match parts.find? strange with
    | some part =>
        if part.length = 1 then .error s!"Unknown argument to {name}: {part}"
        else .error s!"Must separate multiple arguments to {name} using: ','"
    | none => .ok (.kind (name == "-xtype") letters)

def test (name : String) (files : FileSystem) : Reading (Option Test) := do
  let act (test : Test) : Reading (Option Test) := do
    modify fun progress => { progress with acts := true }
    return some test
  let pattern (make : String → Test) : Reading (Option Test) := do
    return some (make (← argument name))
  let bounded (make : Bound → Test) : Reading (Option Test) := do
    let text ← argument name
    match bound? text with
    | some bound => return some (make bound)
    | none => throw ("invalid argument \x60" ++ text ++ "' to \x60" ++ name ++ "'")
  let depth (change : Nat → Walk → Walk) : Reading (Option Test) := do
    let text ← argument name
    match count? text with
    | some count =>
        modify fun progress => { progress with walk := change count progress.walk }
        return some (.always true)
    | none =>
        throw s!"Expected a positive decimal integer argument to {name}, but got {cited text}"
  let expression (folds : Bool) : Reading (Option Test) := do
    let text ← argument name
    match Regex.read ⟨false, false, false, false⟩ text.toList with
    | .ok (regex, _) => return some (.regex folds regex)
    | .error fault => throw fault.message
  let call (inFolder asks : Bool) : Reading (Option Test) := do
    let progress ← get
    match callWords [] progress.words with
    | none | some ([], _, _) => throw ("missing argument to \x60" ++ name ++ "'")
    | some (words, gathers, rest) =>
        set { progress with words := rest, acts := true, gathered := progress.gathered + 1 }
        if asks then return some (.confirm words)
        else if gathers then return some (.gather inFolder progress.gathered words)
        else return some (.start inFolder words)
  match name with
  | "-true" => return some (.always true)
  | "-false" => return some (.always false)
  | "-name" => pattern (.name false false)
  | "-iname" => pattern (.name true false)
  | "-path" | "-wholename" => pattern (.name false true)
  | "-ipath" | "-iwholename" => pattern (.name true true)
  | "-lname" => pattern (.target false)
  | "-ilname" => pattern (.target true)
  | "-regex" => expression false
  | "-iregex" => expression true
  | "-type" | "-xtype" => return some (← kindTest name (← argument name))
  | "-empty" => return some .empty
  | "-size" => return some (← sizeTest (← argument name))
  | "-perm" => return some (← modeTest (← argument name))
  | "-links" => bounded .links
  | "-mtime" | "-atime" | "-ctime" | "-mmin" | "-amin" | "-cmin" => bounded .aged
  | "-uid" | "-gid" => bounded fun bound => .always (bound.meets 0)
  | "-user" | "-group" =>
      let owner ← argument name
      return some (.always (owner == "root" || owner == "0"))
  | "-newer" | "-anewer" | "-cnewer" =>
      let other ← argument name
      match files.locate (pathOf other) with
      | .ok _ => return some .newer
      | .error cause => throw s!"{cited other}: {plainMessage cause}"
  | "-samefile" =>
      let other ← argument name
      match files.locate (pathOf other) with
      | .ok location => return some (.place (some location))
      | .error cause => throw s!"{cited other}: {plainMessage cause}"
  | "-readable" | "-writable" => return some (.always true)
  | "-executable" => return some .may
  | "-nouser" | "-nogroup" => return some (.always false)
  | "-print" => act (.print "\n")
  | "-print0" => act (.print "\x00")
  | "-printf" => act (.format (← argument name))
  | "-ls" => act .list
  | "-delete" =>
      modify fun progress => { progress with walk := { progress.walk with deepFirst := true } }
      act .delete
  | "-prune" => return some .prune
  | "-quit" => return some .quit
  | "-exec" => call false false
  | "-execdir" => call true false
  | "-ok" | "-okdir" => call false true
  | "-maxdepth" => depth fun count walk => { walk with most := some count }
  | "-mindepth" => depth fun count walk => { walk with least := count }
  | "-depth" | "-d" =>
      modify fun progress => { progress with walk := { progress.walk with deepFirst := true } }
      return some (.always true)
  | "-follow" =>
      modify fun progress => { progress with walk := { progress.walk with follows := true } }
      return some (.always true)
  | "-mount" | "-xdev" | "-noleaf" | "-daystart" | "-warn" | "-nowarn"
  | "-ignore_readdir_race" => return some (.always true)
  | "-regextype" =>
      let _ ← argument name
      return some (.always true)
  | _ => return none

mutual

def readAll : Nat → FileSystem → Reading Expression
  | 0, _ => throw "invalid expression"
  | fuel + 1, files => do
      let left ← readEither fuel files
      match (← get).words with
      | "," :: rest =>
          modify fun progress => { progress with words := rest }
          return .behind left (← readAll fuel files)
      | _ => return left

def readEither : Nat → FileSystem → Reading Expression
  | 0, _ => throw "invalid expression"
  | fuel + 1, files => do
      let left ← readBoth fuel files
      match (← get).words with
      | "-o" :: rest | "-or" :: rest =>
          modify fun progress => { progress with words := rest }
          return .either left (← readEither fuel files)
      | _ => return left

def readBoth : Nat → FileSystem → Reading Expression
  | 0, _ => throw "invalid expression"
  | fuel + 1, files => do
      let left ← readOne fuel files
      match (← get).words with
      | [] | ")" :: _ | "," :: _ | "-o" :: _ | "-or" :: _ => return left
      | "-a" :: rest | "-and" :: rest =>
          modify fun progress => { progress with words := rest }
          return .both left (← readBoth fuel files)
      | _ => return .both left (← readBoth fuel files)

def readOne : Nat → FileSystem → Reading Expression
  | 0, _ => throw "invalid expression"
  | fuel + 1, files => do
      let progress ← get
      match progress.words with
      | [] =>
          throw "invalid expression; expected to find another expression but reached the end"
      | word :: rest =>
          set { progress with words := rest }
          match word with
          | "!" | "-not" =>
              if rest.isEmpty then throw s!"expected an expression after {cited word}"
              return .opposite (← readOne fuel files)
          | "-o" | "-or" | "-a" | "-and" | "," =>
              throw (s!"invalid expression; you have used a binary operator {cited word} " ++
                "with nothing before it.")
          | "(" =>
              match rest with
              | ")" :: _ => throw "invalid expression; empty parentheses are not allowed."
              | _ => pure ()
              let inner ← readAll fuel files
              match (← get).words with
              | ")" :: rest =>
                  modify fun progress => { progress with words := rest }
                  return inner
              | _ =>
                  throw ("invalid expression; I was expecting to find a ')' somewhere but did " ++
                    "not see one.")
          | ")" => throw "invalid expression; you have too many ')'"
          | _ =>
              match ← test word files with
              | some test => return .test test
              | none =>
                  if word.startsWith "-" then throw ("unknown predicate \x60" ++ word ++ "'")
                  else throw ("paths must precede expression: \x60" ++ word ++ "'")

end

def read (files : FileSystem) (follows : Bool) (words : List String) :
    Except String (Expression × Walk × Bool) := do
  let fuel := 6 * words.length + 6
  let start : Progress := ⟨words, ⟨0, none, false, follows⟩, 0, false⟩
  if words.isEmpty then return (.test (.always true), start.walk, false)
  let (expression, progress) ← (readAll fuel files).run start
  match progress.words with
  | ")" :: _ => throw "you have too many ')'"
  | word :: _ => throw ("paths must precede expression: \x60" ++ word ++ "'")
  | [] => return (expression, progress.walk, progress.acts)

/-- An entry that is visited: its path, the start of that, how deep it lies, and where. -/
structure Visit where
  path : String
  start : String
  depth : Nat
  location : Location
  entry : Entry

/-- A walk that is going on: the work, the code, whether the walk is over or leaves out what is in
the directory, and the words that are gathered. -/
structure State where
  work : Work
  code : Nat
  stopped : Bool
  pruned : Bool
  gathered : List (Nat × Bool × List String × List (String × Location))

def Visit.name (visit : Visit) : String :=
  lastName visit.path ""

def fits (folds : Bool) (pattern text : String) : Bool :=
  let low (text : String) : List Char :=
    if folds then text.toList.map Char.toLower else text.toList
  Pattern.standsFor (Pattern.ofField (Pattern.fieldOf (low pattern))) (low text)

def Visit.detail (visit : Visit) (files : FileSystem) (letter : Char) : String :=
  let shown : Shown := ⟨visit.path, visit.location, visit.entry⟩
  let kind : String := match visit.entry with
    | .file _ => "f"
    | .directory => "d"
    | .link _ => "l"
    | .device _ => "c"
  match letter with
  | 'p' => visit.path
  | 'f' => visit.name
  | 'h' =>
      let front := visit.path.toList.reverse.dropWhile (· != '/')
      if front.isEmpty then "." else String.ofList (front.drop 1).reverse
  | 'P' => String.ofList ((visit.path.toList.drop visit.start.length).dropWhile (· == '/'))
  | 'H' => visit.start
  | 'y' | 'Y' => kind
  | 'd' => inBase 10 visit.depth
  | 's' => inBase 10 (entrySize visit.entry)
  | 'b' => inBase 10 (entrySpace visit.entry * 2)
  | 'k' => inBase 10 (entrySpace visit.entry)
  | 'm' => inBase 8 (files.modeAt visit.location)
  | 'M' => String.singleton (kindLetter visit.entry) ++ Mode.columns (files.modeAt visit.location)
  | 'n' => inBase 10 (linkCount files visit.location)
  | 'l' => match visit.entry with
    | .link target => Octets.ofText target
    | _ => ""
  | 'i' => Tools.detail files visit.path shown 'i'
  | 'u' | 'g' => "root"
  | 'U' | 'G' => "0"
  | _ => "%" ++ String.singleton letter

/-- Starts a program for visited entries: whether it exits with zero, and the state behind it. -/
def startFor (launch : Launcher) (scene : Scene) (folder : Option Location) (words : List String)
    (state : State) : Bool × State :=
  let files := { state.work.files with current := folder.getD scene.files.current }
  let inner : Scene := { scene with files, input := { scene.input with text := state.work.input } }
  match startAny launch inner words with
  | .error cause =>
      let name := cited (words.headD "")
      (false, { state with
        work := state.work.complain s!"{scene.called}: {name}: {plainMessage cause}\n" })
  | .ok ended =>
      let written := state.work.report.written ++ ended.written
      let work : Work :=
        { files := { ended.files with current := scene.files.current }
          report := { state.work.report with written }
          input := ended.left.text }
      (ended.status = .exited 0, { state with work })

def withPath (path : String) (words : List String) : List String :=
  words.map fun word => word.replace "\x7b\x7d" path

def deleted (scene : Scene) (visit : Visit) (state : State) : Bool × State :=
  if visit.path = "." then (true, state)
  else if !state.work.files.isEmptyAt visit.location then
    let complaint := s!"{scene.called}: cannot delete {quoted visit.path}: Directory not empty\n"
    (false, { state with work := state.work.complain complaint, code := 1 })
  else
    (true, { state with work := state.work.become (state.work.files.remove visit.location) })

/-- Whether a test holds of a visited entry, and the state behind it. -/
def Test.holds (test : Test) (launch : Launcher) (scene : Scene) (walk : Walk) (visit : Visit)
    (state : State) : Bool × State :=
  let files := state.work.files
  let only (holds : Bool) : Bool × State := (holds, state)
  let print (text : String) : Bool × State := (true, { state with work := state.work.print text })
  let folder := visit.location.dropLast
  match test with
  | .always holds => only holds
  | .name folds whole pattern =>
      only (fits folds pattern (if whole then visit.path else visit.name))
  | .target folds pattern =>
      match visit.entry with
      | .link leadsTo => only (fits folds pattern (Octets.ofText leadsTo))
      | _ => only false
  | .regex folds wanted =>
      let chars := visit.path.toList.toArray
      only ((wanted.ends ⟨folds, false⟩ chars (0, [])).any fun one => one.1 == chars.size)
  | .kind follows letters =>
      let behind := (files.locate (FileSystem.pathTo visit.location)).toOption.bind files.entryAt?
      let letter := match (if follows then behind.getD visit.entry else visit.entry) with
        | .file _ => 'f'
        | entry => kindLetter entry
      only (letters.contains letter)
  | .empty =>
      match visit.entry with
      | .file content => only content.isEmpty
      | .directory => only (files.isEmptyAt visit.location)
      | _ => only false
  | .size unit bound => only (bound.meets ((entrySize visit.entry + unit - 1) / unit))
  | .mode sign bits =>
      let mode := files.modeAt visit.location
      only (match sign with
        | '-' => mode &&& bits == bits
        | '/' => bits == 0 || mode &&& bits != 0
        | _ => mode == bits)
  | .links bound => only (bound.meets (linkCount files visit.location))
  | .aged bound => only (bound.meets 0)
  | .newer => only false
  | .place location => only (location == some visit.location)
  | .may =>
      only (match visit.entry with
        | .file _ => files.mayStart visit.location
        | _ => true)
  | .print ending => print (visit.path ++ ending)
  | .format text =>
      print (detailed (visit.detail files) true (text.length + 1) text.toList)
  | .list =>
      let size := inBase 10 (entrySize visit.entry)
      let mode := String.singleton (kindLetter visit.entry) ++
        Mode.columns (files.modeAt visit.location)
      let target := match visit.entry with
        | .link leadsTo => " -> " ++ Octets.ofText leadsTo
        | _ => ""
      let number := padLeft 9 (inBase 10 (entryNumber files visit.location))
      let space := padLeft 6 (inBase 10 (entrySpace visit.entry))
      let links := padLeft 3 (inBase 10 (linkCount files visit.location))
      print (s!"{number} {space} {mode} {links} root     root     {padLeft 8 size} " ++
        s!"{entryMoment} {visit.path}{target}\n")
  | .delete => deleted scene visit state
  | .prune => (true, { state with pruned := !walk.deepFirst })
  | .quit => (true, { state with stopped := true })
  | .start inFolder words =>
      let path := if inFolder then "./" ++ visit.name else visit.path
      startFor launch scene (if inFolder then some folder else none) (withPath path words) state
  | .gather inFolder number words =>
      let path := if inFolder then "./" ++ visit.name else visit.path
      let gathered :=
        if state.gathered.any fun one => one.1 == number then
          state.gathered.map fun one =>
            if one.1 = number then (one.1, one.2.1, one.2.2.1, one.2.2.2 ++ [(path, folder)])
            else one
        else state.gathered ++ [(number, inFolder, words, [(path, folder)])]
      (true, { state with gathered })
  | .confirm words =>
      let name := words.headD ""
      let (agreed, work) := state.work.ask s!"< {name} ... {visit.path} > ? "
      if agreed then startFor launch scene none (withPath visit.path words) { state with work }
      else (false, { state with work })

/-- Whether an expression holds of a visited entry, and the state behind it. -/
def Expression.holds (launch : Launcher) (scene : Scene) (walk : Walk) (visit : Visit) :
    Expression → State → Bool × State
  | .test one, state =>
      if state.stopped then (false, state) else one.holds launch scene walk visit state
  | .opposite inner, state =>
      let (holds, state) := inner.holds launch scene walk visit state
      (!holds, state)
  | .both left right, state =>
      let (holds, state) := left.holds launch scene walk visit state
      if holds then right.holds launch scene walk visit state else (false, state)
  | .either left right, state =>
      let (holds, state) := left.holds launch scene walk visit state
      if holds then (true, state) else right.holds launch scene walk visit state
  | .behind left right, state =>
      let (_, state) := left.holds launch scene walk visit state
      right.holds launch scene walk visit state

/-- Visits an entry and all below it; at most `fuel` directories are inside of each other. -/
def visitAll (visit : Visit → State → State) (walk : Walk) : Nat → Visit → State → State
  | 0, _, state => state
  | fuel + 1, one, state =>
      if state.stopped then state
      else
        let counts := decide (walk.least ≤ one.depth)
        let before := { state with pruned := false }
        let state := if counts && !walk.deepFirst then visit one before else before
        let goesDown := one.entry == .directory && !state.pruned &&
          walk.most.all (one.depth < ·)
        let names := if goesDown then state.work.files.namesIn one.location else []
        let state := names.foldl (fun state step =>
          let place := one.location ++ [step]
          let place := if walk.follows then
              (state.work.files.locate (FileSystem.pathTo place)).toOption.getD place
            else place
          match state.work.files.entryAt? place with
          | some entry =>
              let path := inside one.path (Octets.ofText step)
              visitAll visit walk fuel ⟨path, one.start, one.depth + 1, place, entry⟩ state
          | none => state) state
        if counts && walk.deepFirst then visit one state else state

def startGathered (launch : Launcher) (scene : Scene) (state : State) : State :=
  state.gathered.foldl (fun state (_, inFolder, words, paths) =>
    let folder := if inFolder then paths.head?.map (·.2) else none
    let (good, state) := startFor launch scene folder (words ++ paths.map (·.1)) state
    if good then state else { state with code := 1 }) state

def beginsExpression (word : String) : Bool :=
  (word.startsWith "-" && 1 < word.length) || ["(", ")", "!", ","].contains word

end Finding

def find (launch : Launcher) : Utility := fun scene words =>
  let flags := words.takeWhile fun word => ["-L", "-P", "-H"].contains word
  let behind := words.drop flags.length
  let starts := behind.takeWhile fun word => !Finding.beginsExpression word
  let tests := behind.drop starts.length
  match Finding.read scene.files (flags.contains "-L") tests with
  | .error complaint => scene.failure 1 complaint
  | .ok (expression, walk, acts) =>
      let expression := if acts then expression else .both expression (.test (.print "\n"))
      let starts := if starts.isEmpty then ["."] else starts
      let visit (one : Finding.Visit) (state : Finding.State) : Finding.State :=
        (expression.holds launch scene walk one state).2
      let state := starts.foldl (fun (state : Finding.State) name =>
        if state.stopped then state
        else
          let follows := flags.getLast?.any fun flag => flag == "-L" || flag == "-H"
          let found := if follows then
              match state.work.files.locate (pathOf name) with
              | .ok location => .ok location
              | .error _ => ownLocation state.work.files (pathOf name)
            else ownLocation state.work.files (pathOf name)
          match found with
          | .error cause =>
              let complaint := s!"{scene.called}: {quoted name}: {plainMessage cause}\n"
              { state with work := state.work.complain complaint, code := 1 }
          | .ok location =>
              let entry := (state.work.files.entryAt? location).getD .directory
              Finding.visitAll visit walk 200 ⟨name, name, 0, location, entry⟩ state)
        ⟨scene.work, 0, false, false, []⟩
      let state := Finding.startGathered launch scene state
      { state.work.ended scene with status := .exited state.code }

end SqlColumns.Shell.Tools
