import SqlColumns.Shell.Arithmetic
import SqlColumns.Shell.Pattern
import SqlColumns.Shell.Script.State

/-!
# Expansion of words

The words of a script become the words of a command: parameters, commands and sums give way to their
values, values that no quotes are around are cut at separators, and what may stand for the names of
files is put in their place.
-/

set_option autoImplicit false

namespace SqlColumns.Shell.Script

/-- A part of a word whose values are known: a character that stays, one of a value that may be cut,
quotes, or the end of one of several arguments. -/
inductive Glyph where
  | char (quoted : Bool) (c : Char)
  | loose (c : Char)
  | edge
  | gap
  deriving DecidableEq, Repr

/-- What is cut from a word so far: the fields that are done, the open one, last character first,
whether there is anything in it, and whether separators behind the last field still belong to it, of
which one that is no blank may be left. -/
structure Cutting where
  done : List Field
  current : Field
  started : Bool
  behind : Option Bool
  deriving Repr

namespace Cutting

def close (cutting : Cutting) (behind : Option Bool) : Cutting :=
  ⟨cutting.done ++ [cutting.current.reverse], [], false, behind⟩

def extend (cutting : Cutting) (quoted : Bool) (c : Char) : Cutting :=
  { cutting with current := (quoted, c) :: cutting.current, started := true, behind := none }

def step (separators : List Char) (cutting : Cutting) : Glyph → Cutting
  | .char quoted c => cutting.extend quoted c
  | .edge => { cutting with started := true, behind := none }
  | .gap => if cutting.started then cutting.close none else { cutting with behind := none }
  | .loose c =>
      if separators.contains c then
        let blank := c == ' ' || c == '\t' || c == '\n'
        match cutting.behind, blank with
        | some _, true => cutting
        | some true, false => { cutting with behind := some false }
        | none, true => if cutting.started then cutting.close (some true) else cutting
        | _, false => cutting.close (some false)
      else cutting.extend false c

end Cutting

def fieldsOf (separators : List Char) (glyphs : List Glyph) : List Field :=
  let cutting := glyphs.foldl (Cutting.step separators) ⟨[], [], false, none⟩
  cutting.done ++ if cutting.started then [cutting.current.reverse] else []

def State.separators (state : State) : List Char :=
  ((state.textOf? "IFS").getD " \t\n").toList

/-- What stands between arguments that become one text. -/
def State.joint (state : State) : List Char :=
  match state.textOf? "IFS" with
  | some text => text.toList.take 1
  | none => [' ']

def wholeField (joint : List Char) (glyphs : List Glyph) : Field :=
  glyphs.flatMap fun glyph =>
    match glyph with
    | .char quoted c => [(quoted, c)]
    | .loose c => [(false, c)]
    | .edge => []
    | .gap => joint.map fun c => (true, c)

def valueGlyphs (quoted : Bool) (text : List Char) : List Glyph :=
  if quoted then .edge :: text.map (.char true) else text.map .loose

def withGaps : List (List Glyph) → List Glyph
  | [] => []
  | [one] => one
  | one :: rest => one ++ .gap :: withGaps rest

/-- The arguments as parts of a word: one text between quotes where they are asked for as such. -/
def State.operandGlyphs (state : State) (quoted : Bool) (name : String) : List Glyph :=
  if quoted && name == "*" then
    valueGlyphs true (state.joint.intercalate (state.operands.map String.toList))
  else withGaps (state.operands.map fun text => valueGlyphs quoted text.toList)

def State.optionText (state : State) : String :=
  String.ofList ("ubaCEVvxsnmiIfe".toList.filter state.has)

def State.parameter? (state : State) (name : String) : Option String :=
  match name with
  | "?" => some (inBase 10 state.last)
  | "#" => some (inBase 10 state.operands.length)
  | "$" => some (inBase 10 selfNumber)
  | "!" => if state.latest = 0 then none else some (inBase 10 (selfNumber + state.latest))
  | "-" => some state.optionText
  | "@" | "*" =>
      if state.operands.isEmpty then none
      else some (String.ofList (state.joint.intercalate (state.operands.map String.toList)))
  | _ =>
      match count? name with
      | some place => state.arguments[place]?
      | none => state.textOf? name

def isAll (name : String) : Bool :=
  name == "@" || name == "*"

/-- The output of a command as text in a word: without zeros, and without the line feeds at its end.
-/
def commandText (output : String) : List Char :=
  ((output.toList.filter (· != '\x00')).reverse.dropWhile (· == '\n')).reverse

/-- A character of a text in place of a value, which is cut like one. -/
def loosened : Glyph → Glyph
  | .char false c => .loose c
  | other => other

abbrev Substitution := Tree → Running String

def assignParameter (name text : String) : Running Unit :=
  if Syntax.isName name.toList then assign name text else fail s!"{name}: bad variable name"

def sumOf (text : String) : Running Int := do
  let state ← get
  match Arithmetic.eval (fun name => (state.parameter? name).getD "") text with
  | .error fault => fail (fault.message text)
  | .ok (value, settings) =>
      settings.reverse.forM fun (name, value) => assign name (decimal value)
      return value

/-- The parts that pieces stand for. At most `fuel` pieces are nested in each other. -/
def expand (substitute : Substitution) : Nat → List Piece → Running (List Glyph)
  | 0, _ => return []
  | fuel + 1, pieces => do
      let parts ← pieces.mapM fun piece => do
        match piece with
        | .char quoted c => return [.char quoted c]
        | .nothing => return [.edge]
        | .command quoted body => return valueGlyphs quoted (commandText (← substitute body))
        | .sum quoted inside =>
            let glyphs ← expand substitute fuel inside
            let text := (wholeField (← get).joint glyphs).text
            return valueGlyphs quoted (decimal (← sumOf text)).toList
        | .parameter quoted name use =>
            let state ← get
            let found := state.parameter? name
            let text := (found.getD "").toList
            let value : List Glyph :=
              if isAll name then state.operandGlyphs quoted name else valueGlyphs quoted text
            let refuseUnset : Running Unit :=
              if found.isNone && !isAll name && state.has 'u' then
                fail s!"{name}: parameter not set"
              else pure ()
            match use with
            | .value =>
                refuseUnset
                return value
            | .length =>
                refuseUnset
                return valueGlyphs quoted (inBase 10 text.length).toList
            | .trim atEnd longest pattern =>
                refuseUnset
                let glyphs ← expand substitute fuel pattern
                let parts := Pattern.ofField (wholeField state.joint glyphs)
                let trim := if atEnd then Pattern.trimEnd else Pattern.trimFront
                return valueGlyphs quoted (trim parts longest text)
            | .senseless => fail "Bad substitution"
            | .fallback kind evenEmpty inside =>
                let isSet := found.any fun text => !(evenEmpty && text.isEmpty)
                if isSet != (kind == .whenSet) then
                  return if isSet then value else if quoted then [.edge] else []
                let glyphs ← expand substitute fuel inside
                let inner := (wholeField state.joint glyphs).text
                match kind with
                | .assigned =>
                    assignParameter name inner
                    return valueGlyphs quoted inner.toList
                | .refused =>
                    let usual := "parameter not set" ++ if evenEmpty then " or null" else ""
                    fail s!"{name}: {if inside.isEmpty then usual else inner}"
                | _ =>
                    return if quoted then .edge :: glyphs else glyphs.map loosened
      return parts.flatten

def nestLimit : Nat := 1000

def State.home? (state : State) (name : String) : Option String :=
  if name.isEmpty then state.textOf? "HOME" else if name = "root" then some "/root" else none

/-- Pieces whose first ones are a tilde and a name, with a home in place of these. Where values are
assigned, a colon ends the name too. -/
def State.withHome (state : State) (assigned : Bool) (pieces : List Piece) : List Piece :=
  let ends (c : Char) : Bool := c == '/' || (assigned && c == ':')
  match pieces with
  | .char false '~' :: rest =>
      let name := rest.takeWhile fun piece =>
        match piece with
        | .char false c => !ends c
        | _ => false
      let behind := rest.drop name.length
      let isEnded : Bool :=
        match behind with
        | [] => true
        | .char false _ :: _ => true
        | _ => false
      match state.home? (Syntax.literal name).1, isEnded with
      | some home, true => home.toList.map (.char true) ++ behind
      | _, _ => pieces
  | _ => pieces

/-- Pieces of a value with homes in place of tildes, at its beginning and behind each colon. -/
def State.withHomes (state : State) : List Piece → List Piece
  | .char false ':' :: rest => .char false ':' :: state.withHome true (state.withHomes rest)
  | piece :: rest => piece :: state.withHomes rest
  | [] => []

def segmentsOf : Field → List Field
  | [] => [[]]
  | (quoted, c) :: rest =>
      match c == '/', segmentsOf rest with
      | true, more => [] :: more
      | false, first :: more => ((quoted, c) :: first) :: more
      | false, [] => [[(quoted, c)]]

/-- The names in a directory that a segment stands for. Hidden names are only found by a dot. -/
def namesFor (files : FileSystem) (folder : String) (segment : Field) : List String :=
  if !segment.isPattern then [segment.text]
  else
    match files.locate (pathOf (if folder.isEmpty then "." else folder)) with
    | .error _ => []
    | .ok location =>
        if files.entryAt? location != some .directory then []
        else
          let parts := Pattern.ofField segment
          ("." :: ".." :: namesIn files location).filter fun name =>
            (name.toList.head? != some '.' || segment.head?.any (·.2 == '.')) &&
              Pattern.standsFor parts name.toList

def pathsFor (files : FileSystem) (folder : String) : List Field → List String
  | [] => []
  | [last] =>
      ((namesFor files folder last).map (folder ++ ·)).filter fun path =>
        (ownLocation files (pathOf path)).isOk
  | segment :: rest =>
      (namesFor files folder segment).flatMap fun name =>
        pathsFor files (folder ++ name ++ "/") rest

/-- The words that a field stands for: paths of entries if it may stand for some and does, and its
own text otherwise. -/
def State.wordsFor (state : State) (field : Field) : List String :=
  if field.isPattern && !state.has 'f' then
    let found := pathsFor state.files "" (segmentsOf field)
    if found.isEmpty then [field.text]
    else found.mergeSort fun left right => decide (left ≤ right)
  else [field.text]

def wordsOf (substitute : Substitution) (pieces : List Piece) : Running (List String) := do
  let glyphs ← expand substitute nestLimit ((← get).withHome false pieces)
  let state ← get
  return (fieldsOf state.separators glyphs).flatMap state.wordsFor

def fieldOf (substitute : Substitution) (pieces : List Piece) : Running Field := do
  let glyphs ← expand substitute nestLimit ((← get).withHome false pieces)
  return wholeField (← get).joint glyphs

def valueOf (substitute : Substitution) (pieces : List Piece) : Running String := do
  let state ← get
  let glyphs ← expand substitute nestLimit (state.withHome true (state.withHomes pieces))
  return (wholeField (← get).joint glyphs).text

end SqlColumns.Shell.Script
