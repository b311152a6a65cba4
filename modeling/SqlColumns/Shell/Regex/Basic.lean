import SqlColumns.Shell.Pattern

/-!
# Regular expressions

An expression stands for texts at places of a text: the longest of those that begin at the first
place where one begins. Groups of it keep where they were found, and can be asked for again.
-/

set_option autoImplicit false

namespace SqlColumns.Shell

/-- A place that an expression can ask for: a start or an end of lines, texts or words, an edge of a
word, or none of these. -/
inductive Anchor where
  | lineStart
  | lineEnd
  | textStart
  | textEnd
  | wordStart
  | wordEnd
  | wordEdge
  | noEdge
  deriving DecidableEq, Repr

/-- A regular expression. -/
inductive Regex where
  | nothing
  | anyChar
  | among (opposite : Bool) (members : List Member)
  | inOrder (first second : Regex)
  | either (first second : Regex)
  | repeated (least : Nat) (most : Option Nat) (body : Regex)
  | group (number : Nat) (body : Regex)
  | same (number : Nat)
  | anchored (anchor : Anchor)
  deriving DecidableEq, Repr

namespace Regex

/-- How an expression is looked for: whether case counts, and whether lines inside a text do. -/
structure Manner where
  folds : Bool
  lines : Bool
  deriving DecidableEq, Repr

/-- Where groups were found: their numbers, starts and ends. -/
abbrev Captures := List (Nat × Nat × Nat)

/-- A place that is reached, and the groups that were found on the way. -/
abbrev Reached := Nat × Captures

def farthestFirst (places : List Reached) : List Reached :=
  let once := places.foldl (fun (kept : List Reached) place =>
    if kept.any fun one => one.1 == place.1 then kept else place :: kept) []
  once.reverse.mergeSort fun left right => decide (right.1 ≤ left.1)

def isWordChar (c : Char) : Bool :=
  c.isAlphanum || c == '_'

def otherCase (c : Char) : Char :=
  if c.isUpper then c.toLower else c.toUpper

def holds (folds opposite : Bool) (members : List Member) (c : Char) : Bool :=
  (members.any fun member => member.holds c || (folds && member.holds (otherCase c))) != opposite

def isAt (manner : Manner) (text : Array Char) (anchor : Anchor) (place : Nat) : Bool :=
  let before := place != 0 && (text[place - 1]?).any isWordChar
  let behind := (text[place]?).any isWordChar
  match anchor with
  | .textStart => place == 0
  | .textEnd => place == text.size
  | .lineStart => place == 0 || (manner.lines && text[place - 1]? == some '\n')
  | .lineEnd => place == text.size || (manner.lines && text[place]? == some '\n')
  | .wordStart => !before && behind
  | .wordEnd => before && !behind
  | .wordEdge => before != behind
  | .noEdge => before == behind

def between (text : Array Char) (start stop : Nat) : List Char :=
  (text.extract start stop).toList

def again? (manner : Manner) (text : Array Char) (start stop place : Nat) : Option Nat :=
  let wanted := between text start stop
  let found := between text place (place + wanted.length)
  let alike := if manner.folds then wanted.map Char.toLower == found.map Char.toLower
    else wanted == found
  if alike then some (place + wanted.length) else none

/-- All places that are reached by steps from some, and these; at most `turns` steps are made in a
row, and a place that was reached before does not count again. -/
def closure (step : Reached → List Reached) : Nat → List Reached → List Reached → List Reached
  | 0, _, seen => seen
  | turns + 1, places, seen =>
      let next := farthestFirst (places.flatMap step)
      let fresh := next.filter fun one => !seen.any fun other => other.1 == one.1
      if fresh.isEmpty then seen else closure step turns fresh (fresh ++ seen)

def stepped (step : Reached → List Reached) : Nat → List Reached → List Reached
  | 0, places => places
  | count + 1, places => stepped step count (farthestFirst (places.flatMap step))

/-- The places behind the texts that an expression stands for at a place, the farthest first. -/
def ends (manner : Manner) (text : Array Char) : Regex → Reached → List Reached
  | .nothing, reached => [reached]
  | .anyChar, (place, captures) => if place < text.size then [(place + 1, captures)] else []
  | .among opposite members, (place, captures) =>
      if (text[place]?).any (holds manner.folds opposite members) then [(place + 1, captures)]
      else []
  | .inOrder first second, reached =>
      farthestFirst ((ends manner text first reached).flatMap (ends manner text second))
  | .either first second, reached =>
      farthestFirst (ends manner text first reached ++ ends manner text second reached)
  | .repeated least most body, reached =>
      let step := ends manner text body
      let first := stepped step least [reached]
      let turns :=
        match most with
        | some most => most - least
        | none => text.size + 1
      farthestFirst (closure step turns first first)
  | .group number body, (place, captures) =>
      (ends manner text body (place, captures)).map fun (stop, found) =>
        (stop, (number, place, stop) :: found.filter fun one => one.1 != number)
  | .same number, (place, captures) =>
      match captures.find? fun one => one.1 == number with
      | some (_, start, stop) =>
          ((again? manner text start stop place).map fun behind => (behind, captures)).toList
      | none => []
  | .anchored anchor, (place, captures) =>
      if isAt manner text anchor place then [(place, captures)] else []

/-- Where an expression was found: the places of its start and end, and its groups. -/
structure Found where
  start : Nat
  stop : Nat
  captures : Captures
  deriving Repr

def Found.group? (found : Found) (number : Nat) : Option (Nat × Nat) :=
  if number = 0 then some (found.start, found.stop)
  else (found.captures.find? fun one => one.1 == number).map (·.2)

/-- The first of some starts where an expression is found, with the farthest end that fits. -/
def firstFound? (regex : Regex) (manner : Manner) (text : Array Char)
    (fits : Nat → Nat → Bool) : List Nat → Option Found
  | [] => none
  | start :: starts =>
      match (regex.ends manner text (start, [])).find? fun one => fits start one.1 with
      | some (stop, captures) => some ⟨start, stop, captures⟩
      | none => firstFound? regex manner text fits starts

/-- The first place from `start` on where an expression is found. -/
def search? (regex : Regex) (manner : Manner) (text : Array Char) (start : Nat) : Option Found :=
  regex.firstFound? manner text (fun _ _ => true)
    ((List.range (text.size + 1 - start)).map (· + start))

def isFound (regex : Regex) (manner : Manner) (text : String) : Bool :=
  (regex.search? manner text.toList.toArray 0).isSome

def ofText (text : List Char) : Regex :=
  text.foldr (fun c rest => .inOrder (.among false [.range c c]) rest) .nothing

end Regex

end SqlColumns.Shell
