import SqlColumns.Shell.CharClass
import SqlColumns.Shell.Format
import SqlColumns.Shell.Report
import SqlColumns.Shell.Tools.Printing

/-!
# Exchanging characters

A program that puts characters in place of others, drops them, or makes one of several. What is
exchanged is told by sets of characters: single ones, ranges, classes, and one again and again.
-/

set_option autoImplicit false

namespace SqlColumns.Shell.Tools

/-- A part of a set: characters in order, a class of letters of one case, another class, and a
character so many times, or as often as there is room. -/
inductive SetPart where
  | chars (members : List Char)
  | letters (upper : Bool)
  | group (members : List Char)
  | again (c : Char) (count : Nat)
  deriving DecidableEq, Repr

def octets : List Char :=
  (List.range 256).map Char.ofNat

/-- A character in a set, whether it was behind a backslash, and the text behind it. -/
def readSetChar (text : List Char) : Option ((Bool × Char) × List Char) :=
  match text with
  | '\\' :: c :: rest =>
      match octalValue? c with
      | some first =>
          let digits := (rest.takeWhile fun c => (octalValue? c).isSome).take 2
          let value := digits.foldl (fun value c => value * 8 + (octalValue? c).getD 0) first
          let fewer := digits.dropLast
          if 255 < value then
            let value := fewer.foldl (fun value c => value * 8 + (octalValue? c).getD 0) first
            some ((true, Char.ofNat value), rest.drop fewer.length)
          else some ((true, Char.ofNat value), rest.drop digits.length)
      | none =>
          match escaped? c with
          | some found => some ((true, found), rest)
          | none => some ((true, c), rest)
  | c :: rest => some ((false, c), rest)
  | [] => none

/-- The characters of a text with what is special about them taken away: each with whether it was
behind a backslash. The text is read as far as `fuel` characters. -/
def setChars : Nat → List Char → List (Bool × Char)
  | 0, _ => []
  | fuel + 1, text =>
      match readSetChar text with
      | some (one, rest) => one :: setChars fuel rest
      | none => []

/-- A class or a character that stands for those like it, behind an opening bracket and a mark, and
the text behind it; or a complaint. -/
def readSetClass (mark : Char) (text : List (Bool × Char)) :
    Except String (Option (SetPart × List (Bool × Char))) :=
  let rec find : Nat → Nat → Option Nat
    | 0, _ => none
    | fuel + 1, place =>
        if text[place]? = some (false, mark) ∧ text[place + 1]? = some (false, ']') then some place
        else find fuel (place + 1)
  match find text.length 0 with
  | none => .ok none
  | some place =>
      let name := (text.take place).map (·.2)
      let behind := text.drop (place + 2)
      let shown := String.ofList name
      if mark = ':' then
        match shown, classNamed? shown with
        | "upper", _ => .ok (some (.letters true, behind))
        | "lower", _ => .ok (some (.letters false, behind))
        | _, some holds => .ok (some (.group (octets.filter holds), behind))
        | _, none =>
            if shown.isEmpty then .error "missing character class name '[::]'"
            else .error s!"invalid character class {cited shown}"
      else
        match name with
        | [c] => .ok (some (.chars [c], behind))
        | [] => .error "missing equivalence class character '[==]'"
        | _ => .error s!"{shown}: equivalence class operand must be a single character"

/-- A character that is repeated, behind an opening bracket, and the text behind it; or a complaint.
-/
def readSetAgain (text : List (Bool × Char)) :
    Except String (Option (SetPart × List (Bool × Char))) :=
  match text with
  | (_, c) :: (false, '*') :: rest =>
      let digits := rest.takeWhile fun one => one != (false, ']')
      match rest.drop digits.length with
      | _ :: behind =>
          let text := digits.map (·.2)
          if text.isEmpty then .ok (some (.again c 0, behind))
          else
            let base := if text.head? = some '0' then 8 else 10
            if text.all (isDigitIn base) then .ok (some (.again c (valueIn base text), behind))
            else
              .error s!"invalid repeat count {cited (String.ofList text)} in [c*n] construct"
      | [] => .ok none
  | _ => .ok none

/-- The parts of a set, or a complaint. The text is read as far as `fuel` parts. -/
def readSetParts : Nat → List (Bool × Char) → Except String (List SetPart)
  | 0, _ | _, [] => .ok []
  | fuel + 1, one :: rest => do
      if one = (false, '[') then
        match rest with
        | (false, mark) :: more =>
            if mark = ':' ∨ mark = '=' then
              if let some (part, behind) ← readSetClass mark more then
                return part :: (← readSetParts fuel behind)
        | _ => pure ()
        if let some (part, behind) ← readSetAgain rest then
          return part :: (← readSetParts fuel behind)
      match rest with
      | (false, '-') :: (_, last) :: behind =>
          if last < one.2 then
            let ends := String.ofList [one.2, '-', last]
            throw s!"range-endpoints of '{ends}' are in reverse collating sequence order"
          let count := last.toNat - one.2.toNat + 1
          let members := (List.range count).map fun step => Char.ofNat (one.2.toNat + step)
          return .chars members :: (← readSetParts fuel behind)
      | _ => return .chars [one.2] :: (← readSetParts fuel rest)

def readSetText (text : String) : Except String (List SetPart) :=
  let chars := setChars (text.length + 1) text.toList
  readSetParts (chars.length + 1) chars

def lettersOf (upper : Bool) : List Char :=
  octets.filter fun c => if upper then c.isUpper else c.isLower

def SetPart.members (part : SetPart) : List Char :=
  match part with
  | .chars members | .group members => members
  | .letters upper => lettersOf upper
  | .again c count => List.replicate count c

def setMembers (parts : List SetPart) : List Char :=
  parts.flatMap SetPart.members

/-- The characters of a set that has to have a number of them: what is repeated as often as there is
room fills it up. -/
def filledMembers (length : Nat) (parts : List SetPart) : List Char :=
  let missing := length - (setMembers parts).length
  parts.flatMap fun part =>
    match part with
    | .again c 0 => List.replicate missing c
    | part => part.members

def isCased : SetPart → Bool
  | .letters _ => true
  | _ => false

/-- Pairs of characters of which the second ones come in place of the first ones, or a complaint. -/
def exchanges (cutShort complement : Bool) (first second : List SetPart) :
    Except String (List (Char × Char)) := do
  let others := second.any fun part =>
    match part with
    | .group _ => true
    | _ => false
  if others then
    throw ("when translating, the only character classes that may appear in\n" ++
      "string2 are 'upper' and 'lower'")
  let sources := setMembers first
  let sources := if complement then octets.filter fun c => !sources.contains c else sources
  let targets := filledMembers sources.length second
  if targets.isEmpty ∧ !cutShort then
    throw "when not truncating set1, string2 must be non-empty"
  let startOf (parts : List SetPart) (part : SetPart × Nat) : Nat :=
    (filledMembers sources.length (parts.take part.2)).length
  let aligned := second.zipIdx.all fun part =>
    !isCased part.1 || complement || first.zipIdx.any fun other =>
      isCased other.1 && startOf first other == startOf second part
  if !aligned then throw "misaligned [:upper:] and/or [:lower:] construct"
  let endsCased := second.getLast?.any isCased
  if targets.length < sources.length ∧ !cutShort then
    if endsCased then
      throw ("when translating with string1 longer than string2,\n" ++
        "the latter string must not end with a character class")
    let last := targets.getLast?.getD ' '
    return sources.zip (targets ++ List.replicate (sources.length - targets.length) last)
  return sources.zip targets

/-- A text in which runs of some characters are made one of them. -/
def squeezed (members : List Char) (text : List Char) : List Char :=
  (text.foldl (fun kept c =>
    if kept.head? = some c ∧ members.contains c then kept else c :: kept) []).reverse

def setWarnings (called text : String) : List String :=
  let ending := (text.toList.reverse.takeWhile (· == '\\')).length
  if ending % 2 = 1 then
    [s!"{called}: warning: an unescaped backslash at end of string is not portable\n"]
  else []

/-- Puts characters in place of others, drops them, or makes one of several. -/
def exchange : Utility :=
  withOptions 1 ⟨"cCdst", [("complement", 'c'), ("delete", 'd'), ("squeeze-repeats", 's'),
    ("truncate-set1", 't')]⟩ true fun scene choices sets =>
      let complement := given choices 'c' || given choices 'C'
      let drops := given choices 'd'
      let squeezes := given choices 's'
      let least := if drops = squeezes then 2 else 1
      let most := if drops ∧ !squeezes then 1 else 2
      match sets[0]?, sets[1]?, sets[most]? with
      | none, _, _ => missingOperand 1 "operand" scene sets
      | some first, none, _ =>
          if least = 2 then
            let reason := if squeezes then
                "Two strings must be given when both deleting and squeezing repeats."
              else "Two strings must be given when translating."
            scene.misuse 1 (s!"missing operand after {cited first}\n" ++ reason)
          else work scene complement drops squeezes false first none
      | _, _, some extra =>
          let reason := if sets.length = 2 then
              "\nOnly one string may be given when deleting without squeezing repeats."
            else ""
          scene.misuse 1 (s!"extra operand {cited extra}" ++ reason)
      | some first, second, none =>
          work scene complement drops squeezes (given choices 't') first second
where
  /-- What is printed for sets. -/
  work (scene : Scene) (complement drops squeezes cutShort : Bool) (first : String)
      (second : Option String) : Ended :=
    let text := scene.input.text.toList
    let result : Except String (List Char) := do
      let parts ← readSetText first
      if parts.any fun part => match part with
        | .again _ 0 => true
        | _ => false then
        throw "the [c*] repeat construct may not appear in string1"
      let members := setMembers parts
      let holds (c : Char) : Bool := members.contains c != complement
      match second with
      | none =>
          if drops then return text.filter fun c => !holds c
          else return squeezed (octets.filter holds) text
      | some second =>
          let others ← readSetText second
          if drops then
            return squeezed (filledMembers members.length others) (text.filter fun c => !holds c)
          else
            let pairs ← exchanges cutShort complement parts others
            let backwards := pairs.reverse
            let table := (octets.map fun c =>
              ((backwards.find? fun pair => pair.1 == c).map (·.2)).getD c).toArray
            let changed := text.map fun c => table.getD c.toNat c
            if squeezes then return squeezed (pairs.map (·.2)) changed else return changed
    let warnings := (first :: second.toList).flatMap (setWarnings scene.called)
    match result with
    | .error complaint =>
        scene.ended 1 "" (String.join warnings ++ s!"{scene.called}: {complaint}\n")
    | .ok shown => (scene.ended 0 (String.ofList shown) (String.join warnings)).afterReading

end SqlColumns.Shell.Tools
