import SqlColumns.Shell.CharClass

/-!
# Patterns

A pattern stands for texts: a star for any text, a question mark for any character, and a set
between brackets for one of its members. Characters that quotes are around stand for themselves.
-/

set_option autoImplicit false

namespace SqlColumns.Shell

/-- Text that is to become words: characters each with whether quotes are around it. -/
abbrev Field := List (Bool × Char)

def Field.text (field : Field) : String :=
  String.ofList (field.map (·.2))

def Field.isPattern (field : Field) : Bool :=
  field.any fun one => !one.1 && "*?[".toList.contains one.2

/-- A member of a set: the characters from one to another, or a class. -/
inductive Member where
  | range (low high : Char)
  | named (name : String)
  deriving DecidableEq, Repr

def Member.holds (member : Member) (c : Char) : Bool :=
  match member with
  | .range low high => low ≤ c && c ≤ high
  | .named name => (classNamed? name).any (· c)

/-- A part of a pattern. -/
inductive PatternPart where
  | anything
  | one
  | among (opposite : Bool) (members : List Member)
  | exactly (c : Char)
  deriving DecidableEq, Repr

namespace Pattern

/-- The members of a set up to its closing bracket, and the field behind that. A bracket in front is
a member. The field is read as far as `fuel` members. -/
def members? : Nat → Bool → Field → Option (List Member × Field)
  | 0, _, _ | _, _, [] => none
  | fuel + 1, first, (quoted, c) :: rest =>
      if c = ']' ∧ !quoted ∧ !first then some ([], rest)
      else
        match if quoted then none else readClass? (((quoted, c) :: rest).map (·.2)) with
        | some (name, behind) =>
            (members? fuel false (rest.drop (rest.length - behind.length))).map
              fun (members, behind) => (.named name :: members, behind)
        | none =>
            match rest with
            | (false, '-') :: (limitQuoted, limit) :: more =>
                if limit = ']' ∧ !limitQuoted then
                  (members? fuel false rest).map fun (members, behind) =>
                    (.range c c :: members, behind)
                else
                  (members? fuel false more).map fun (members, behind) =>
                    (.range c limit :: members, behind)
            | _ =>
                (members? fuel false rest).map fun (members, behind) =>
                  (.range c c :: members, behind)

/-- The parts of a pattern. The field is read as far as `fuel` parts. -/
def partsFrom : Nat → Field → List PatternPart
  | 0, _ | _, [] => []
  | fuel + 1, (quoted, c) :: rest =>
      if quoted then .exactly c :: partsFrom fuel rest
      else if c = '*' then .anything :: partsFrom fuel rest
      else if c = '?' then .one :: partsFrom fuel rest
      else if c = '[' then
        let opposite := rest.head?.any fun one => one == (false, '!') || one == (false, '^')
        match members? rest.length true (if opposite then rest.drop 1 else rest) with
        | some (members, behind) => .among opposite members :: partsFrom fuel behind
        | none => .exactly c :: partsFrom fuel rest
      else .exactly c :: partsFrom fuel rest

def ofField (field : Field) : List PatternPart :=
  partsFrom field.length field

/-- The field of a text in which backslashes quote the characters behind them. -/
def fieldOf : List Char → Field
  | '\\' :: c :: rest => (true, c) :: fieldOf rest
  | c :: rest => (false, c) :: fieldOf rest
  | [] => []

def standsFor (parts : List PatternPart) (text : List Char) : Bool :=
  match parts, text with
  | [], text => text.isEmpty
  | .anything :: parts, [] => standsFor parts []
  | .anything :: parts, c :: text =>
      standsFor parts (c :: text) || standsFor (.anything :: parts) text
  | .one :: parts, _ :: text => standsFor parts text
  | .among opposite members :: parts, c :: text =>
      (members.any (·.holds c)) != opposite && standsFor parts text
  | .exactly one :: parts, c :: text => one == c && standsFor parts text
  | _ :: _, [] => false
termination_by (text.length, parts.length)

/-- The shortest or the longest of some lengths at which a part of a text matches. -/
def trimLength? (longest : Bool) (length : Nat) (fits : Nat → Bool) : Option Nat :=
  let lengths := (List.range (length + 1)).filter fits
  if longest then lengths.getLast? else lengths.head?

def trimFront (parts : List PatternPart) (longest : Bool) (text : List Char) : List Char :=
  match trimLength? longest text.length fun length => standsFor parts (text.take length) with
  | some length => text.drop length
  | none => text

def trimEnd (parts : List PatternPart) (longest : Bool) (text : List Char) : List Char :=
  let behind (length : Nat) : List Char := text.drop (text.length - length)
  match trimLength? longest text.length fun length => standsFor parts (behind length) with
  | some length => text.take (text.length - length)
  | none => text

end Pattern

end SqlColumns.Shell
