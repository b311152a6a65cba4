import SqlColumns.Text.Utf8

/-!
# Globs

A glob is a pattern for paths below a directory. It is read into tokens: characters, classes of
characters, stars, and choices between rows of tokens. What cannot be read has a fault.
-/

set_option autoImplicit false

namespace SqlColumns

namespace Glob

/-- A part of a glob: a character, any character but a slash, any run of those, a class of
characters, two stars at the start, in the middle or at the end of directories, or a choice between
branches, none of which stands for the empty text alone. -/
inductive Token where
  | literal (c : Char)
  | any
  | star
  | oneOf (negated : Bool) (ranges : List (Char × Char))
  | deepStart
  | deepMiddle
  | deepEnd
  | choice (branches : List (List Token))
  deriving Repr

/-- Why a glob cannot be read. -/
inductive Fault where
  | unopenedChoice
  | unclosedChoice
  | reversedRange (low high : Char)
  | danglingEscape
  deriving DecidableEq, Repr

def Fault.message : Fault → String
  | .unopenedChoice =>
      "unopened alternate group; missing '\x7b' (maybe escape '\x7d' with '[\x7d]'?)"
  | .unclosedChoice =>
      "unclosed alternate group; missing '\x7d' (maybe escape '\x7b' with '[\x7b]'?)"
  | .reversedRange low high => s!"invalid range; '{low}' > '{high}'"
  | .danglingEscape => "dangling '\\'"

/-- How the reading of a class ends: at its closing bracket, with its ranges and the text behind it;
at the end of the glob; or at a range whose ends are the wrong way round. -/
inductive ClassReading where
  | closed (ranges : List (Char × Char)) (behind : List Char)
  | unclosed
  | reversed (low high : Char)
  deriving DecidableEq, Repr

/-- A class behind its bracket and its negation: the ranges read so far, last first, whether the
next character is the first one, and whether the last range waits for its end. -/
def readRanges (ranges : List (Char × Char)) (first waiting : Bool) : List Char → ClassReading
  | [] => .unclosed
  | c :: rest =>
      if c = ']' ∧ first = false then
        .closed (if waiting then ('-', '-') :: ranges else ranges).reverse rest
      else if c = '-' ∧ first = false ∧ waiting = false then readRanges ranges false true rest
      else
        match waiting, ranges with
        | true, (low, _) :: others =>
            if c < low then .reversed low c else readRanges ((low, c) :: others) false false rest
        | _, _ => readRanges ((c, c) :: ranges) false false rest

theorem length_lt_of_readRanges {ranges found : List (Char × Char)} {first waiting : Bool}
    {text behind : List Char} (read : readRanges ranges first waiting text = .closed found behind) :
    behind.length < text.length := by
  fun_induction readRanges ranges first waiting text <;> grind

def classBody : List Char → Bool × List Char
  | '!' :: rest | '^' :: rest => (true, rest)
  | text => (false, text)

theorem length_classBody_le (text : List Char) : (classBody text).2.length ≤ text.length := by
  fun_cases classBody text <;> grind

def readClass (text : List Char) : ClassReading :=
  readRanges [] true false (classBody text).2

theorem length_lt_of_readClass {text behind : List Char} {ranges : List (Char × Char)}
    (read : readClass text = .closed ranges behind) : behind.length < text.length :=
  Nat.lt_of_lt_of_le (length_lt_of_readRanges read) (length_classBody_le text)

/-- An open choice: the tokens in front of it and its finished branches, both last first. -/
structure Group where
  front : List Token
  branches : List (List Token)
  deriving Repr

def Token.isEmpty : Token → Bool
  | .choice [] => true
  | _ => false

/-- The choice of a group whose last branch ends; branches that stand for the empty text alone do
not count. -/
def Group.close (group : Group) (last : List Token) : Token :=
  .choice (((last :: group.branches).reverse.map List.reverse).filter
    fun branch => !branch.all Token.isEmpty)

/-- Whether two stars stand for nothing but two single ones, are at the end of the glob or of a
branch, or lie between slashes. -/
inductive Stars where
  | single
  | atEnd
  | between
  deriving DecidableEq, Repr

/-- What two stars behind other tokens of a branch are, by the characters around them. -/
def starsBetween (grouped : Bool) (previous : Option Char) (rest : List Char) : Stars :=
  if previous != some '/' && !(grouped && (previous == some ',' || previous == some '\x7b')) then
    .single
  else
    match rest with
    | [] => .atEnd
    | c :: _ =>
        if c = '/' then .between
        else if grouped && (c == ',' || c == '\x7d') then .atEnd
        else .single

/-- Tokens, last first, with two stars in place of the last one, which is a slash or two stars
that say the same already. -/
def pushStars (token : Token) : List Token → List Token
  | .deepStart :: tokens => .deepStart :: tokens
  | .deepEnd :: tokens => .deepEnd :: tokens
  | _ :: tokens => token :: tokens
  | [] => [token]

/-- Reads a glob behind the character `previous`, inside of `groups`, the innermost first. The
tokens of the current branch are `current`, last first. Once a class did not close, brackets are
`plain`: they stand for themselves. -/
def readTokens (plain : Bool) (groups : List Group) (current : List Token)
    (previous : Option Char) (text : List Char) : Except Fault (List Token) :=
  match text with
  | [] => if groups.isEmpty then .ok current.reverse else .error .unclosedChoice
  | '*' :: '*' :: rest =>
      if current.isEmpty then
        match rest with
        | [] => readTokens plain groups (.deepStart :: current) (some '*') []
        | '/' :: rest => readTokens plain groups (.deepStart :: current) (some '/') rest
        | other => readTokens plain groups (.star :: .star :: current) (some '*') other
      else
        match starsBetween (!groups.isEmpty) previous rest with
        | .single => readTokens plain groups (.star :: .star :: current) (some '*') rest
        | .atEnd => readTokens plain groups (pushStars .deepEnd current) (some '*') rest
        | .between => readTokens plain groups (pushStars .deepMiddle current) (some '/') rest.tail
  | '*' :: rest => readTokens plain groups (.star :: current) (some '*') rest
  | '?' :: rest => readTokens plain groups (.any :: current) (some '?') rest
  | '[' :: rest =>
      if plain then readTokens true groups (.literal '[' :: current) (some '[') rest
      else
        match read : readClass rest with
        | .closed ranges behind =>
            have : behind.length < rest.length := length_lt_of_readClass read
            readTokens false groups (.oneOf (classBody rest).1 ranges :: current) (some ']') behind
        | .unclosed => readTokens true groups (.literal '[' :: current) (some '[') rest
        | .reversed low high => .error (.reversedRange low high)
  | '\x7b' :: rest => readTokens plain (⟨current, []⟩ :: groups) [] (some '\x7b') rest
  | '\x7d' :: rest =>
      match groups with
      | [] => .error .unopenedChoice
      | group :: groups =>
          readTokens plain groups (group.close current :: group.front) (some '\x7d') rest
  | ',' :: rest =>
      match groups with
      | [] => readTokens plain [] (.literal ',' :: current) (some ',') rest
      | group :: groups =>
          readTokens plain ({ group with branches := current :: group.branches } :: groups) []
            (some ',') rest
  | '\\' :: c :: rest => readTokens plain groups (.literal c :: current) (some c) rest
  | ['\\'] => .error .danglingEscape
  | c :: rest => readTokens plain groups (.literal c :: current) (some c) rest
termination_by text.length
decreasing_by
  all_goals (simp only [List.length_cons, List.length_nil, List.length_tail]; omega)

end Glob

/-- A pattern for paths. -/
structure Glob where
  tokens : List Glob.Token
  deriving Repr

namespace Glob

def parse (text : List Char) : Except Fault Glob :=
  match readTokens false [] [] none text with
  | .error fault => .error fault
  | .ok tokens => .ok ⟨tokens⟩

def isEverything : Glob → Bool
  | ⟨[.deepStart]⟩ => true
  | _ => false

end Glob

end SqlColumns
