/-!
# Scripts as trees

A script is a row of commands. Commands are made of words and of other commands, and words are made
of pieces: characters, parameters, commands whose output is taken, and sums. So pieces and commands
are one syntax.
-/

set_option autoImplicit false

namespace SqlColumns.Shell

/-- When a text stands in place of a parameter: where the parameter is not set, the same and the
text becomes its value, or where it is set; or the text is a complaint that it is not set. -/
inductive Fallback where
  | unset
  | assigned
  | whenSet
  | refused
  deriving DecidableEq, Repr

/-- When a command runs: always, or by how the one before it ended. -/
inductive Joint where
  | always
  | onSuccess
  | onFailure
  deriving DecidableEq, Repr

/-- What a redirection does with a file, or that it takes over what another number stands for. -/
inductive MoveKind where
  | write
  | append
  | read
  | readWrite
  | copy
  deriving DecidableEq, Repr

mutual

/-- A piece of a word: a character, quotes around nothing, what is made of a parameter, what a
command prints, or the value of a sum. Values are not cut into fields when they are `quoted`. -/
inductive Piece where
  | char (quoted : Bool) (c : Char)
  | nothing
  | parameter (quoted : Bool) (name : String) (use : Use)
  | command (quoted : Bool) (body : Tree)
  | sum (quoted : Bool) (inside : List Piece)

/-- What is made of a parameter: its value, its length, its value or a text in its place, its value
without what a pattern stands for at one side, or nothing that makes sense. -/
inductive Use where
  | value
  | length
  | fallback (kind : Fallback) (evenEmpty : Bool) (text : List Piece)
  | trim (atEnd longest : Bool) (pattern : List Piece)
  | senseless

/-- A redirection of what a number stands for: to a file, or to a text. -/
inductive Move where
  | file (number : Nat) (kind : MoveKind) (target : List Piece)
  | document (number : Nat) (body : List Piece)

/-- A command: nothing, values for variables and words on a line, two commands in a row or with a
pipe between them, the opposite of a command, one that is not waited for, one that runs on its own,
one with redirections, a choice, a loop as long as a condition holds or fails, a loop over words, a
choice by patterns, or a definition of a function. -/
inductive Tree where
  | skip
  | simple (line : Nat) (assigned : List (String × List Piece)) (words : List (List Piece))
      (moves : List Move)
  | row (joint : Joint) (first second : Tree)
  | pipe (first second : Tree)
  | opposite (body : Tree)
  | background (body : Tree)
  | alone (line : Nat) (body : Tree) (moves : List Move)
  | moved (line : Nat) (body : Tree) (moves : List Move)
  | choice (condition body other : Tree)
  | loop (holds : Bool) (condition body : Tree)
  | each (line : Nat) (name : String) (words : List (List Piece)) (body : Tree)
  | select (line : Nat) (subject : List Piece) (branches : List (List (List Piece) × Tree))
  | define (name : String) (body : Tree)

end

namespace Syntax

/-- Why a script has no meaning. -/
inductive Fault where
  | openQuote
  | openBackQuote
  | openBrace
  | openSum
  | loopName
  | functionName
  | descriptor
  | unexpected (found : String) (expected : Option String)
  deriving DecidableEq, Repr

def Fault.message : Fault → String
  | .openQuote => "Syntax error: Unterminated quoted string"
  | .openBackQuote => "Syntax error: EOF in backquote substitution"
  | .openBrace => "Syntax error: Missing '\x7d'"
  | .openSum => "Syntax error: Missing '))'"
  | .loopName => "Syntax error: Bad for loop variable"
  | .functionName => "Syntax error: Bad function name"
  | .descriptor => "Syntax error: Bad fd number"
  | .unexpected found none => s!"Syntax error: {found} unexpected"
  | .unexpected found (some expected) =>
      s!"Syntax error: {found} unexpected (expecting {expected})"

/-- Why a script cannot be read on, and the line where that shows. -/
structure Refusal where
  line : Nat
  cause : Fault
  deriving DecidableEq, Repr

def isNameChar (c : Char) : Bool :=
  c.isAlphanum || c == '_'

def isName (text : List Char) : Bool :=
  text.all isNameChar && text.head?.any fun c => !c.isDigit

def isSign (c : Char) : Bool :=
  "!#-*@?$".toList.contains c

def plainText? (pieces : List Piece) : Option String :=
  (pieces.mapM fun (piece : Piece) =>
    match piece with
    | .char false c => some c
    | _ => none).map String.ofList

/-- The text of pieces that are characters, and whether quotes are around any of them. -/
def literal (pieces : List Piece) : String × Bool :=
  (String.ofList (pieces.filterMap fun (piece : Piece) =>
    match piece with
    | .char _ c => some c
    | _ => none),
    pieces.any fun (piece : Piece) =>
      match piece with
      | .char quoted _ => quoted
      | _ => true)

/-- The name and the pieces of the value of a word that sets a variable. -/
def assignment? (pieces : List Piece) : Option (String × List Piece) :=
  let name := pieces.takeWhile fun piece =>
    match piece with
    | .char false c => isNameChar c
    | _ => false
  match plainText? name, pieces.drop name.length with
  | some text, .char false '=' :: value => if isName text.toList then some (text, value) else none
  | _, _ => none

end Syntax

end SqlColumns.Shell
