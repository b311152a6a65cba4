import SqlColumns.Shell.Regex.Basic

/-!
# Scripts that edit lines

A script is a list of commands, each with the lines that it is for. Commands work on a text that is
made from the lines, one cycle for each line, and on a second text that is kept between cycles.
-/

set_option autoImplicit false

namespace SqlColumns.Shell.Edit

/-- What is looked for: an expression, how it is looked for, and how many groups it has. -/
structure Finder where
  regex : Regex
  manner : Regex.Manner
  groups : Nat
  deriving DecidableEq, Repr

/-- The lines that a command is for: one with a number, each so many from one on, the last one, or
those in which something is found, perhaps what was looked for last. -/
inductive Place where
  | line (number : Nat)
  | each (start step : Nat)
  | last
  | finding (finder : Option Finder)
  deriving DecidableEq, Repr

/-- Where a range of lines ends: at a line, after so many lines, or at the next line whose number is
a multiple of one. -/
inductive Stop where
  | place (place : Place)
  | after (count : Nat)
  | multiple (of : Nat)
  deriving DecidableEq, Repr

/-- A turn of letters into capitals or small ones: from here on, for the next letter alone, or no
longer. -/
inductive Turn where
  | all (capitals : Bool)
  | next (capitals : Bool)
  | done
  deriving DecidableEq, Repr

/-- A piece of what is put in place of something. -/
inductive Piece where
  | text (chars : List Char)
  | group (number : Nat)
  | turn (turn : Turn)
  deriving DecidableEq, Repr

/-- How something is replaced: what was found, by what, from which time on, whether all times, and
what is done with the text where something was replaced. -/
structure Replacing where
  finder : Option Finder
  pieces : List Piece
  number : Nat
  all : Bool
  prints : Bool
  runs : Bool
  file : Option String
  deriving DecidableEq, Repr

/-- When a command jumps: always, if something has been replaced, or if nothing has. -/
inductive Jump where
  | always
  | replaced
  | unreplaced
  deriving DecidableEq, Repr

/-- What a command does. Commands in braces stand between an opening that knows how many they are,
and a closing. -/
inductive Action where
  | opening (length : Nat)
  | closing
  | label (name : String)
  | append (text : String)
  | insert (text : String)
  | change (text : String)
  | jump (when : Jump) (label : String)
  | delete
  | deleteLine
  | run (command : String)
  | fileName
  | get
  | getMore
  | hold
  | holdMore
  | exchange
  | list (width : Option Nat)
  | next
  | nextMore
  | number
  | print
  | printLine
  | quit (prints : Bool) (code : Nat)
  | readFile (name : String)
  | readLine (name : String)
  | replace (replacing : Replacing)
  | translate (pairs : List (Char × Char))
  | write (name : String)
  | writeLine (name : String)
  | clear
  | nothing
  deriving DecidableEq, Repr

/-- A command: the lines that it is for, or the others, and what it does. -/
structure Command where
  first : Option Place
  stop : Option Stop
  opposite : Bool
  action : Action
  deriving DecidableEq, Repr

end SqlColumns.Shell.Edit
