import SqlColumns.Shell.Regex.Basic

/-!
# Programs that work on records

A program is a list of rules: what has to hold of a record, and what is done with it. Some rules are
for the time before the first record, some for the time behind the last one. Functions have names
for what they are given and for what is their own.
-/

set_option autoImplicit false

namespace SqlColumns.Shell.Records

/-- A way to make a number of two. -/
inductive Sum where
  | add
  | subtract
  | multiply
  | divide
  | remainder
  | power
  deriving DecidableEq, Repr

/-- How two values may stand to each other. -/
inductive Order where
  | less
  | atMost
  | equal
  | unequal
  | more
  | atLeast
  deriving DecidableEq, Repr

/-- A function that every program knows. -/
inductive Known where
  | length
  | part
  | index
  | split
  | replace (everywhere : Bool)
  | find
  | form
  | sine
  | cosine
  | angle
  | exponential
  | logarithm
  | root
  | whole
  | random
  | seed
  | small
  | capital
  | system
  | close
  | flush
  | moment
  | date
  deriving DecidableEq, Repr

/-- Where the next record is read from: the input of the program, a file, or what a command prints.
-/
inductive Origin (Term : Type) where
  | input
  | file (name : Term)
  | command (text : Term)

/-- What has a value. Terms in parentheses stay in a group, of which some have more than one term.
-/
inductive Term where
  | number (value : Float)
  | text (value : String)
  | regex (regex : Regex)
  | variable (name : String)
  | field (index : Term)
  | element (array : String) (keys : List Term)
  | group (parts : List Term)
  | assign (target value : Term)
  | change (sum : Sum) (target value : Term)
  | count (up before : Bool) (target : Term)
  | signed (negative : Bool) (body : Term)
  | opposite (body : Term)
  | sum (sum : Sum) (left right : Term)
  | compare (order : Order) (left right : Term)
  | joined (left right : Term)
  | fits (opposite : Bool) (text pattern : Term)
  | member (keys : List Term) (array : String)
  | both (left right : Term)
  | either (left right : Term)
  | choice (condition first second : Term)
  | call (name : String) (arguments : List Term)
  | known (function : Known) (arguments : List Term)
  | reading (origin : Origin Term) (target : Option Term)

/-- Where something is printed to: a file that is made anew or written on, or a command. -/
inductive Outlet where
  | file (behind : Bool) (name : Term)
  | command (text : Term)

/-- A step of a program. -/
inductive Step where
  | nothing
  | value (term : Term)
  | print (values : List Term) (outlet : Option Outlet)
  | printForm (values : List Term) (outlet : Option Outlet)
  | row (steps : List Step)
  | choice (condition : Term) (first second : Step)
  | loop (condition : Term) (body : Step)
  | loopBehind (body : Step) (condition : Term)
  | loopOver (start : Step) (condition : Option Term) (next : Step) (body : Step)
  | each (name array : String) (body : Step)
  | leave
  | again
  | nextRecord
  | nextFile
  | exit (code : Option Term)
  | give (value : Option Term)
  | delete (array : String) (keys : List Term)

/-- When a rule is for a record: always, if something holds, or from where something holds to where
something else does. -/
inductive Selection where
  | always
  | holding (condition : Term)
  | between (first last : Term)

/-- A rule: when it is for a record, and what is done; the record is printed if nothing is told. -/
structure Rule where
  selection : Selection
  steps : Option (List Step)

/-- A function of a program. -/
structure Function where
  parameters : List String
  steps : List Step

/-- A program. -/
structure Program where
  before : List (List Step)
  rules : List Rule
  behind : List (List Step)
  functions : List (String × Function)

end SqlColumns.Shell.Records
