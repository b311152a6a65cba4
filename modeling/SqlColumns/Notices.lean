/-!
# Notices

What a run tells beside its result: notes on its progress, details, warnings and successes.
A quiet run tells warnings only, and only a verbose one tells details.
-/

set_option autoImplicit false

namespace SqlColumns

/-- One thing to tell. -/
inductive Notice where
  | note (text : String)
  | detail (text : String)
  | warning (text : String)
  | success (text : String)
  deriving DecidableEq, Repr

/-- How much is told. -/
structure Verbosity where
  quiet : Bool
  verbose : Bool
  deriving DecidableEq, Repr, Inhabited

/-- The colours of notices. -/
inductive Colour where
  | cyan
  | yellow
  | green
  | dimmed
  deriving DecidableEq, Repr

namespace Colour

def opening : Colour → List Char
  | .cyan => ['\x1b', '[', '3', '6', 'm']
  | .yellow => ['\x1b', '[', '3', '3', 'm']
  | .green => ['\x1b', '[', '3', '2', 'm']
  | .dimmed => ['\x1b', '[', '2', 'm']

def closing : List Char := ['\x1b', '[', '0', 'm']

/-- A text in which the colour is turned on again wherever it is turned off. -/
def resumed (colour : Colour) : List Char → List Char
  | '\x1b' :: '[' :: '0' :: 'm' :: rest => closing ++ colour.opening ++ resumed colour rest
  | c :: rest => c :: resumed colour rest
  | [] => []

def paint (colour : Colour) (text : String) : String :=
  String.ofList (colour.opening ++ resumed colour text.toList ++ closing)

end Colour

namespace Notice

def isTold (verbosity : Verbosity) : Notice → Bool
  | .note _ | .success _ => !verbosity.quiet
  | .detail _ => verbosity.verbose && !verbosity.quiet
  | .warning _ => true

def painted (coloured : Bool) (colour : Colour) (text : String) : String :=
  if coloured then colour.paint text else text

def line (coloured : Bool) : Notice → String
  | .note text => painted coloured .cyan "•" ++ " " ++ text ++ "\n"
  | .detail text => "  " ++ painted coloured .dimmed text ++ "\n"
  | .warning text => painted coloured .yellow "⚠" ++ " " ++ text ++ "\n"
  | .success text => painted coloured .green "✓" ++ " " ++ text ++ "\n"

def tell (verbosity : Verbosity) (coloured : Bool) (notices : List Notice) : String :=
  String.join ((notices.filter (isTold verbosity)).map (line coloured))

end Notice

end SqlColumns
