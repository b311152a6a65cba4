import SqlColumns.Identifier.Basic

/-!
# Ranges of an identifier

Where an identifier may be found in a text, said without a search: a range of characters that match
it and that stands alone. A greedy selection takes, from left to right, the valid range with the
least start behind the one before it, and stops when none is left.
-/

set_option autoImplicit false

namespace SqlColumns

/-- Characters of a text from `start` up to, but not including, `stop`. -/
structure CharRange where
  start : Nat
  stop : Nat
  deriving DecidableEq, Repr

namespace CharRange

def slice (range : CharRange) (text : List Char) : List Char :=
  (text.drop range.start).take (range.stop - range.start)

def before? (range : CharRange) (text : List Char) : Option Char :=
  (text.take range.start).getLast?

def after? (range : CharRange) (text : List Char) : Option Char :=
  text[range.stop]?

def byteOffset (text : List Char) (index : Nat) : Nat :=
  ((text.take index).map Char.utf8Size).foldr (· + ·) 0

def bytes (range : CharRange) (text : List Char) : Nat × Nat :=
  (byteOffset text range.start, byteOffset text range.stop)

end CharRange

namespace Identifier

/-- A range inside a text whose characters match the identifier and whose neighbours do not glue to
it. -/
structure IsValid (identifier : Identifier) (text : List Char) (range : CharRange) : Prop where
  ordered : range.start ≤ range.stop
  inside : range.stop ≤ text.length
  alike : Alike (range.slice text) identifier.chars
  alone : standsAlone (range.before? text) (range.after? text) = true

/-- No valid range starts at `least` or behind it. -/
def NoneFrom (identifier : Identifier) (text : List Char) (least : Nat) : Prop :=
  ∀ range, identifier.IsValid text range → range.start < least

/-- The valid range with the least start among those that start at `least` or behind it. -/
structure IsFirstFrom (identifier : Identifier) (text : List Char) (least : Nat)
    (range : CharRange) : Prop where
  valid : identifier.IsValid text range
  reached : least ≤ range.start
  first : ∀ other, identifier.IsValid text other → least ≤ other.start → range.start ≤ other.start

/-- Ranges in order, each the first valid one behind the end of the one before it, until none is
left. -/
inductive IsGreedy (identifier : Identifier) (text : List Char) : Nat → List CharRange → Prop where
  | stop {least : Nat} : identifier.NoneFrom text least → IsGreedy identifier text least []
  | next {least : Nat} {range : CharRange} {ranges : List CharRange} :
      identifier.IsFirstFrom text least range → IsGreedy identifier text range.stop ranges →
      IsGreedy identifier text least (range :: ranges)

end Identifier

end SqlColumns
