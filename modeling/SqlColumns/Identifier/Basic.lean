import SqlColumns.Text.Case

/-!
# Identifiers

A column identifier is a non-empty text that is compared character by character under simple case
folding. It stands alone in a text when neither neighbour glues to it: when the neighbour, in
lower case, does not touch it with an ASCII letter, a digit or an underscore.
-/

set_option autoImplicit false

namespace SqlColumns

/-- A non-empty text to be found. -/
structure Identifier where
  chars : List Char
  nonempty : chars ≠ []
  deriving DecidableEq

namespace Identifier

/-- ASCII letters, ASCII digits and the underscore. -/
def isWordChar (c : Char) : Bool :=
  c.isAlphanum || c == '_'

/-- A character that glues to an identifier on its right: the lower-case form ends in a word
character. -/
def gluesBefore (c : Char) : Bool :=
  (Text.lowerChar c).getLast?.any isWordChar

/-- A character that glues to an identifier on its left: the lower-case form starts with a word
character. -/
def gluesAfter (c : Char) : Bool :=
  (Text.lowerChar c).head?.any isWordChar

/-- Characters that match one by one under case folding. -/
def Alike (left right : List Char) : Prop :=
  left.map Text.foldChar = right.map Text.foldChar

instance (left right : List Char) : Decidable (Alike left right) :=
  inferInstanceAs (Decidable (_ = _))

/-- Neither neighbour glues; the ends of the text never do. -/
def standsAlone (before after : Option Char) : Bool :=
  !before.any gluesBefore && !after.any gluesAfter

end Identifier

end SqlColumns
