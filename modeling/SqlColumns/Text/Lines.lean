import SqlColumns.Text.Utf8

/-!
# Lines of bytes

Bytes fall into lines at their line feeds. A line does not hold the line feed that ends it, nor a
carriage return right before that, and it is a text when its bytes are UTF-8.
-/

set_option autoImplicit false

namespace SqlColumns.Text

/-- The lines of bytes, each with the line feed that ends it, if one does. -/
def rawLines : List UInt8 → List (List UInt8)
  | [] => []
  | byte :: rest =>
      if byte = 0x0A then [byte] :: rawLines rest
      else
        match rawLines rest with
        | [] => [[byte]]
        | line :: lines => (byte :: line) :: lines

/-- A line without the line feed at its end, and without a carriage return before that. -/
def withoutEnd (line : List UInt8) : List UInt8 :=
  if line.getLast? = some 0x0A then
    if line.dropLast.getLast? = some 0x0D then line.dropLast.dropLast else line.dropLast
  else line

/-- The lines of bytes; nothing in place of a line that is not UTF-8. -/
def lines (bytes : List UInt8) : List (Option (List Char)) :=
  (rawLines bytes).map fun line => (decode? (withoutEnd line)).toOption

end SqlColumns.Text
