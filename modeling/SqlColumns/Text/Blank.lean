/-!
# Blank characters and trimming

The white space of Unicode, and texts without it at their ends.
-/

set_option autoImplicit false

namespace SqlColumns.Text

/-- White space: the ASCII blanks and line ends, and the spaces and separators beyond ASCII. -/
def isBlank (c : Char) : Bool :=
  let code := c.toNat
  (9 ≤ code && code ≤ 13) || code == 0x20 || code == 0x85 || code == 0xA0 || code == 0x1680 ||
    (0x2000 ≤ code && code ≤ 0x200A) || code == 0x2028 || code == 0x2029 || code == 0x202F ||
    code == 0x205F || code == 0x3000

def trimStart (text : List Char) : List Char :=
  text.dropWhile isBlank

def trimEnd (text : List Char) : List Char :=
  (text.reverse.dropWhile isBlank).reverse

def trim (text : List Char) : List Char :=
  trimEnd (trimStart text)

def trimString (text : String) : String :=
  String.ofList (trim text.toList)

def trimStringEnd (text : String) : String :=
  String.ofList (trimEnd text.toList)

def isBlankString (text : String) : Bool :=
  text.toList.all isBlank

end SqlColumns.Text
