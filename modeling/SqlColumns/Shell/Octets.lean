import SqlColumns.Text.Utf8

/-!
# Texts in octets

Processes hand bytes to each other, and each byte counts as a character. Here such a text is a
string whose characters are numbers below 256, one for each byte.
-/

set_option autoImplicit false

namespace SqlColumns.Shell.Octets

def ofBytes (bytes : List UInt8) : String :=
  String.ofList (bytes.map fun byte => Char.ofNat byte.toNat)

def toBytes (text : String) : List UInt8 :=
  text.toList.map fun c => UInt8.ofNat c.toNat

def ofText (text : String) : String :=
  ofBytes (Text.encodeString text)

def toText (octets : String) : String :=
  String.ofList (Text.decodeLossy (toBytes octets))

end SqlColumns.Shell.Octets
