import SqlColumns.Failure

/-!
# Records of a sheet file

A sheet file is a sequence of records, each a sequence of fields in bytes. A record remembers
where it was found, for what is said about it when its bytes are not text.
-/

set_option autoImplicit false

namespace SqlColumns.Csv

def comma : UInt8 := 0x2C

def quote : UInt8 := 0x22

def lineFeed : UInt8 := 0x0A

def carriageReturn : UInt8 := 0x0D

def endsRecord (byte : UInt8) : Bool :=
  byte == lineFeed || byte == carriageReturn

/-- How many bytes, and how many line feeds among them, lie before a point of a file. -/
structure Offset where
  bytes : Nat
  lines : Nat
  deriving DecidableEq, Repr

def Offset.past (offset : Offset) (byte : UInt8) : Offset :=
  ⟨offset.bytes + 1, if byte == lineFeed then offset.lines + 1 else offset.lines⟩

/-- The fields of a record, and the point behind the record before it. -/
structure Record where
  start : Offset
  fields : List (List UInt8)
  deriving DecidableEq, Repr

end SqlColumns.Csv
