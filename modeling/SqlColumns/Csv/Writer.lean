import SqlColumns.Csv.Basic

/-!
# Writing records

A field is quoted only when it holds a comma, a quote or a line end; a quote inside quotes is
doubled. A record ends with a line feed, and one without any bytes is written as an empty quoted
field, so that it does not vanish among empty lines.
-/

set_option autoImplicit false

namespace SqlColumns.Csv

def needsQuotes (byte : UInt8) : Bool :=
  byte == comma || byte == quote || endsRecord byte

def writeField (field : List UInt8) : List UInt8 :=
  if field.any needsQuotes then
    quote :: field.flatMap (fun byte => if byte == quote then [quote, quote] else [byte]) ++
      [quote]
  else field

def writeFields : List (List UInt8) → List UInt8
  | [] => []
  | [field] => writeField field
  | field :: fields => writeField field ++ comma :: writeFields fields

def writeRecord (fields : List (List UInt8)) : List UInt8 :=
  let line := writeFields fields
  (if line.isEmpty then [quote, quote] else line) ++ [lineFeed]

def print (records : List (List String)) : List UInt8 :=
  records.flatMap fun texts => writeRecord (texts.map Text.encodeString)

end SqlColumns.Csv
