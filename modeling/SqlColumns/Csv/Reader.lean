import SqlColumns.Csv.Basic

/-!
# Reading records

Fields are separated by commas; a line feed or a carriage return ends a record, and more of them
in a row end no further one, so empty lines do not count. A field that starts with a quote goes on
to the next quote that is not doubled; what follows that quote belongs to the field. Elsewhere
quotes stand for themselves. A byte order mark in front of the file is dropped.
-/

set_option autoImplicit false

namespace SqlColumns.Csv

/-- Where a byte stands: before a record, at the start of a field, in a field, inside quotes, or
behind a quote inside quotes. -/
inductive Mode where
  | betweenRecords
  | fieldStart
  | inField
  | inQuotes
  | behindQuote
  deriving DecidableEq, Repr

/-- The reader behind some bytes: its mode, the field and the fields read of the current record,
last first, and where the record starts. -/
structure State where
  mode : Mode
  field : List UInt8
  fields : List (List UInt8)
  start : Offset
  deriving DecidableEq, Repr

namespace State

def fresh (start : Offset) : State :=
  ⟨.betweenRecords, [], [], start⟩

def keep (state : State) (byte : UInt8) (mode : Mode) : State :=
  { state with mode := mode, field := byte :: state.field }

def nextField (state : State) : State :=
  { state with mode := .fieldStart, field := [], fields := state.field.reverse :: state.fields }

def record (state : State) : Record :=
  ⟨state.start, (state.field.reverse :: state.fields).reverse⟩

end State

def plainByte (state : State) (byte : UInt8) : State × Bool :=
  if byte == comma then (state.nextField, false)
  else if endsRecord byte then (state, true)
  else (state.keep byte .inField, false)

/-- The state behind one more byte, and whether the byte ends the record. -/
def step (state : State) (byte : UInt8) : State × Bool :=
  match state.mode with
  | .betweenRecords =>
      if endsRecord byte then (state, false)
      else if byte == quote then ({ state with mode := .inQuotes }, false)
      else plainByte state byte
  | .fieldStart =>
      if byte == quote then ({ state with mode := .inQuotes }, false) else plainByte state byte
  | .inField => plainByte state byte
  | .inQuotes =>
      if byte == quote then ({ state with mode := .behindQuote }, false)
      else (state.keep byte .inQuotes, false)
  | .behindQuote =>
      if byte == quote then (state.keep byte .inQuotes, false) else plainByte state byte

/-- Reads the bytes behind `offset`; `done` holds the records so far, last first. -/
def readFrom (state : State) (offset : Offset) (done : List Record) : List UInt8 → List Record
  | [] =>
      match state.mode with
      | .betweenRecords => done.reverse
      | _ => (state.record :: done).reverse
  | byte :: rest =>
      let behind := offset.past byte
      let (next, ended) := step state byte
      if ended then readFrom (.fresh behind) behind (next.record :: done) rest
      else readFrom next behind done rest

def byteOrderMark : List UInt8 := [0xEF, 0xBB, 0xBF]

def read (bytes : List UInt8) : List Record :=
  if byteOrderMark.isPrefixOf bytes then
    readFrom (.fresh ⟨0, 0⟩) ⟨3, 0⟩ [] (bytes.drop 3)
  else readFrom (.fresh ⟨0, 0⟩) ⟨0, 0⟩ [] bytes

/-- The texts of fields, the first of which has the given number; the number of the first one
that is not text, with the offset in it. -/
def decodeFields (field : Nat) : List (List UInt8) → Except (Nat × Nat) (List String)
  | [] => .ok []
  | bytes :: rest =>
      match Text.decode? bytes with
      | .error offset => .error (field, offset)
      | .ok text =>
          match decodeFields (field + 1) rest with
          | .error place => .error place
          | .ok texts => .ok (String.ofList text :: texts)

/-- The texts of records, the first of which has the given number; the place of the first bytes
that are not text. -/
def decodeRecords (number : Nat) : List Record → Except BadText (List (List String))
  | [] => .ok []
  | record :: rest =>
      match decodeFields 0 record.fields with
      | .error (field, offset) =>
          .error ⟨number, record.start.lines + 1, field, record.start.bytes, offset⟩
      | .ok texts =>
          match decodeRecords (number + 1) rest with
          | .error place => .error place
          | .ok records => .ok (texts :: records)

def parse (bytes : List UInt8) : Except BadText (List (List String)) :=
  decodeRecords 0 (read bytes)

end SqlColumns.Csv
