import SqlColumns.Shell.Floating
import SqlColumns.Shell.Format

/-!
# Values of programs that work on records

A value is a number, a text, or a text that was read and counts as a number if it looks like one.
What was never set is both zero and the empty text. Arrays hold values under texts; in which order
they are gone through depends on how they were reached.
-/

set_option autoImplicit false

namespace SqlColumns.Shell.Records

/-- A value. What a sum has when it is no number differs from the number that a text for none has.
-/
inductive Value where
  | unset
  | number (value : Float)
  | unreal
  | text (value : String)
  | seeming (value : String)
  deriving Repr

namespace Value

def ofBool (holds : Bool) : Value :=
  .number (if holds then 1 else 0)

def ofNat (number : Nat) : Value :=
  .number (Float.ofNat number)

def seemingNumber? (text : String) : Option Float :=
  match Floating.leading? text.toList with
  | some (value, rest) => if rest.all isSpace then some value else none
  | none => none

/-- What a value is when it is compared: a text that looks like a number is one. -/
def plain : Value → Value
  | .seeming word =>
      match seemingNumber? word with
      | some value => .number value
      | none => .text word
  | value => value

def toNumber : Value → Float
  | .unset => 0
  | .number value => value
  | .unreal => 0.0 / 0.0
  | .text word | .seeming word => ((Floating.leading? word.toList).map (·.1)).getD 0

def calculated (values : List Value) (result : Float) : Value :=
  let isNone (value : Value) : Bool := value.toNumber.isNaN
  let isUnreal (value : Value) : Bool :=
    match value with
    | .unreal => true
    | _ => false
  if result.isNaN && (values.any isUnreal || !values.any isNone) then .unreal else .number result

/-- The number cut toward zero, as far as there are numbers of such a size. -/
def wholeOf (value : Float) : Int :=
  match Floating.parts value with
  | .nan _ => -0x8000000000000000
  | .infinite negative => if negative then -0x7fffffffffffffff else 0xffffffffffffffff
  | .finite negative numerator denominator =>
      let whole := numerator / denominator
      if negative then
        if 0x8000000000000000 < whole then -0x7fffffffffffffff else -(whole : Int)
      else min whole 0xffffffffffffffff

def numberBy (format : String) (value : Float) : String :=
  let front := format.toList.takeWhile (· != '%')
  match Slot.read? (format.toList.drop (front.length + 1)) with
  | some (slot, behind) =>
      let size : Size → Option Int
        | .fixed size => some size
        | _ => none
      let set := slot.format (size slot.width) (size slot.precision)
      let shown := if Format.isFloat slot.conversion then set.setFloat value
        else if Format.isInteger slot.conversion then set.setInteger (wholeOf value)
        else ""
      String.ofList front ++ shown ++ String.ofList behind
  | none => format

/-- The text of a number: its digits if it is a whole number that is not too big, else by a format.
-/
def numberText (format : String) (value : Float) : String :=
  match Floating.parts value with
  | .nan _ => "nan"
  | .infinite negative => if negative then "-inf" else "inf"
  | .finite negative numerator denominator =>
      let whole := numerator / denominator
      let most := if negative then 0x8000000000000000 else 0x10000000000000000
      if numerator % denominator = 0 ∧ whole ≤ most then decimal (wholeOf value)
      else numberBy format value

def toText (format : String) : Value → String
  | .unset => ""
  | .number value => numberText format value
  | .unreal => "-nan"
  | .text word | .seeming word => word

def isTrue (value : Value) : Bool :=
  match value.plain with
  | .unset => false
  | .number value => value != 0
  | .unreal => true
  | .text word | .seeming word => !word.isEmpty

def isText : Value → Bool
  | .text _ | .seeming _ => true
  | _ => false

end Value

/-- Why values cannot be set by a format: there are too few of them, or a place with a number is
none. -/
inductive FormFault where
  | missing
  | improper (number : Nat)
  deriving DecidableEq, Repr

namespace Form

/-- What is set with a format so far: the text, what values are left, how many places were filled,
and what is wrong. -/
structure Progress where
  output : String
  values : List Value
  places : Nat
  fault : Option FormFault

abbrev Setting := StateM Progress

def put (text : String) : Setting Unit :=
  modify fun progress => { progress with output := progress.output ++ text }

def next : Setting Value := fun progress =>
  match progress.values with
  | value :: values => (value, { progress with values })
  | [] => (.unset, { progress with fault := progress.fault.or (some .missing) })

/-- A width or a precision, which may be the next value. -/
def size : Size → Setting (Option Int)
  | .none => return none
  | .fixed size => return some size
  | .given => return some (Value.wholeOf (← next).toNumber)

/-- The character of a value: the first one, or the one with its number. -/
def charOf (value : Value) : String :=
  match value.plain with
  | .number value => String.singleton (Char.ofNat (Value.wholeOf value % 256).toNat)
  | .unreal => "\x00"
  | .unset => "\x00"
  | .text text | .seeming text =>
      if text.isEmpty then "\x00" else String.ofList (text.toList.take 1)

def fill (convert : String) (slot : Slot) : Setting Unit := do
  let number := (← get).places + 1
  modify fun progress => { progress with places := number }
  let width ← size slot.width
  let precision ← size slot.precision
  let format := slot.format width precision
  let conversion := slot.conversion
  let usual := Format.isInteger conversion || "eEfgGcs".toList.contains conversion
  if !usual then
    modify fun progress => { progress with fault := progress.fault.or (some (.improper number)) }
  else
    let value ← next
    if (← get).fault.isSome then return
    if Format.isInteger conversion then
      let conversion := if conversion = 'i' then 'd' else conversion
      put ({ format with conversion }.setInteger (Value.wholeOf value.toNumber))
    else if conversion = 'c' then put (format.pad (charOf value))
    else if conversion = 's' then put (format.setText (value.toText convert))
    else
      match value with
      | .unreal => put (format.pad "-nan")
      | _ => put (format.setFloat value.toNumber)

/-- A length in front of a conversion of whole numbers, which says nothing. -/
def withoutLength (text : List Char) : List Char :=
  let flags := text.takeWhile fun c => c.isDigit || "#-+ 0.*".toList.contains c
  match text.drop flags.length with
  | length :: c :: behind =>
      if (length = 'l' ∨ length = 'h') ∧ Format.isInteger c then flags ++ c :: behind else text
  | _ => text

/-- Goes through a format. It is read as far as `fuel` steps. -/
def pass (convert : String) : Nat → List Char → Setting Unit
  | 0, _ | _, [] => return
  | fuel + 1, '%' :: '%' :: rest => do
      put "%"
      pass convert fuel rest
  | fuel + 1, '%' :: rest => do
      match Slot.read? (withoutLength rest) with
      | some (slot, behind) =>
          fill convert slot
          if (← get).fault.isNone then pass convert fuel behind
      | none =>
          modify fun progress => { progress with fault := some (.improper (progress.places + 1)) }
  | fuel + 1, c :: rest => do
      put (String.singleton c)
      pass convert fuel rest

end Form

def setByForm (convert format : String) (values : List Value) : String × Option FormFault :=
  let pass := Form.pass convert (format.length + 1) format.toList
  let progress := (pass.run ⟨"", values, 0, none⟩).2
  (progress.output, progress.fault)

/-- A key of an array: its text, and the whole number that it is if it was given as one. -/
structure Key where
  text : String
  whole : Option Int

def Key.ofValue (convert : String) (value : Value) : Key :=
  let text := value.toText convert
  match value with
  | .number number =>
      let whole := Value.wholeOf number
      if Float.ofInt whole == number && whole.natAbs < 0x7fffffff then ⟨text, some whole⟩
      else ⟨text, none⟩
  | _ => ⟨text, none⟩

/-- An array: its cells, the texts and the whole numbers by which they were reached, the last ones
first, and whether cells have been reached by texts. -/
structure Table where
  cells : List (String × Value)
  names : List String
  wholes : List Int
  isNamed : Bool

namespace Table

def empty : Table := ⟨[], [], [], false⟩

def toFront {α : Type} [BEq α] (member : α) (members : List α) : List α :=
  member :: members.erase member

def find? (table : Table) (key : Key) : Option Value :=
  (table.cells.find? fun one => one.1 == key.text).map (·.2)

/-- An array of which all cells have been given their texts, those with whole numbers in the order
of the numbers' last bits. -/
def named (table : Table) : Table :=
  if table.isNamed then table
  else
    let sorted := table.wholes.mergeSort fun left right => decide (left % 64 ≤ right % 64)
    let missing := (sorted.map decimal).filter fun name => !table.names.contains name
    { table with names := missing.reverse ++ table.names, isNamed := true }

def reach (table : Table) (key : Key) : Table :=
  match key.whole with
  | none =>
      let table := table.named
      { table with names := toFront key.text table.names }
  | some whole =>
      let isNew := table.isNamed && !table.wholes.contains whole
      let names := if isNew then toFront key.text table.names else table.names
      { table with names, wholes := toFront whole table.wholes }

def set (table : Table) (key : Key) (value : Value) : Table :=
  let table := table.reach key
  let others := table.cells.filter fun one => one.1 != key.text
  { table with cells := (key.text, value) :: others }

def remove (table : Table) (key : Key) : Table :=
  { table with
    cells := table.cells.filter fun one => one.1 != key.text
    names := table.names.erase key.text
    wholes := table.wholes.filter fun whole => decimal whole != key.text }

def ofList (values : List Value) : Table :=
  let numbered := values.zipIdx.map fun (value, index) => (inBase 10 (index + 1), value)
  let wholes := (List.range values.length).reverse.map fun index => Int.ofNat (index + 1)
  ⟨numbered, [], wholes, false⟩

def hash (text : String) : UInt32 :=
  text.toList.foldl (fun value c => (value ^^^ UInt32.ofNat c.toNat) * 0x1000193) 0x811c9dc5

/-- The keys of an array in the order in which they are gone through. -/
def keys (table : Table) : List String :=
  let chain (text : String) : Nat := (hash text).toNat % 64
  table.named.names.mergeSort fun left right => decide (chain left ≤ chain right)

end Table

end SqlColumns.Shell.Records
