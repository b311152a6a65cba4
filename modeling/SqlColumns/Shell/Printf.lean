import SqlColumns.Shell.Format

/-!
# Words set by a format

A format is gone through as often as there are words for its places. Words that are no numbers where
numbers belong are complained of and count for as much of them as is one.
-/

set_option autoImplicit false

namespace SqlColumns.Shell

namespace Printf

/-- How a program words its complaints, whether it knows characters by their numbers, and the
lengths that may stand in front of a conversion. -/
structure Dialect where
  noNumber : String → String
  partly : String → String
  tooBig : String → String
  invalid : String → String
  unfinished : String → String
  rich : Bool

/-- What has been printed, the words that are left, what was complained of, whether nothing more is
printed, and the complaint that nothing more is printed for. -/
structure Progress where
  output : String
  words : List String
  complaints : List String
  stopped : Bool
  fault : Option String

abbrev Printing := StateM Progress

def put (text : String) : Printing Unit :=
  modify fun progress => { progress with output := progress.output ++ text }

def complain (complaint : String) : Printing Unit :=
  modify fun progress => { progress with complaints := progress.complaints ++ [complaint] }

def nextWord : Printing (Option String) := fun progress =>
  (progress.words.head?, { progress with words := progress.words.drop 1 })

/-- The largest and the smallest number of 64 bits with and without a sign. -/
def limits (signed : Bool) : Int × Int :=
  if signed then (-0x8000000000000000, 0x7fffffffffffffff)
  else (-0xffffffffffffffff, 0xffffffffffffffff)

/-- Complains of a word of which only what is in front of `rest` could be read. -/
def checkRest (dialect : Dialect) (word : String) (rest : List Char) : Printing Unit := do
  if !rest.isEmpty then
    complain (if rest.length = word.length then dialect.noNumber word else dialect.partly word)

/-- The whole number that the next word spells. A quote in front of a character means the number of
the character. -/
def nextInteger (dialect : Dialect) (signed : Bool) : Printing Int := do
  let some word ← nextWord | return 0
  match word.toList with
  | '\'' :: rest | '"' :: rest => return ((rest.head?.map Char.toNat).getD 0 : Nat)
  | text =>
      let (value, rest) := (leadingInteger? text).getD (0, text)
      let (least, most) := limits signed
      if value < least ∨ most < value then
        complain (dialect.tooBig word)
        return if value < least then least else most
      checkRest dialect word rest
      return value

def nextFloat (dialect : Dialect) : Printing Float := do
  let some word ← nextWord | return 0
  match word.toList with
  | '\'' :: rest | '"' :: rest => return Float.ofNat ((rest.head?.map Char.toNat).getD 0)
  | text =>
      let (value, rest) := (Floating.leading? text).getD (0, text)
      checkRest dialect word rest
      return value

/-- A width or a precision, which may be the next word. -/
def size (dialect : Dialect) : Size → Printing (Option Int)
  | .none => return none
  | .fixed size => return some size
  | .given => return some (← nextInteger dialect true)

/-- A text in quotes where a shell would not take it for itself otherwise. -/
def shellQuoted (text : String) : String :=
  let plain := text.toList.all fun c => c.isAlphanum || "_-./%+,:@^".toList.contains c
  if !text.isEmpty && plain then text else "'" ++ text.replace "'" "'\\''" ++ "'"

def fill (dialect : Dialect) (slot : Slot) : Printing Unit := do
  let width ← size dialect slot.width
  let precision ← size dialect slot.precision
  let format := slot.format width precision
  let conversion := slot.conversion
  if Format.isInteger conversion then
    put (format.setInteger (← nextInteger dialect (conversion == 'd' || conversion == 'i')))
  else if Format.isFloat conversion then put (format.setFloat (← nextFloat dialect))
  else if conversion = 's' then put (format.setText ((← nextWord).getD ""))
  else if conversion = 'c' then
    let word := (← nextWord).getD ""
    put (format.pad (if word.isEmpty then "\x00" else String.ofList (word.toList.take 1)))
  else if conversion = 'b' then
    let (text, stopped) := unescape ((← nextWord).getD "")
    put (format.setText text)
    modify fun progress => { progress with stopped := stopped }
  else if conversion = 'q' ∧ dialect.rich then put (format.pad (shellQuoted ((← nextWord).getD "")))
  else
    modify fun progress =>
      { progress with stopped := true, fault := some (dialect.invalid slot.text) }

/-- A character by up to `digits` hexadecimal digits, and the text behind them. -/
def readHexEscape (digits : Nat) (text : List Char) : Option (Nat × List Char) :=
  let found := (text.take digits).takeWhile (isDigitIn 16)
  if found.isEmpty then none else some (valueIn 16 found, text.drop found.length)

/-- What a backslash in a format stands for together with what follows it, and the text behind that.
-/
def readFormatEscape (dialect : Dialect) (text : List Char) : String × List Char :=
  let usual : String × List Char :=
    let (c, rest) := readEscape text
    (String.singleton c, rest)
  if !dialect.rich then usual
  else
    match text with
    | '"' :: rest => ("\"", rest)
    | 'x' :: rest =>
        match readHexEscape 2 rest with
        | some (value, behind) => (String.singleton (Char.ofNat value), behind)
        | none => usual
    | 'u' :: rest =>
        match readHexEscape 4 rest with
        | some (value, behind) =>
            if value < 128 then (Octets.ofText (String.singleton (Char.ofNat value)), behind)
            else ("\\u" ++ String.ofList (rest.take (rest.length - behind.length)), behind)
        | none => usual
    | _ => usual

def withoutLength (dialect : Dialect) (text : List Char) : List Char :=
  if dialect.rich then
    let flags := text.takeWhile fun c => c.isDigit || "#-+ 0.*".toList.contains c
    let behind := (text.drop flags.length).dropWhile fun c => "hlLjtz".toList.contains c
    match behind with
    | c :: _ => if Format.isInteger c || Format.isFloat c then flags ++ behind else text
    | [] => text
  else text

/-- Goes through a format once. The format is read as far as `fuel` steps. -/
def pass (dialect : Dialect) : Nat → List Char → Printing Unit
  | 0, _ | _, [] => return
  | fuel + 1, '%' :: '%' :: rest => do
      put "%"
      pass dialect fuel rest
  | fuel + 1, '%' :: rest => do
      match Slot.read? (withoutLength dialect rest) with
      | some (slot, behind) =>
          fill dialect slot
          if !(← get).stopped then pass dialect fuel behind
      | none =>
          let fault := dialect.unfinished (String.ofList ('%' :: rest))
          modify fun progress => { progress with stopped := true, fault := some fault }
  | fuel + 1, '\\' :: rest => do
      if dialect.rich ∧ rest.head? = some 'c' then
        modify fun progress => { progress with stopped := true }
      else
        let (text, behind) := readFormatEscape dialect rest
        put text
        pass dialect fuel behind
  | fuel + 1, c :: rest => do
      put (String.singleton c)
      pass dialect fuel rest

/-- Goes through a format until no word is left; `passes` bounds how often. -/
def passes (dialect : Dialect) (format : List Char) : Nat → Printing Unit
  | 0 => return
  | count + 1 => do
      let before := (← get).words.length
      pass dialect (format.length + 1) format
      let progress ← get
      if !progress.stopped && !progress.words.isEmpty && progress.words.length < before then
        passes dialect format count

def run (dialect : Dialect) (format : String) (words : List String) : Progress :=
  ((passes dialect format.toList (words.length + 1)).run ⟨"", words, [], false, none⟩).2

end Printf

end SqlColumns.Shell
