import SqlColumns.Shell.Numeral

/-!
# Permissions

Permissions are nine bits for reading, writing and starting, of the owner, the group and all others,
and three special ones. They are told in octal digits or by letters.
-/

set_option autoImplicit false

namespace SqlColumns.Shell.Mode

/-- Changes of permissions in one place: for whom, by which sign, and which ones. -/
structure Clause where
  who : Nat
  everyone : Bool
  sign : Char
  bits : List Char
  deriving DecidableEq, Repr

def whoBits (c : Char) : Nat :=
  match c with
  | 'u' => 0o4700
  | 'g' => 0o2070
  | 'o' => 0o1007
  | _ => 0o7777

def bitsOf (old : Nat) (folder : Bool) (c : Char) : Nat :=
  let copied (three : Nat) : Nat := three * 0o111
  match c with
  | 'r' => 0o444
  | 'w' => 0o222
  | 'x' => 0o111
  | 'X' => if folder || old &&& 0o111 != 0 then 0o111 else 0
  | 's' => 0o6000
  | 't' => 0o1000
  | 'u' => copied (old / 64 % 8)
  | 'g' => copied (old / 8 % 8)
  | 'o' => copied (old % 8)
  | _ => 0

/-- The clauses that letters spell. The text is read as far as `fuel` steps, and `who` is whom the
next sign is for. -/
def clauses? : Nat → Option (Nat × Bool) → List Char → Option (List Clause)
  | 0, _, _ => none
  | _, some _, [] => some []
  | _, none, [] => none
  | fuel + 1, who, text =>
      match who, text with
      | some _, ',' :: rest => clauses? fuel none rest
      | some (found, everyone), sign :: rest =>
          if "+-=".toList.contains sign then
            let bits := rest.takeWhile fun c => "rwxXstugo".toList.contains c
            (clauses? fuel who (rest.drop bits.length)).map fun more =>
              ⟨found, everyone, sign, bits⟩ :: more
          else none
      | _, _ =>
          let letters := text.takeWhile fun c => "ugoa".toList.contains c
          let rest := text.drop letters.length
          if rest.isEmpty || rest.head? = some ',' then none
          else
            let found := letters.foldl (fun bits c => bits ||| whoBits c) 0
            clauses? fuel (some (if letters.isEmpty then 0o7777 else found, letters.isEmpty)) rest

/-- Permissions after a clause; bits of the mask are left alone where no one is named. -/
def Clause.apply (clause : Clause) (mask : Nat) (folder : Bool) (old : Nat) : Nat :=
  let allowed := if clause.everyone then 0o7777 ^^^ mask else 0o7777
  let wanted := clause.bits.foldl (fun bits c => bits ||| bitsOf old folder c) 0
  let bits := wanted &&& clause.who &&& allowed
  match clause.sign with
  | '+' => old ||| bits
  | '-' => old &&& (0o7777 ^^^ bits)
  | _ => (old &&& (0o7777 ^^^ (clause.who &&& 0o777))) ||| bits

/-- Permissions changed in the way that a text tells, if it tells one. -/
def change? (text : String) (mask : Nat) (folder : Bool) (old : Nat) : Option Nat :=
  if !text.isEmpty && text.toList.all (isDigitIn 8) then
    let mode := valueIn 8 text.toList
    if mode ≤ 0o7777 then some mode else none
  else
    (clauses? (text.length + 2) none text.toList).map fun found =>
      found.foldl (fun mode clause => clause.apply mask folder mode) old

def letters (three : Nat) : String :=
  (if three / 4 % 2 = 1 then "r" else "") ++ (if three / 2 % 2 = 1 then "w" else "") ++
    if three % 2 = 1 then "x" else ""

/-- Permissions as three groups of letters with their owners. -/
def symbolic (mode : Nat) : String :=
  s!"u={letters (mode / 64 % 8)},g={letters (mode / 8 % 8)},o={letters (mode % 8)}"

def columns (mode : Nat) : String :=
  let bit (place : Nat) : Bool := mode / Nat.pow 2 place % 2 == 1
  let shown (place : Nat) (c : Char) : Char := if bit place then c else '-'
  let last (place special : Nat) (mark : Char) : Char :=
    if bit special then if bit place then mark else mark.toUpper else shown place 'x'
  String.ofList
    [shown 8 'r', shown 7 'w', last 6 11 's', shown 5 'r', shown 4 'w', last 3 10 's', shown 2 'r',
      shown 1 'w', last 0 9 't']

def octal (digits mode : Nat) : String :=
  let text := inBase 8 mode
  "".pushn '0' (digits - text.length) ++ text

end SqlColumns.Shell.Mode
