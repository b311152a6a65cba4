/-!
# UTF-8

Bytes of texts and texts of bytes. `decode?` is strict and says where the first character that is
not well formed starts; `decodeLossy` puts a replacement character there and goes on.
-/

set_option autoImplicit false

namespace SqlColumns.Text

def encode (text : List Char) : List UInt8 :=
  text.flatMap String.utf8EncodeChar

def encodeString (text : String) : List UInt8 :=
  encode text.toList

def byteLength (text : List Char) : Nat :=
  (text.map Char.utf8Size).foldr (· + ·) 0

def tailBits? (byte : UInt8) : Option Nat :=
  if 0x80 ≤ byte.toNat ∧ byte.toNat < 0xC0 then some (byte.toNat - 0x80) else none

/-- A character of at least `least`, so that no longer form than needed is read. -/
def scalar? (least code : Nat) : Option Char :=
  if least ≤ code ∧ code.isValidChar then some (Char.ofNat code) else none

def takeChar? : List UInt8 → Option (Char × List UInt8)
  | [] => none
  | lead :: rest =>
      let code := lead.toNat
      if code < 0x80 then some (Char.ofNat code, rest)
      else if code < 0xC0 then none
      else if code < 0xE0 then
        match rest with
        | second :: rest => do
            let low ← tailBits? second
            let c ← scalar? 0x80 ((code - 0xC0) * 64 + low)
            return (c, rest)
        | _ => none
      else if code < 0xF0 then
        match rest with
        | second :: third :: rest => do
            let middle ← tailBits? second
            let low ← tailBits? third
            let c ← scalar? 0x800 ((code - 0xE0) * 4096 + middle * 64 + low)
            return (c, rest)
        | _ => none
      else if code < 0xF8 then
        match rest with
        | second :: third :: fourth :: rest => do
            let high ← tailBits? second
            let middle ← tailBits? third
            let low ← tailBits? fourth
            let c ← scalar? 0x10000 ((code - 0xF0) * 262144 + high * 4096 + middle * 64 + low)
            return (c, rest)
        | _ => none
      else none

theorem length_lt_of_takeChar? {bytes rest : List UInt8} {c : Char}
    (taken : takeChar? bytes = some (c, rest)) : rest.length < bytes.length := by
  cases bytes with
  | nil => simp [takeChar?] at taken
  | cons lead tail =>
      simp only [takeChar?] at taken
      repeat' split at taken
      all_goals simp_all [Option.bind_eq_some_iff]
      all_goals grind

/-- Decodes the bytes after `offset`, of which `done` is the text before, last character first. -/
def decodeFrom (done : List Char) (offset : Nat) (bytes : List UInt8) : Except Nat (List Char) :=
  match step : takeChar? bytes with
  | some (c, rest) =>
      have : rest.length < bytes.length := length_lt_of_takeChar? step
      decodeFrom (c :: done) (offset + c.utf8Size) rest
  | none => if bytes.isEmpty then .ok done.reverse else .error offset
termination_by bytes.length

/-- The text of well-formed bytes; otherwise the number of bytes before the first ill-formed
character. -/
def decode? (bytes : List UInt8) : Except Nat (List Char) :=
  decodeFrom [] 0 bytes

/-- Reads a byte that may follow `lead` as the second of a longer character. -/
def followsLead (lead second : Nat) : Bool :=
  if lead = 0xE0 then 0xA0 ≤ second && second < 0xC0
  else if lead = 0xED then 0x80 ≤ second && second < 0xA0
  else if lead = 0xF0 then 0x90 ≤ second && second < 0xC0
  else if lead = 0xF4 then 0x80 ≤ second && second < 0x90
  else 0x80 ≤ second && second < 0xC0

/-- How many bytes at the front of an ill-formed text begin a character that is then broken off;
one where the first byte begins none. -/
def brokenLength (bytes : List UInt8) : Nat :=
  match (bytes.take 3).map UInt8.toNat with
  | lead :: second :: rest =>
      if 0xE0 ≤ lead ∧ lead < 0xF5 ∧ followsLead lead second then
        match rest with
        | third :: _ => if 0xF0 ≤ lead ∧ 0x80 ≤ third ∧ third < 0xC0 then 3 else 2
        | [] => 2
      else 1
  | _ => 1

/-- Decodes the bytes behind some that are passed over, each broken character as one replacement
character. -/
def decodeLossyBehind (done : List Char) : Nat → List UInt8 → List Char
  | _, [] => done.reverse
  | passed + 1, _ :: rest => decodeLossyBehind done passed rest
  | 0, first :: rest =>
      match takeChar? (first :: rest) with
      | some (c, _) => decodeLossyBehind (c :: done) (c.utf8Size - 1) rest
      | none => decodeLossyBehind ('\uFFFD' :: done) (brokenLength (first :: rest) - 1) rest

def decodeLossy (bytes : List UInt8) : List Char :=
  decodeLossyBehind [] 0 bytes

end SqlColumns.Text
