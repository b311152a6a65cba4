/-!
# Content digests

The 64-bit XXH3 digest with seed zero, and its text of sixteen hexadecimal digits. Short inputs
are mixed word by word; inputs of more than 240 bytes run through eight accumulators, a block of
sixteen stripes at a time. All arithmetic is modulo two to the sixty-fourth.
-/

set_option autoImplicit false

namespace SqlColumns.Text.Digest

def secret : Array UInt8 :=
  #[0xB8, 0xFE, 0x6C, 0x39, 0x23, 0xA4, 0x4B, 0xBE, 0x7C, 0x01, 0x81, 0x2C, 0xF7, 0x21, 0xAD, 0x1C,
    0xDE, 0xD4, 0x6D, 0xE9, 0x83, 0x90, 0x97, 0xDB, 0x72, 0x40, 0xA4, 0xA4, 0xB7, 0xB3, 0x67, 0x1F,
    0xCB, 0x79, 0xE6, 0x4E, 0xCC, 0xC0, 0xE5, 0x78, 0x82, 0x5A, 0xD0, 0x7D, 0xCC, 0xFF, 0x72, 0x21,
    0xB8, 0x08, 0x46, 0x74, 0xF7, 0x43, 0x24, 0x8E, 0xE0, 0x35, 0x90, 0xE6, 0x81, 0x3A, 0x26, 0x4C,
    0x3C, 0x28, 0x52, 0xBB, 0x91, 0xC3, 0x00, 0xCB, 0x88, 0xD0, 0x65, 0x8B, 0x1B, 0x53, 0x2E, 0xA3,
    0x71, 0x64, 0x48, 0x97, 0xA2, 0x0D, 0xF9, 0x4E, 0x38, 0x19, 0xEF, 0x46, 0xA9, 0xDE, 0xAC, 0xD8,
    0xA8, 0xFA, 0x76, 0x3F, 0xE3, 0x9C, 0x34, 0x3F, 0xF9, 0xDC, 0xBB, 0xC7, 0xC7, 0x0B, 0x4F, 0x1D,
    0x8A, 0x51, 0xE0, 0x4B, 0xCD, 0xB4, 0x59, 0x31, 0xC8, 0x9F, 0x7E, 0xC9, 0xD9, 0x78, 0x73, 0x64,
    0xEA, 0xC5, 0xAC, 0x83, 0x34, 0xD3, 0xEB, 0xC3, 0xC5, 0x81, 0xA0, 0xFF, 0xFA, 0x13, 0x63, 0xEB,
    0x17, 0x0D, 0xDD, 0x51, 0xB7, 0xF0, 0xDA, 0x49, 0xD3, 0x16, 0x55, 0x26, 0x29, 0xD4, 0x68, 0x9E,
    0x2B, 0x16, 0xBE, 0x58, 0x7D, 0x47, 0xA1, 0xFC, 0x8F, 0xF8, 0xB8, 0xD1, 0x7A, 0xD0, 0x31, 0xCE,
    0x45, 0xCB, 0x3A, 0x8F, 0x95, 0x16, 0x04, 0x28, 0xAF, 0xD7, 0xFB, 0xCA, 0xBB, 0x4B, 0x40, 0x7E]

def prime32A : UInt64 := 0x9E3779B1
def prime32B : UInt64 := 0x85EBCA77
def prime32C : UInt64 := 0xC2B2AE3D
def prime64A : UInt64 := 0x9E3779B185EBCA87
def prime64B : UInt64 := 0xC2B2AE3D27D4EB4F
def prime64C : UInt64 := 0x165667B19E3779F9
def prime64D : UInt64 := 0x85EBCA77C2B2AE63
def prime64E : UInt64 := 0x27D4EB2F165667C5
def mixerA : UInt64 := 0x165667919E3779F9
def mixerB : UInt64 := 0x9FB21C651E98DF25

def byteAt (bytes : Array UInt8) (index : Nat) : UInt64 :=
  (bytes.getD index 0).toUInt64

def word32 (bytes : Array UInt8) (start : Nat) : UInt64 :=
  byteAt bytes start ||| (byteAt bytes (start + 1) <<< 8) |||
    (byteAt bytes (start + 2) <<< 16) ||| (byteAt bytes (start + 3) <<< 24)

def word64 (bytes : Array UInt8) (start : Nat) : UInt64 :=
  word32 bytes start ||| (word32 bytes (start + 4) <<< 32)

def foldedProduct (left right : UInt64) : UInt64 :=
  let product := left.toNat * right.toNat
  UInt64.ofNat product ^^^ UInt64.ofNat (product / UInt64.size)

def rotate (word amount : UInt64) : UInt64 :=
  (word <<< amount) ||| (word >>> (64 - amount))

def reverseBytes (word : UInt64) : UInt64 :=
  (List.range 8).foldl
    (fun result index => (result <<< 8) ||| ((word >>> (8 * index.toUInt64)) &&& 0xFF)) 0

def finish (word : UInt64) : UInt64 :=
  let mixed := (word ^^^ (word >>> 37)) * mixerA
  mixed ^^^ (mixed >>> 32)

/-- The last mixing step of inputs of at most three bytes. -/
def finishShort (word : UInt64) : UInt64 :=
  let first := (word ^^^ (word >>> 33)) * prime64B
  let second := (first ^^^ (first >>> 29)) * prime64C
  second ^^^ (second >>> 32)

def mixSixteen (bytes : Array UInt8) (start key : Nat) : UInt64 :=
  foldedProduct (word64 bytes start ^^^ word64 secret key)
    (word64 bytes (start + 8) ^^^ word64 secret (key + 8))

def ofNone : UInt64 :=
  finishShort (word64 secret 56 ^^^ word64 secret 64)

def ofThree (bytes : Array UInt8) : UInt64 :=
  let size := bytes.size
  let combined := (byteAt bytes 0 <<< 16) ||| (byteAt bytes (size / 2) <<< 24) |||
    byteAt bytes (size - 1) ||| (size.toUInt64 <<< 8)
  finishShort (combined ^^^ (word32 secret 0 ^^^ word32 secret 4))

def ofEight (bytes : Array UInt8) : UInt64 :=
  let size := bytes.size
  let keyed := (word32 bytes (size - 4) + (word32 bytes 0 <<< 32)) ^^^
    (word64 secret 8 ^^^ word64 secret 16)
  let first := (keyed ^^^ rotate keyed 49 ^^^ rotate keyed 24) * mixerB
  let second := (first ^^^ ((first >>> 35) + size.toUInt64)) * mixerB
  second ^^^ (second >>> 28)

def ofSixteen (bytes : Array UInt8) : UInt64 :=
  let size := bytes.size
  let low := word64 bytes 0 ^^^ (word64 secret 24 ^^^ word64 secret 32)
  let high := word64 bytes (size - 8) ^^^ (word64 secret 40 ^^^ word64 secret 48)
  finish (size.toUInt64 + reverseBytes low + high + foldedProduct low high)

/-- The digest of seventeen to 128 bytes: pairs of blocks from both ends towards the middle. -/
def ofMedium (bytes : Array UInt8) : UInt64 :=
  let size := bytes.size
  let pairs := (size - 1) / 32 + 1
  finish <| (List.range pairs).foldl
    (fun total index =>
      total + mixSixteen bytes (16 * index) (32 * index) +
        mixSixteen bytes (size - 16 * (index + 1)) (32 * index + 16))
    (size.toUInt64 * prime64A)

def ofLarge (bytes : Array UInt8) : UInt64 :=
  let size := bytes.size
  let opening := (List.range 8).foldl
    (fun total index => total + mixSixteen bytes (16 * index) (16 * index))
    (size.toUInt64 * prime64A)
  let middle := (List.range (size / 16 - 8)).foldl
    (fun total index => total + mixSixteen bytes (16 * (index + 8)) (16 * index + 3))
    (finish opening)
  finish (middle + mixSixteen bytes (size - 16) 119)

def addStripe (bytes : Array UInt8) (start key : Nat) (lanes : Array UInt64) : Array UInt64 :=
  (List.range 8).foldl
    (fun lanes index =>
      let word := word64 bytes (start + 8 * index)
      let keyed := word ^^^ word64 secret (key + 8 * index)
      let product : UInt64 := (keyed &&& (0xFFFFFFFF : UInt64)) * (keyed >>> 32)
      (lanes.modify (Nat.xor index 1) (· + word)).modify index (· + product))
    lanes

/-- Stripes in a row, each against the secret eight bytes further on. -/
def addStripes (bytes : Array UInt8) (start count : Nat) (lanes : Array UInt64) : Array UInt64 :=
  (List.range count).foldl
    (fun lanes index => addStripe bytes (start + 64 * index) (8 * index) lanes) lanes

/-- The mixing of the accumulators after a full block. -/
def scramble (lanes : Array UInt64) : Array UInt64 :=
  lanes.mapIdx fun index (lane : UInt64) =>
    (lane ^^^ (lane >>> 47) ^^^ word64 secret (128 + 8 * index)) * prime32A

def ofLong (bytes : Array UInt8) : UInt64 :=
  let size := bytes.size
  let blocks := (size - 1) / 1024
  let start : Array UInt64 :=
    #[prime32C, prime64A, prime64B, prime64C, prime64D, prime32B, prime64E, prime32A]
  let full := (List.range blocks).foldl
    (fun lanes block => scramble (addStripes bytes (1024 * block) 16 lanes)) start
  let partly := addStripes bytes (1024 * blocks) ((size - 1 - 1024 * blocks) / 64) full
  let lanes := addStripe bytes (size - 64) 121 partly
  finish <| (List.range 4).foldl
    (fun total index =>
      total + foldedProduct (lanes.getD (2 * index) 0 ^^^ word64 secret (11 + 16 * index))
        (lanes.getD (2 * index + 1) 0 ^^^ word64 secret (19 + 16 * index)))
    (size.toUInt64 * prime64A)

def ofBytes (bytes : Array UInt8) : UInt64 :=
  if bytes.size = 0 then ofNone
  else if bytes.size ≤ 3 then ofThree bytes
  else if bytes.size ≤ 8 then ofEight bytes
  else if bytes.size ≤ 16 then ofSixteen bytes
  else if bytes.size ≤ 128 then ofMedium bytes
  else if bytes.size ≤ 240 then ofLarge bytes
  else ofLong bytes

def hexDigits (width number : Nat) : String :=
  let digits := Nat.toDigits 16 number
  String.ofList (List.replicate (width - digits.length) '0' ++ digits)

def text (bytes : List UInt8) : String :=
  hexDigits 16 (ofBytes bytes.toArray).toNat

end SqlColumns.Text.Digest
