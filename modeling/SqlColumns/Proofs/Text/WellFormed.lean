import Mathlib.Order.Bounds.Basic
import SqlColumns.Proofs.Text.Utf8

/-!
# Well-formed UTF-8

Which bytes are UTF-8, said byte by byte and without a reader: the first byte of a character says how
many follow and bounds the second one, and the others are any tails. Characters in a row are exactly the
bytes of a text. Reading succeeds on these bytes alone, and elsewhere stops where their longest
well-formed beginning ends, wherever behind it the bytes turn out to be broken.
-/

set_option autoImplicit false

namespace SqlColumns.Text

def IsTail (byte : UInt8) : Prop :=
  0x80 ≤ byte.toNat ∧ byte.toNat ≤ 0xBF

/-- A second byte that may follow a first one: a tail with which the character takes no more bytes than
it needs, is no surrogate and has no code above the last one. -/
structure Follows (first second : UInt8) : Prop where
  tail : IsTail second
  threeNeeded : first.toNat = 0xE0 → 0xA0 ≤ second.toNat
  noSurrogate : first.toNat = 0xED → second.toNat ≤ 0x9F
  fourNeeded : first.toNat = 0xF0 → 0x90 ≤ second.toNat
  inRange : first.toNat = 0xF4 → second.toNat ≤ 0x8F

inductive IsCharacter : List UInt8 → Prop where
  | one {first : UInt8} : first.toNat ≤ 0x7F → IsCharacter [first]
  | two {first second : UInt8} : 0xC2 ≤ first.toNat → first.toNat ≤ 0xDF → Follows first second →
      IsCharacter [first, second]
  | three {first second third : UInt8} : 0xE0 ≤ first.toNat → first.toNat ≤ 0xEF →
      Follows first second → IsTail third → IsCharacter [first, second, third]
  | four {first second third fourth : UInt8} : 0xF0 ≤ first.toNat → first.toNat ≤ 0xF4 →
      Follows first second → IsTail third → IsTail fourth →
      IsCharacter [first, second, third, fourth]

inductive IsWellFormed : List UInt8 → Prop where
  | nil : IsWellFormed []
  | cons {character rest : List UInt8} : IsCharacter character → IsWellFormed rest →
      IsWellFormed (character ++ rest)

/-!
## Characters
-/

theorem isCharacter_utf8EncodeChar (c : Char) : IsCharacter (String.utf8EncodeChar c) := by
  have bound : c.val.toNat < 0x110000 := toNat_lt c
  have scalar : c.val.toNat < 0xD800 ∨ 0xDFFF < c.val.toNat := c.valid.imp id And.left
  -- Each bound on a byte is one on the code, whose digits to the base 64 the bytes carry.
  fun_cases String.utf8EncodeChar c with
  | case1 value one =>
      refine .one ?_
      rw [UInt8.toNat_ofNat']
      omega
  | case2 value notOne two =>
      simp only [value] at *
      refine .two ?_ ?_ ⟨⟨?_, ?_⟩, ?_, ?_, ?_, ?_⟩ <;> simp only [UInt8.toNat_ofNat'] <;> omega
  | case3 value notOne notTwo three =>
      simp only [value] at *
      refine .three ?_ ?_ ⟨⟨?_, ?_⟩, ?_, ?_, ?_, ?_⟩ ⟨?_, ?_⟩ <;>
        simp only [UInt8.toNat_ofNat'] <;> omega
  | case4 value notOne notTwo notThree =>
      simp only [value] at *
      refine .four ?_ ?_ ⟨⟨?_, ?_⟩, ?_, ?_, ?_, ?_⟩ ⟨?_, ?_⟩ ⟨?_, ?_⟩ <;>
        simp only [UInt8.toNat_ofNat'] <;> omega

theorem exists_char_of_isCharacter {bytes : List UInt8} (character : IsCharacter bytes) :
    ∃ c, String.utf8EncodeChar c = bytes := by
  -- The bounds on the second byte are what makes the code that of a character with as many bytes.
  cases character with
  | @one first small =>
      have code : (Char.ofNat first.toNat).toNat = first.toNat := toNat_ofNat (.inl (by omega))
      refine ⟨Char.ofNat first.toNat, ?_⟩
      rw [utf8EncodeChar_one (by omega), code, UInt8.ofNat_toNat]
  | @two first second least most follows =>
      obtain ⟨low, high⟩ := follows.tail
      have code := toNat_ofNat (show Nat.isValidChar
        ((first.toNat - 0xC0) * 64 + (second.toNat - 0x80)) from .inl (by omega))
      refine ⟨_, (utf8EncodeChar_two (by omega) (by omega) (by omega) code).trans ?_⟩
      rw [lead_byte (by omega), lead_byte low]
  | @three first second third least most follows thirdTail =>
      obtain ⟨⟨low, high⟩, needed, surrogate, -, -⟩ := follows
      obtain ⟨thirdLow, thirdHigh⟩ := thirdTail
      have code := toNat_ofNat (show Nat.isValidChar
        ((first.toNat - 0xE0) * 4096 + (second.toNat - 0x80) * 64 + (third.toNat - 0x80)) by
          simp only [Nat.isValidChar]; omega)
      refine ⟨_, (utf8EncodeChar_three ?_ (by omega) (by omega) (by omega) code).trans ?_⟩
      · omega
      · rw [lead_byte least, lead_byte low, lead_byte thirdLow]
  | @four first second third fourth least most follows thirdTail fourthTail =>
      obtain ⟨⟨low, high⟩, -, -, needed, inRange⟩ := follows
      obtain ⟨thirdLow, thirdHigh⟩ := thirdTail
      obtain ⟨fourthLow, fourthHigh⟩ := fourthTail
      have code := toNat_ofNat (show Nat.isValidChar
        ((first.toNat - 0xF0) * 262144 + (second.toNat - 0x80) * 4096 + (third.toNat - 0x80) * 64 +
          (fourth.toNat - 0x80)) by simp only [Nat.isValidChar]; omega)
      refine ⟨_, (utf8EncodeChar_four ?_ (by omega) (by omega) (by omega) (by omega) code).trans ?_⟩
      · omega
      · rw [lead_byte least, lead_byte low, lead_byte thirdLow, lead_byte fourthLow]

theorem isCharacter_iff {bytes : List UInt8} :
    IsCharacter bytes ↔ ∃ c, String.utf8EncodeChar c = bytes := by
  constructor
  · exact exists_char_of_isCharacter
  · rintro ⟨c, rfl⟩
    exact isCharacter_utf8EncodeChar c

/-!
## Texts
-/

theorem isWellFormed_encode (text : List Char) : IsWellFormed (encode text) := by
  induction text with
  | nil => exact .nil
  | cons c text ih => exact .cons (isCharacter_iff.mpr ⟨c, rfl⟩) ih

/-- Well-formed bytes are those of a text. -/
theorem isWellFormed_iff {bytes : List UInt8} :
    IsWellFormed bytes ↔ ∃ text, encode text = bytes := by
  constructor
  · intro formed
    induction formed with
    | nil => exact ⟨[], rfl⟩
    | cons character _ ih =>
        obtain ⟨c, rfl⟩ := isCharacter_iff.mp character
        obtain ⟨text, rfl⟩ := ih
        exact ⟨c :: text, rfl⟩
  · rintro ⟨text, rfl⟩
    exact isWellFormed_encode text

/-!
## Readings
-/

theorem exists_decode?_iff {bytes : List UInt8} :
    (∃ text, decode? bytes = .ok text) ↔ IsWellFormed bytes := by
  simp only [decode?_eq_ok_iff, isWellFormed_iff]

/-- Where reading stops, the bytes of a text lie behind it, and those of no character before it. -/
theorem exists_of_decodeFrom_error {done : List Char} {offset place : Nat} {bytes : List UInt8}
    (failed : decodeFrom done offset bytes = .error place) :
    ∃ front rest, bytes = encode front ++ rest ∧ place = offset + byteLength front ∧
      rest ≠ [] ∧ takeChar? rest = none := by
  fun_induction decodeFrom done offset bytes with
  | case1 done offset bytes c behind step shorter ih =>
      obtain ⟨front, rest, rfl, rfl, more, broken⟩ := ih failed
      refine ⟨c :: front, rest, ?_, ?_, more, broken⟩
      · rw [eq_utf8EncodeChar_of_takeChar? step, ← List.append_assoc]
        rfl
      · have length : byteLength (c :: front) = c.utf8Size + byteLength front := rfl
        omega
  | case2 => cases failed
  | case3 done offset bytes step more =>
      cases failed
      refine ⟨[], bytes, rfl, rfl, ?_, step⟩
      rintro rfl
      exact more rfl

/-- Behind the bytes of a text where no character begins, no longer text ends. -/
theorem length_le_of_encode_isPrefix {front longer : List Char} {rest : List UInt8}
    (broken : takeChar? rest = none) (ahead : encode longer <+: encode front ++ rest) :
    (encode longer).length ≤ (encode front).length := by
  obtain ⟨behind, same⟩ := ahead
  induction longer generalizing front with
  | nil => exact Nat.zero_le _
  | cons d longer ih =>
      rw [encode, List.flatMap_cons, List.append_assoc] at same
      cases front with
      | nil =>
          obtain rfl : _ = rest := same
          rw [takeChar?_utf8EncodeChar] at broken
          cases broken
      | cons c front =>
          -- Both begin with the same character.
          rw [encode, List.flatMap_cons, List.append_assoc] at same
          have first := congrArg takeChar? same
          rw [takeChar?_utf8EncodeChar, takeChar?_utf8EncodeChar] at first
          obtain ⟨rfl, behindFirst⟩ := Prod.mk.inj (Option.some.inj first)
          have later := ih behindFirst
          rw [length_encode, length_encode] at later ⊢
          exact Nat.add_le_add_left later _

def wellFormedLengths (bytes : List UInt8) : Set Nat :=
  {length | ∃ ahead, ahead <+: bytes ∧ IsWellFormed ahead ∧ ahead.length = length}

theorem isGreatest_of_decode? {bytes : List UInt8} {offset : Nat}
    (failed : decode? bytes = .error offset) : IsGreatest (wellFormedLengths bytes) offset := by
  obtain ⟨front, rest, rfl, rfl, -, broken⟩ := exists_of_decodeFrom_error failed
  rw [Nat.zero_add, ← length_encode]
  constructor
  · exact ⟨encode front, ⟨rest, rfl⟩, isWellFormed_encode front, rfl⟩
  · rintro _ ⟨ahead, beginning, formed, rfl⟩
    obtain ⟨longer, rfl⟩ := isWellFormed_iff.mp formed
    exact length_le_of_encode_isPrefix broken beginning

/-- Reading stops where the longest well-formed beginning of the bytes ends, unless it is all of
them. -/
theorem decode?_eq_error_iff {bytes : List UInt8} {offset : Nat} :
    decode? bytes = .error offset ↔
      ¬ IsWellFormed bytes ∧ IsGreatest (wellFormedLengths bytes) offset := by
  constructor
  · intro failed
    refine ⟨fun formed => ?_, isGreatest_of_decode? failed⟩
    obtain ⟨text, read⟩ := exists_decode?_iff.mpr formed
    rw [failed] at read
    cases read
  · rintro ⟨broken, greatest⟩
    cases result : decode? bytes with
    | ok text => exact absurd (exists_decode?_iff.mp ⟨text, result⟩) broken
    | error place => rw [(isGreatest_of_decode? result).unique greatest]

/-- A form longer than needed, a surrogate, a code above the last one, and a character cut off behind
another one. -/
example : [[0xC1, 0xBF], [0xED, 0xA0, 0x80], [0xF4, 0x90, 0x80, 0x80], [0x61, 0xE2, 0x82]].map decode? =
    [.error 0, .error 0, .error 0, .error 1] := by
  decide +kernel

end SqlColumns.Text
