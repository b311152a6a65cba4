import SqlColumns.Text.Utf8

/-!
# Round trip of UTF-8

Reading the bytes of a text gives the text back, and bytes that can be read are the bytes of what was
read, so a text file holds no more and no less than its text.
-/

set_option autoImplicit false

namespace SqlColumns.Text

theorem encode_append (left right : List Char) :
    encode (left ++ right) = encode left ++ encode right :=
  List.flatMap_append

theorem length_encode (text : List Char) : (encode text).length = byteLength text := by
  induction text with
  | nil => rfl
  | cons c text ih =>
      have step : encode (c :: text) = String.utf8EncodeChar c ++ encode text := rfl
      rw [step, List.length_append, String.length_utf8EncodeChar, ih]
      rfl

private theorem toNat_byte {value : Nat} (small : value < 256) :
    (UInt8.ofNat value).toNat = value := by
  rw [UInt8.toNat_ofNat', Nat.mod_eq_of_lt small]

private theorem tailBits?_byte {value : Nat} (small : value < 64) :
    tailBits? (UInt8.ofNat (value + 0x80)) = some value := by
  have byte := toNat_byte (show value + 0x80 < 256 by omega)
  simp only [tailBits?, byte]
  rw [if_pos (by omega), Nat.add_sub_cancel]

private theorem scalar?_toNat {least : Nat} {c : Char} (above : least ≤ c.toNat) :
    scalar? least c.toNat = some c := by
  rw [scalar?, if_pos ⟨above, c.valid⟩, Char.ofNat_toNat]

theorem toNat_lt (c : Char) : c.toNat < 0x110000 := by
  rcases c.valid with low | ⟨_, high⟩
  · exact Nat.lt_trans low (by decide)
  · exact high

/-!
The first byte says how many bytes a character has. Reading is stated for each number on its own,
with the code left as it is: unfolded together with the bytes it would be multiplied out.
-/

private theorem takeChar?_one {value : Nat} (rest : List UInt8) (small : value < 0x80) :
    takeChar? (UInt8.ofNat value :: rest) = some (Char.ofNat value, rest) := by
  have lead := toNat_byte (show value < 256 by omega)
  simp only [takeChar?, lead, small, if_true]

private theorem takeChar?_cons_two {lead second : UInt8} {rest : List UInt8}
    (least : 0xC0 ≤ lead.toNat) (most : lead.toNat < 0xE0) :
    takeChar? (lead :: second :: rest) =
      (tailBits? second).bind fun low =>
        (scalar? 0x80 ((lead.toNat - 0xC0) * 64 + low)).bind fun c => some (c, rest) := by
  rw [takeChar?, if_neg (by omega), if_neg (by omega), if_pos most]
  rfl

private theorem takeChar?_two {high low : Nat} {c : Char} (rest : List UInt8)
    (highSmall : high < 0x20) (lowSmall : low < 64)
    (scalar : scalar? 0x80 (high * 64 + low) = some c) :
    takeChar? (UInt8.ofNat (high + 0xc0) :: UInt8.ofNat (low + 0x80) :: rest) =
      some (c, rest) := by
  have lead := toNat_byte (show high + 0xc0 < 256 by omega)
  rw [takeChar?_cons_two (by omega) (by omega), lead, Nat.add_sub_cancel, tailBits?_byte lowSmall,
    Option.bind_some, scalar, Option.bind_some]

private theorem takeChar?_cons_three {lead second third : UInt8} {rest : List UInt8}
    (least : 0xE0 ≤ lead.toNat) (most : lead.toNat < 0xF0) :
    takeChar? (lead :: second :: third :: rest) =
      (tailBits? second).bind fun middle => (tailBits? third).bind fun low =>
        (scalar? 0x800 ((lead.toNat - 0xE0) * 4096 + middle * 64 + low)).bind
          fun c => some (c, rest) := by
  rw [takeChar?, if_neg (by omega), if_neg (by omega), if_neg (by omega), if_pos most]
  rfl

private theorem takeChar?_three {high middle low : Nat} {c : Char} (rest : List UInt8)
    (highSmall : high < 0x10) (middleSmall : middle < 64) (lowSmall : low < 64)
    (scalar : scalar? 0x800 (high * 4096 + middle * 64 + low) = some c) :
    takeChar? (UInt8.ofNat (high + 0xe0) :: UInt8.ofNat (middle + 0x80) ::
        UInt8.ofNat (low + 0x80) :: rest) = some (c, rest) := by
  have lead := toNat_byte (show high + 0xe0 < 256 by omega)
  rw [takeChar?_cons_three (by omega) (by omega), lead, Nat.add_sub_cancel,
    tailBits?_byte middleSmall, Option.bind_some, tailBits?_byte lowSmall, Option.bind_some, scalar,
    Option.bind_some]

private theorem takeChar?_cons_four {lead second third fourth : UInt8} {rest : List UInt8}
    (least : 0xF0 ≤ lead.toNat) (most : lead.toNat < 0xF8) :
    takeChar? (lead :: second :: third :: fourth :: rest) =
      (tailBits? second).bind fun upper => (tailBits? third).bind fun middle =>
        (tailBits? fourth).bind fun low =>
          (scalar? 0x10000 ((lead.toNat - 0xF0) * 262144 + upper * 4096 + middle * 64 + low)).bind
            fun c => some (c, rest) := by
  rw [takeChar?, if_neg (by omega), if_neg (by omega), if_neg (by omega), if_neg (by omega),
    if_pos most]
  rfl

private theorem takeChar?_four {high upper middle low : Nat} {c : Char} (rest : List UInt8)
    (highSmall : high < 0x08) (upperSmall : upper < 64) (middleSmall : middle < 64)
    (lowSmall : low < 64)
    (scalar : scalar? 0x10000 (high * 262144 + upper * 4096 + middle * 64 + low) = some c) :
    takeChar? (UInt8.ofNat (high + 0xf0) :: UInt8.ofNat (upper + 0x80) ::
        UInt8.ofNat (middle + 0x80) :: UInt8.ofNat (low + 0x80) :: rest) = some (c, rest) := by
  have lead := toNat_byte (show high + 0xf0 < 256 by omega)
  rw [takeChar?_cons_four (by omega) (by omega), lead, Nat.add_sub_cancel,
    tailBits?_byte upperSmall, Option.bind_some, tailBits?_byte middleSmall, Option.bind_some,
    tailBits?_byte lowSmall, Option.bind_some, scalar, Option.bind_some]

theorem takeChar?_utf8EncodeChar (c : Char) (rest : List UInt8) :
    takeChar? (String.utf8EncodeChar c ++ rest) = some (c, rest) := by
  have bound : c.val.toNat < 0x110000 := toNat_lt c
  fun_cases String.utf8EncodeChar c with
  | case1 value one =>
      have read := takeChar?_one rest (show c.toNat < 0x80 from Nat.lt_succ_of_le one)
      rw [Char.ofNat_toNat] at read
      exact read
  | case2 value notOne two =>
      simp only [value] at notOne two
      have code : value / 64 % 0x20 * 64 + value % 0x40 = value := by simp only [value]; omega
      refine takeChar?_two rest (by omega) (by omega) ?_
      rw [code]
      exact scalar?_toNat (show 0x80 ≤ c.val.toNat by omega)
  | case3 value notOne notTwo three =>
      simp only [value] at notOne notTwo three
      have code : value / 4096 % 0x10 * 4096 + value / 64 % 0x40 * 64 + value % 0x40 = value := by
        simp only [value]; omega
      refine takeChar?_three rest (by omega) (by omega) (by omega) ?_
      rw [code]
      exact scalar?_toNat (show 0x800 ≤ c.val.toNat by omega)
  | case4 value notOne notTwo notThree =>
      simp only [value] at notOne notTwo notThree
      have code : value / 262144 % 0x08 * 262144 + value / 4096 % 0x40 * 4096 +
          value / 64 % 0x40 * 64 + value % 0x40 = value := by
        simp only [value]; omega
      refine takeChar?_four rest (by omega) (by omega) (by omega) (by omega) ?_
      rw [code]
      exact scalar?_toNat (show 0x10000 ≤ c.val.toNat by omega)

/-- More text is read from bytes that begin with those of a character. -/
theorem decodeFrom_utf8EncodeChar (done : List Char) (offset : Nat) (c : Char)
    (rest : List UInt8) :
    decodeFrom done offset (String.utf8EncodeChar c ++ rest) =
      decodeFrom (c :: done) (offset + c.utf8Size) rest := by
  rw [decodeFrom]
  split
  · rename_i next behind step
    rw [takeChar?_utf8EncodeChar] at step
    cases step
    rfl
  · rename_i step
    rw [takeChar?_utf8EncodeChar] at step
    cases step

theorem decodeFrom_nil (done : List Char) (offset : Nat) :
    decodeFrom done offset [] = .ok done.reverse := by
  rw [decodeFrom]
  rfl

theorem decodeFrom_encode (done text : List Char) (offset : Nat) :
    decodeFrom done offset (encode text) = .ok (done.reverse ++ text) := by
  induction text generalizing done offset with
  | nil => rw [encode, List.flatMap_nil, decodeFrom_nil, List.append_nil]
  | cons c text ih =>
      rw [encode, List.flatMap_cons, decodeFrom_utf8EncodeChar]
      have rest := ih (c :: done) (offset + c.utf8Size)
      rw [List.reverse_cons, List.append_assoc] at rest
      exact rest

/-- A text is read back from its bytes. -/
theorem decode?_encode (text : List Char) : decode? (encode text) = .ok text :=
  decodeFrom_encode [] text 0

theorem decodeLossyBehind_append (done : List Char) (passed rest : List UInt8) :
    decodeLossyBehind done passed.length (passed ++ rest) = decodeLossyBehind done 0 rest := by
  induction passed with
  | nil => rfl
  | cons byte passed ih => exact ih

theorem decodeLossyBehind_utf8EncodeChar (done : List Char) (c : Char) (rest : List UInt8) :
    decodeLossyBehind done 0 (String.utf8EncodeChar c ++ rest) =
      decodeLossyBehind (c :: done) 0 rest := by
  have taken := takeChar?_utf8EncodeChar c rest
  have length := String.length_utf8EncodeChar c
  cases bytes : String.utf8EncodeChar c with
  | nil =>
      rw [bytes] at length
      exact absurd length.symm (Nat.ne_of_gt c.utf8Size_pos)
  | cons lead passed =>
      rw [bytes, List.cons_append] at taken
      rw [bytes, List.length_cons] at length
      rw [List.cons_append, decodeLossyBehind, taken]
      simp only [← length, Nat.add_sub_cancel]
      exact decodeLossyBehind_append (c :: done) passed rest

/-- Nothing is lost where bytes are those of a text. -/
theorem decodeLossy_encode (text : List Char) : decodeLossy (encode text) = text := by
  have behind : ∀ done, decodeLossyBehind done 0 (encode text) = done.reverse ++ text := by
    induction text with
    | nil => exact fun done => (List.append_nil _).symm
    | cons c text ih =>
        intro done
        rw [encode, List.flatMap_cons, decodeLossyBehind_utf8EncodeChar, ← encode, ih,
          List.reverse_cons, List.append_assoc, List.singleton_append]
  exact behind []

/-!
## From bytes to text
-/

private theorem tailBits?_eq_some {byte : UInt8} {value : Nat}
    (read : tailBits? byte = some value) :
    value < 64 ∧ byte = UInt8.ofNat (value + 0x80) := by
  simp only [tailBits?] at read
  split at read
  · rename_i tail
    obtain rfl := Option.some.inj read
    refine ⟨by omega, ?_⟩
    rw [Nat.sub_add_cancel tail.1, UInt8.ofNat_toNat]
  · cases read

theorem toNat_ofNat {code : Nat} (valid : code.isValidChar) : (Char.ofNat code).toNat = code := by
  rw [Char.ofNat, dif_pos valid]
  rfl

private theorem scalar?_eq_some {least code : Nat} {c : Char}
    (read : scalar? least code = some c) : least ≤ c.toNat ∧ c.toNat = code := by
  simp only [scalar?] at read
  split at read
  · rename_i scalar
    cases read
    rw [toNat_ofNat scalar.2]
    exact ⟨scalar.1, rfl⟩
  · cases read

theorem utf8EncodeChar_one {c : Char} (one : c.toNat < 0x80) :
    String.utf8EncodeChar c = [UInt8.ofNat c.toNat] := by
  change (if c.toNat ≤ 0x7f then _ else _) = _
  rw [if_pos (by omega)]
  rfl

theorem utf8EncodeChar_two {c : Char} {high low : Nat} (least : 0x80 ≤ c.toNat)
    (highSmall : high < 0x20) (lowSmall : low < 64) (code : c.toNat = high * 64 + low) :
    String.utf8EncodeChar c = [UInt8.ofNat (high + 0xc0), UInt8.ofNat (low + 0x80)] := by
  change (if c.toNat ≤ 0x7f then _ else if c.toNat ≤ 0x7ff then
    [UInt8.ofNat (c.toNat / 64 % 0x20 + 0xc0), UInt8.ofNat (c.toNat % 0x40 + 0x80)] else _) = _
  rw [if_neg (by omega), if_pos (by omega), show c.toNat / 64 % 0x20 = high by omega,
    show c.toNat % 0x40 = low by omega]

theorem utf8EncodeChar_three {c : Char} {high middle low : Nat} (least : 0x800 ≤ c.toNat)
    (highSmall : high < 0x10) (middleSmall : middle < 64) (lowSmall : low < 64)
    (code : c.toNat = high * 4096 + middle * 64 + low) :
    String.utf8EncodeChar c =
      [UInt8.ofNat (high + 0xe0), UInt8.ofNat (middle + 0x80), UInt8.ofNat (low + 0x80)] := by
  change (if c.toNat ≤ 0x7f then _ else if c.toNat ≤ 0x7ff then _ else if c.toNat ≤ 0xffff then
    [UInt8.ofNat (c.toNat / 4096 % 0x10 + 0xe0), UInt8.ofNat (c.toNat / 64 % 0x40 + 0x80),
      UInt8.ofNat (c.toNat % 0x40 + 0x80)] else _) = _
  rw [if_neg (by omega), if_neg (by omega), if_pos (by omega),
    show c.toNat / 4096 % 0x10 = high by omega, show c.toNat / 64 % 0x40 = middle by omega,
    show c.toNat % 0x40 = low by omega]

theorem utf8EncodeChar_four {c : Char} {high upper middle low : Nat}
    (least : 0x10000 ≤ c.toNat) (highSmall : high < 0x08) (upperSmall : upper < 64)
    (middleSmall : middle < 64) (lowSmall : low < 64)
    (code : c.toNat = high * 262144 + upper * 4096 + middle * 64 + low) :
    String.utf8EncodeChar c = [UInt8.ofNat (high + 0xf0), UInt8.ofNat (upper + 0x80),
      UInt8.ofNat (middle + 0x80), UInt8.ofNat (low + 0x80)] := by
  change (if c.toNat ≤ 0x7f then _ else if c.toNat ≤ 0x7ff then _ else if c.toNat ≤ 0xffff then _
    else [UInt8.ofNat (c.toNat / 262144 % 0x08 + 0xf0), UInt8.ofNat (c.toNat / 4096 % 0x40 + 0x80),
      UInt8.ofNat (c.toNat / 64 % 0x40 + 0x80), UInt8.ofNat (c.toNat % 0x40 + 0x80)]) = _
  rw [if_neg (by omega), if_neg (by omega), if_neg (by omega),
    show c.toNat / 262144 % 0x08 = high by omega, show c.toNat / 4096 % 0x40 = upper by omega,
    show c.toNat / 64 % 0x40 = middle by omega, show c.toNat % 0x40 = low by omega]

theorem lead_byte {lead : UInt8} {base : Nat} (above : base ≤ lead.toNat) :
    UInt8.ofNat (lead.toNat - base + base) = lead := by
  rw [Nat.sub_add_cancel above, UInt8.ofNat_toNat]

/-- A character is read from no other bytes than its own. -/
theorem eq_utf8EncodeChar_of_takeChar? {bytes rest : List UInt8} {c : Char}
    (read : takeChar? bytes = some (c, rest)) :
    bytes = String.utf8EncodeChar c ++ rest := by
  revert read
  fun_cases takeChar? bytes with
  | case2 lead behind code one =>
      intro read
      obtain ⟨rfl, rfl⟩ := Prod.mk.inj (Option.some.inj read)
      have same : (Char.ofNat code).toNat = code := toNat_ofNat (.inl (by omega))
      rw [utf8EncodeChar_one (by omega), same, UInt8.ofNat_toNat]
      rfl
  | case4 lead code notOne notTail two second behind =>
      intro read
      simp only [Option.bind_eq_bind, Option.bind_eq_some_iff, Option.pure_def,
        Option.some.injEq, Prod.mk.injEq] at read
      obtain ⟨low, lowRead, c, cRead, rfl, rfl⟩ := read
      obtain ⟨lowSmall, rfl⟩ := tailBits?_eq_some lowRead
      obtain ⟨least, value⟩ := scalar?_eq_some cRead
      rw [utf8EncodeChar_two least (by omega) lowSmall value, lead_byte (by omega)]
      rfl
  | case6 lead code notOne notTail notTwo three second third behind =>
      intro read
      simp only [Option.bind_eq_bind, Option.bind_eq_some_iff, Option.pure_def,
        Option.some.injEq, Prod.mk.injEq] at read
      obtain ⟨middle, middleRead, low, lowRead, c, cRead, rfl, rfl⟩ := read
      obtain ⟨middleSmall, rfl⟩ := tailBits?_eq_some middleRead
      obtain ⟨lowSmall, rfl⟩ := tailBits?_eq_some lowRead
      obtain ⟨least, value⟩ := scalar?_eq_some cRead
      rw [utf8EncodeChar_three least (by omega) middleSmall lowSmall value, lead_byte (by omega)]
      rfl
  | case8 lead code notOne notTail notTwo notThree four second third fourth behind =>
      intro read
      simp only [Option.bind_eq_bind, Option.bind_eq_some_iff, Option.pure_def,
        Option.some.injEq, Prod.mk.injEq] at read
      obtain ⟨upper, upperRead, middle, middleRead, low, lowRead, c, cRead, rfl, rfl⟩ := read
      obtain ⟨upperSmall, rfl⟩ := tailBits?_eq_some upperRead
      obtain ⟨middleSmall, rfl⟩ := tailBits?_eq_some middleRead
      obtain ⟨lowSmall, rfl⟩ := tailBits?_eq_some lowRead
      obtain ⟨least, value⟩ := scalar?_eq_some cRead
      rw [utf8EncodeChar_four least (by omega) upperSmall middleSmall lowSmall value,
        lead_byte (by omega)]
      rfl
  | case1 | case3 | case5 | case7 | case9 | case10 => intro read; cases read

theorem eq_encode_of_decodeFrom {done text : List Char} {offset : Nat} {bytes : List UInt8}
    (read : decodeFrom done offset bytes = .ok text) :
    ∃ rest, text = done.reverse ++ rest ∧ bytes = encode rest := by
  fun_induction decodeFrom done offset bytes with
  | case1 done offset bytes c rest step shorter ih =>
      obtain ⟨behind, rfl, rfl⟩ := ih read
      refine ⟨c :: behind, by simp, ?_⟩
      rw [encode, List.flatMap_cons]
      exact eq_utf8EncodeChar_of_takeChar? step
  | case2 done offset bytes step empty =>
      obtain rfl := Except.ok.inj read
      exact ⟨[], by simp, List.isEmpty_iff.mp empty⟩
  | case3 done offset bytes step none => cases read

/-- Bytes that can be read are the bytes of what was read. -/
theorem encode_of_decode? {text : List Char} {bytes : List UInt8}
    (read : decode? bytes = .ok text) : encode text = bytes := by
  obtain ⟨rest, rfl, rfl⟩ := eq_encode_of_decodeFrom read
  rfl

theorem decode?_eq_ok_iff {bytes : List UInt8} {text : List Char} :
    decode? bytes = .ok text ↔ encode text = bytes := by
  constructor
  · exact encode_of_decode?
  · rintro rfl
    exact decode?_encode text

end SqlColumns.Text
