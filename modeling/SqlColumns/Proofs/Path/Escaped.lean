import SqlColumns.Path
import SqlColumns.Proofs.Text.Utf8

/-!
# What is written in paths

Any bytes make a path of which they are the bytes. What is printed for a path is the text that was
written in it; only bytes that are no part of a character are lost.
-/

set_option autoImplicit false

namespace SqlColumns

namespace Path

variable {text : List Char} {body : List (List Char)} {c : Char}

/-!
## Bytes
-/

theorem escaped_cons (plain : c ≠ '\x00') (text : List Char) :
    escaped (c :: text) = c :: escaped text := by
  rw [escaped, List.flatMap_cons, if_neg plain]
  rfl

theorem escaped_of_not_mem (plain : '\x00' ∉ text) : escaped text = text := by
  induction text with
  | nil => rfl
  | cons c text ih =>
      obtain ⟨own, rest⟩ := not_or.mp (mt List.mem_cons.mpr plain)
      rw [escaped_cons (Ne.symm own), ih rest]

theorem mem_escaped (member : c ∈ text) : c ∈ escaped text := by
  refine List.mem_flatMap.mpr ⟨c, member, ?_⟩
  split
  · next zero =>
      rw [zero]
      exact List.mem_cons_self
  · exact List.mem_singleton_self c

theorem bytesOf_cons (plain : c ≠ '\x00') (text : List Char) :
    bytesOf (c :: text) = String.utf8EncodeChar c ++ bytesOf text := by
  cases text with
  | nil => rw [bytesOf, bytesOf, List.append_nil]
  | cons second rest => rw [bytesOf, if_neg fun zero => plain zero.1]

theorem bytesOf_escaped_append (text rest : List Char) :
    bytesOf (escaped text ++ rest) = Text.encode text ++ bytesOf rest := by
  induction text with
  | nil => rfl
  | cons c text ih =>
      rw [Text.encode, List.flatMap_cons, ← Text.encode, List.append_assoc, ← ih]
      by_cases zero : c = '\x00'
      · subst zero
        rfl
      · rw [escaped_cons zero]
        exact bytesOf_cons zero _

theorem escapedBehind_append (passed bytes : List UInt8) :
    escapedBehind passed.length (passed ++ bytes) = escapedBehind 0 bytes := by
  induction passed with
  | nil => rfl
  | cons byte passed ih => exact ih

theorem escapedBehind_utf8EncodeChar (c : Char) (bytes : List UInt8) :
    escapedBehind 0 (String.utf8EncodeChar c ++ bytes) =
      escaped [c] ++ escapedBehind 0 bytes := by
  have taken := Text.takeChar?_utf8EncodeChar c bytes
  have length := String.length_utf8EncodeChar c
  cases own : String.utf8EncodeChar c with
  | nil =>
      rw [own] at length
      exact absurd length.symm (Nat.ne_of_gt c.utf8Size_pos)
  | cons lead passed =>
      rw [own, List.cons_append] at taken
      rw [own, List.length_cons] at length
      rw [List.cons_append, escapedBehind, taken]
      simp only [← length, Nat.add_sub_cancel, escapedBehind_append]

theorem standsForByte_of_takeChar? {byte : UInt8} {rest : List UInt8}
    (none : Text.takeChar? (byte :: rest) = none) :
    (Char.ofNat byte.toNat).toNat = byte.toNat ∧
      standsForByte (Char.ofNat byte.toNat) = true := by
  have small : byte.toNat < 256 := byte.toNat_lt
  have code : (Char.ofNat byte.toNat).toNat = byte.toNat := Text.toNat_ofNat (.inl (by omega))
  have large : 0x80 ≤ byte.toNat := by
    refine Nat.le_of_not_lt fun ascii => ?_
    simp [Text.takeChar?, ascii] at none
  refine ⟨code, ?_⟩
  simp [standsForByte, code, large, small]

/-- The bytes that make a path are its bytes. -/
theorem bytesOf_ofBytes (bytes : List UInt8) : bytesOf (ofBytes bytes).text.toList = bytes := by
  rw [ofBytes, String.toList_ofList]
  induction size : bytes.length using Nat.strongRecOn generalizing bytes with
  | ind size ih =>
      cases bytes with
      | nil => rfl
      | cons byte rest =>
          cases taken : Text.takeChar? (byte :: rest) with
          | some step =>
              obtain ⟨c, behind⟩ := step
              have shorter := Text.length_lt_of_takeChar? taken
              rw [Text.eq_utf8EncodeChar_of_takeChar? taken, escapedBehind_utf8EncodeChar,
                bytesOf_escaped_append, ih _ (size ▸ shorter) behind rfl, Text.encode,
                List.flatMap_singleton]
          | none =>
              obtain ⟨code, stands⟩ := standsForByte_of_takeChar? taken
              rw [escapedBehind, taken]
              simp only
              rw [bytesOf, if_pos ⟨rfl, stands⟩, code, UInt8.ofNat_toNat,
                ih rest.length (size ▸ Nat.lt_succ_self _) rest rfl]

/-!
## Characters
-/

theorem isText_cons (plain : c ≠ '\x00') (text : List Char) :
    isText (c :: text) = isText text := by
  cases text with
  | nil => simp [isText, plain]
  | cons second rest => rw [isText, if_neg plain]

theorem isText_escaped (text : List Char) : isText (escaped text) = true := by
  induction text with
  | nil => rfl
  | cons c text ih =>
      by_cases zero : c = '\x00'
      · subst zero
        exact ih
      · rw [escaped_cons zero, isText_cons zero, ih]

theorem isText_of_not_mem (plain : '\x00' ∉ text) : isText text = true := by
  rw [← escaped_of_not_mem plain]
  exact isText_escaped text

theorem exists_of_isText (characters : isText text = true) : ∃ own, text = escaped own := by
  fun_induction isText text with
  | case1 => exact ⟨[], rfl⟩
  | case2 c =>
      have plain : c ≠ '\x00' := by simpa using characters
      exact ⟨[c], by rw [escaped_cons plain]; rfl⟩
  | case3 second rest ih =>
      obtain ⟨zero, behind⟩ := Bool.and_eq_true_iff.mp characters
      obtain ⟨own, rfl⟩ := ih behind
      obtain rfl := beq_iff_eq.mp zero
      exact ⟨'\x00' :: own, rfl⟩
  | case4 c second rest plain ih =>
      obtain ⟨own, same⟩ := ih characters
      exact ⟨c :: own, by rw [escaped_cons plain, same]⟩

/-- What is printed for a text is the text. -/
theorem printed_escaped (text : List Char) : printed (escaped text) = text := by
  have bytes := bytesOf_escaped_append text []
  rw [List.append_nil, bytesOf, List.append_nil] at bytes
  rw [printed, bytes, Text.decodeLossy_encode]

theorem escaped_printed (characters : isText text = true) : escaped (printed text) = text := by
  obtain ⟨own, rfl⟩ := exists_of_isText characters
  rw [printed_escaped]

theorem isText_append_slash (left right : List Char) :
    isText (left ++ '/' :: right) = (isText left && isText right) := by
  have slash : ('/' : Char) ≠ '\x00' := by decide
  fun_induction isText left with
  | case1 => rw [List.nil_append, isText_cons slash, Bool.true_and]
  | case2 c =>
      by_cases zero : c = '\x00'
      · subst zero
        rfl
      · rw [List.cons_append, isText_cons zero, List.nil_append, isText_cons slash]
        simp [zero]
  | case3 second rest ih =>
      rw [List.cons_append, List.cons_append, isText, if_pos rfl, ih, Bool.and_assoc]
  | case4 c second rest plain ih => rw [List.cons_append, isText_cons plain, ih]

/-- Segments between slashes are characters when each segment is. -/
theorem isText_join_iff : isText (join body) = true ↔ ∀ segment ∈ body, isText segment = true := by
  fun_induction join body with
  | case1 => simp [isText]
  | case2 segment => simp
  | case3 segment rest some ih =>
      rw [isText_append_slash, Bool.and_eq_true_iff, ih, List.forall_mem_cons]

end Path

end SqlColumns
