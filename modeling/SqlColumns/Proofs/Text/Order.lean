import SqlColumns.Proofs.Text.Utf8

/-!
# Order of bytes and of texts

UTF-8 keeps the order of texts: at the first character that differs, the bytes of the smaller one
come first, and no character has bytes with which those of another one begin.
-/

set_option autoImplicit false

namespace SqlColumns.Text

/-- Where the smaller character comes, the bytes are smaller, whatever follows. -/
theorem utf8EncodeChar_append_lt {first second : Char} (less : first < second)
    (left right : List UInt8) :
    String.utf8EncodeChar first ++ left < String.utf8EncodeChar second ++ right := by
  have codes : first.val.toNat < second.val.toNat := less
  have bound : second.val.toNat < 0x110000 := toNat_lt second
  by_cases rest : left < right <;>
    fun_cases String.utf8EncodeChar first <;> fun_cases String.utf8EncodeChar second <;>
    simp (disch := omega) only [List.cons_append, List.nil_append, List.cons_lt_cons_iff,
      UInt8.lt_iff_toNat_lt, ← UInt8.toNat_inj, UInt8.toNat_ofNat', Nat.mod_eq_of_lt, rest,
      and_true, and_false, or_false] <;>
    omega

/-- A smaller text has smaller bytes. -/
theorem encode_lt {left right : List Char} (less : left < right) : encode left < encode right := by
  induction left generalizing right with
  | nil =>
      cases right with
      | nil => exact absurd less (List.lt_irrefl [])
      | cons second right =>
          obtain ⟨byte, bytes, own⟩ := List.exists_cons_of_ne_nil (String.utf8EncodeChar_ne_nil)
          rw [encode, encode, List.flatMap_nil, List.flatMap_cons, own]
          exact List.nil_lt_cons _ _
  | cons first left ih =>
      cases right with
      | nil => exact absurd less (List.not_lt_nil _)
      | cons second right =>
          rw [encode, encode, List.flatMap_cons, List.flatMap_cons]
          rcases List.cons_lt_cons_iff.mp less with smaller | ⟨rfl, rest⟩
          · exact utf8EncodeChar_append_lt smaller _ _
          · exact List.append_left_lt (ih rest)

end SqlColumns.Text
