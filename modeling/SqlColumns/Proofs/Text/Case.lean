import SqlColumns.Proofs.Text.Case.Tables
import SqlColumns.Proofs.Text.Utf8
import SqlColumns.Text.Case

/-!
# Lower case under folding

Characters that fold alike still fold alike in lower case. The converse fails for the capital letters
that have a lower-case form but fold to themselves.
-/

set_option autoImplicit false

namespace SqlColumns.Text

theorem toNat_lowerSimple (c : Char) : (lowerSimple c).toNat = lowerCode c.toNat :=
  toNat_ofNat (isValidChar_lowerCode c.valid)

theorem toNat_foldChar (c : Char) : (foldChar c).toNat = foldCode c.toNat :=
  toNat_ofNat (isValidChar_foldCode c.valid)

theorem lowerSimple_lowerSimple (c : Char) : lowerSimple (lowerSimple c) = lowerSimple c := by
  apply Char.toNat_inj.mp
  rw [toNat_lowerSimple, toNat_lowerSimple, lowerCode_lowerCode]

def foldLowered (c : Char) : Char :=
  foldChar (lowerSimple c)

/-- Lower-casing keeps characters together that fold alike. -/
theorem foldLowered_eq_of_foldChar_eq {left right : Char} (alike : foldChar left = foldChar right) :
    foldLowered left = foldLowered right := by
  apply Char.toNat_inj.mp
  have codes : foldCode left.toNat = foldCode right.toNat := by
    rw [← toNat_foldChar, ← toNat_foldChar, alike]
  simp only [foldLowered, toNat_foldChar, toNat_lowerSimple, foldCode_lowerCode, codes]

/-- A capital letter that has a lower-case form but folds to itself, or this lower-case form. -/
def IsSplit (c : Char) : Prop :=
  SplitCode c.toNat

instance : DecidablePred IsSplit := fun c =>
  inferInstanceAs (Decidable (SplitCode c.toNat))

theorem toNat_foldLowered (c : Char) : (foldLowered c).toNat = foldCode (lowerCode c.toNat) := by
  rw [foldLowered, toNat_foldChar, toNat_lowerSimple]

private theorem isSplit_of_moved {c other : Char} (same : foldLowered other = foldLowered c)
    (moved : CaseRun.apply unfoldedRuns other.toNat ≠ other.toNat)
    (still : CaseRun.apply unfoldedRuns c.toNat = c.toNat) : IsSplit c := by
  obtain ⟨folded, lowered⟩ := foldCode_of_unfolded moved
  have codes := congrArg Char.toNat same
  rw [toNat_foldLowered, toNat_foldLowered, foldCode_lowerCode, folded,
    foldCode_lowerCode_of_still still] at codes
  have image : CaseRun.Image unfoldedRuns (CaseRun.apply unfoldedRuns other.toNat) :=
    (CaseRun.apply_eq_self_or_image unfoldedRuns other.toNat).resolve_left moved
  have own := eq_of_foldCode_eq_image image codes.symm
  exact .inr (CaseRun.image_iff_hits.mp (own ▸ image))

/-- These are the characters that share the lower-case form, but not the folded form, with another
one. -/
theorem isSplit_iff {c : Char} :
    IsSplit c ↔ ∃ other, foldLowered other = foldLowered c ∧ foldChar other ≠ foldChar c := by
  constructor
  · rintro (moved | hit)
    · refine ⟨lowerSimple c, ?_, fun same => moved ?_⟩
      · rw [foldLowered, foldLowered, lowerSimple_lowerSimple]
      · have codes := congrArg Char.toNat same
        rw [toNat_foldChar, toNat_foldChar, toNat_lowerSimple, foldCode_lowerCode,
          (foldCode_of_unfolded moved).1] at codes
        exact codes
    · obtain ⟨code, moves, apart, valid⟩ :=
        exists_of_unfoldedImage (CaseRun.image_iff_hits.mpr hit)
      have moved : CaseRun.apply unfoldedRuns code ≠ code := fun same => apart (same.symm.trans moves)
      obtain ⟨folded, lowered⟩ := foldCode_of_unfolded moved
      obtain ⟨lower, unfolded⟩ := apply_of_loweringImage
        ((CaseRun.image_iff_hits.mpr hit).mono fun _ => List.mem_append_right _)
      have settled : lowerCode c.toNat = c.toNat := by rw [lowerCode, lower, unfolded]
      refine ⟨Char.ofNat code, ?_, fun same => ?_⟩
      · apply Char.toNat_inj.mp
        rw [toNat_foldLowered, toNat_foldLowered, toNat_ofNat valid, lowered, moves, settled]
      · have codes := congrArg Char.toNat same
        rw [toNat_foldChar, toNat_foldChar, toNat_ofNat valid, folded] at codes
        have again := foldCode_lowerCode c.toNat
        rw [settled, ← codes, moves] at again
        exact apart again
  · rintro ⟨other, same, different⟩
    by_cases still : CaseRun.apply unfoldedRuns c.toNat = c.toNat
    · by_cases otherStill : CaseRun.apply unfoldedRuns other.toNat = other.toNat
      · refine absurd (Char.toNat_inj.mp ?_) different
        have codes := congrArg Char.toNat same
        rw [toNat_foldLowered, toNat_foldLowered, foldCode_lowerCode_of_still still,
          foldCode_lowerCode_of_still otherStill] at codes
        rw [toNat_foldChar, toNat_foldChar, codes]
      · exact isSplit_of_moved same otherStill still
    · exact .inl still

theorem foldChar_eq_of_foldLowered_eq {left right : Char} (known : ¬ IsSplit left ∨ ¬ IsSplit right)
    (same : foldLowered left = foldLowered right) : foldChar left = foldChar right := by
  refine Classical.byContradiction fun different => ?_
  rcases known with apart | apart
  · exact apart (isSplit_iff.mpr ⟨right, same.symm, Ne.symm different⟩)
  · exact apart (isSplit_iff.mpr ⟨left, same, different⟩)

/-- Characters that no other one is lower-cased or folded to. -/
def IsOwn (c : Char) : Prop :=
  c.toNat ∈ ownCodes

instance : DecidablePred IsOwn := fun c =>
  inferInstanceAs (Decidable (c.toNat ∈ ownCodes))

theorem eq_of_lowerSimple_eq {own c : Char} (member : IsOwn own) (result : lowerSimple c = own) :
    c = own := by
  apply Char.toNat_inj.mp
  exact eq_of_lowerCode_eq member (by rw [← toNat_lowerSimple, result])

theorem eq_of_foldChar_eq {own c : Char} (member : IsOwn own) (result : foldChar c = own) :
    c = own := by
  apply Char.toNat_inj.mp
  exact eq_of_foldCode_eq member (by rw [← toNat_foldChar, result])

theorem eq_of_foldLowered_eq {own c : Char} (member : IsOwn own) (result : foldLowered c = own) :
    c = own :=
  eq_of_lowerSimple_eq member (eq_of_foldChar_eq member result)

theorem eq_of_foldLowered_eq_letterI {c : Char} (result : foldLowered c = 'i') :
    c = 'i' ∨ c = 'I' := by
  have codes : foldCode (lowerCode c.toNat) = 0x69 := by
    rw [← toNat_lowerSimple, ← toNat_foldChar]
    exact congrArg Char.toNat result
  rcases eq_of_foldCode_lowerCode_eq_letterI codes with small | capital
  · exact .inl (Char.toNat_inj.mp small)
  · exact .inr (Char.toNat_inj.mp capital)

theorem exists_eq_ofNat_of_ascii {c : Char} (ascii : c.toNat < 0x80) :
    ∃ code < 0x80, c = Char.ofNat code :=
  ⟨c.toNat, ascii, (Char.ofNat_toNat c).symm⟩

theorem ascii_of_isAlphanum {c : Char} (letter : c.isAlphanum = true) : c.toNat < 0x80 := by
  delta Char.isAlphanum Char.isAlpha Char.isUpper Char.isLower Char.isDigit at letter
  simp only [Bool.or_eq_true, Bool.and_eq_true, decide_eq_true_eq, UInt32.le_iff_toNat_le] at letter
  rcases letter with (⟨-, upper⟩ | ⟨-, lower⟩) | ⟨-, digit⟩
  · exact Nat.lt_of_le_of_lt upper (by decide)
  · exact Nat.lt_of_le_of_lt lower (by decide)
  · exact Nat.lt_of_le_of_lt digit (by decide)

theorem ascii_of_foldChar {c : Char} (ascii : (foldChar c).toNat < 0x80) :
    c.toNat < 0x80 ∨ c = '\u212A' ∨ c = '\u017F' := by
  rw [toNat_foldChar] at ascii
  rcases ascii_of_foldCode ascii with small | kelvin | longS
  · exact .inl small
  · exact .inr (.inl (Char.toNat_inj.mp kelvin))
  · exact .inr (.inr (Char.toNat_inj.mp longS))

end SqlColumns.Text
