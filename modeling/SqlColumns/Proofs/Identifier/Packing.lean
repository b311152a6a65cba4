import Mathlib.Data.Set.Card
import SqlColumns.Proofs.Identifier.Greedy

/-!
# Ranges that do not overlap

Valid ranges of one identifier can overlap each other, so taking one may rule out others. All of them
have as many characters as the identifier: among ranges that do not overlap, at most one starts before
the end of the first valid range. To take the first one is therefore never a loss, and no set of
valid ranges that do not overlap has more members than the greedy selection.
-/

set_option autoImplicit false

namespace SqlColumns

def CharRange.Apart (left right : CharRange) : Prop :=
  left.stop ≤ right.start ∨ right.stop ≤ left.start

instance : Std.Symm CharRange.Apart where
  symm _ _ := Or.symm

namespace Identifier

structure IsPacking (identifier : Identifier) (text : List Char) (ranges : Set CharRange) :
    Prop where
  valid : ∀ range ∈ ranges, identifier.IsValid text range
  apart : ranges.Pairwise CharRange.Apart

variable {identifier : Identifier} {text : List Char} {least : Nat} {selection : List CharRange}
  {ranges : Set CharRange}

theorem IsPacking.subset {fewer : Set CharRange} (packing : identifier.IsPacking text ranges)
    (among : fewer ⊆ ranges) : identifier.IsPacking text fewer := by
  constructor
  · intro range member
    exact packing.valid range (among member)
  · exact packing.apart.mono among

/-!
## No packing has more members
-/

theorem IsPacking.subsingleton_before {first : CharRange}
    (packing : identifier.IsPacking text ranges) (isFirst : identifier.IsFirstFrom text least first)
    (reached : ∀ range ∈ ranges, least ≤ range.start) :
    {range ∈ ranges | range.start < first.stop}.Subsingleton := by
  have late : ∀ range ∈ ranges, first.stop ≤ range.stop := by
    intro range member
    have start := isFirst.first range (packing.valid range member) (reached range member)
    have firstStop := isFirst.valid.stop_eq
    have stop := (packing.valid range member).stop_eq
    omega
  rintro left ⟨leftMember, leftEarly⟩ right ⟨rightMember, rightEarly⟩
  by_contra different
  have leftLate := late left leftMember
  have rightLate := late right rightMember
  rcases packing.apart leftMember rightMember different with before | behind
  · omega
  · omega

/-- The exchange: the members that the first range rules out are one at most, which it makes up for,
and the others are left to the rest of the selection. -/
theorem IsGreedy.encard_le (greedy : identifier.IsGreedy text least selection)
    (packing : identifier.IsPacking text ranges) (reached : ∀ range ∈ ranges, least ≤ range.start) :
    ranges.encard ≤ selection.length := by
  induction greedy generalizing ranges with
  | @stop least none =>
      have empty : ranges = ∅ := by
        refine Set.eq_empty_of_forall_notMem fun range member => ?_
        have early := none range (packing.valid range member)
        exact absurd early (Nat.not_lt.mpr (reached range member))
      simp [empty]
  | @next least first rest isFirst _ ih =>
      let before := {range ∈ ranges | range.start < first.stop}
      let behind := {range ∈ ranges | first.stop ≤ range.start}
      have one : before.encard ≤ 1 :=
        Set.encard_le_one_iff_subsingleton.mpr (packing.subsingleton_before isFirst reached)
      have others : behind.encard ≤ rest.length := by
        apply ih (packing.subset (Set.sep_subset _ _))
        intro range member
        exact member.2
      have cover : ranges ⊆ behind ∪ before := by
        intro range member
        rcases Nat.lt_or_ge range.start first.stop with early | late
        · exact .inr ⟨member, early⟩
        · exact .inl ⟨member, late⟩
      calc ranges.encard
        _ ≤ (behind ∪ before).encard := Set.encard_le_encard cover
        _ ≤ behind.encard + before.encard := Set.encard_union_le behind before
        _ ≤ rest.length + 1 := add_le_add others one
        _ = ((first :: rest).length : ℕ∞) := by
          rw [List.length_cons, Nat.cast_add, Nat.cast_one]

/-!
## The selection is a packing
-/

theorem IsGreedy.reached (greedy : identifier.IsGreedy text least selection) :
    ∀ range ∈ selection, least ≤ range.start := by
  induction greedy with
  | stop _ =>
      intro range member
      cases member
  | @next least first rest isFirst _ ih =>
      intro range member
      have long := isFirst.valid.start_lt_stop
      have start := isFirst.reached
      rcases List.mem_cons.mp member with rfl | later
      · exact start
      · have behind := ih range later
        omega

theorem IsGreedy.pairwise (greedy : identifier.IsGreedy text least selection) :
    selection.Pairwise fun left right => left.stop ≤ right.start := by
  induction greedy with
  | stop _ => exact .nil
  | next _ rest ih => exact .cons rest.reached ih

theorem IsGreedy.nodup (greedy : identifier.IsGreedy text least selection) : selection.Nodup := by
  refine greedy.pairwise.imp_of_mem fun {left right} leftMember _ behind same => ?_
  have long := (greedy.valid left leftMember).start_lt_stop
  subst same
  omega

theorem IsGreedy.isPacking (greedy : identifier.IsGreedy text least selection) :
    identifier.IsPacking text {range | range ∈ selection} := by
  constructor
  · exact greedy.valid
  · have apart : selection.Pairwise CharRange.Apart := greedy.pairwise.imp Or.inl
    exact apart.set_pairwise

theorem encard_setOf_mem (nodup : selection.Nodup) :
    {range | range ∈ selection}.encard = selection.length := by
  rw [← List.coe_toFinset, Set.encard_coe_eq_coe_finsetCard, List.toFinset_card_of_nodup nodup]

/-- The number of occurrences of an identifier in a text is the greatest number of valid ranges of
which no two overlap. -/
theorem count_isGreatest (identifier : Identifier) (text : List Char) :
    IsGreatest {number : ℕ∞ | ∃ ranges, identifier.IsPacking text ranges ∧ ranges.encard = number}
      (identifier.count text) := by
  have greedy := isGreedy_spans identifier text
  rw [← length_spans]
  constructor
  · exact ⟨_, greedy.isPacking, encard_setOf_mem greedy.nodup⟩
  · rintro number ⟨ranges, packing, rfl⟩
    exact greedy.encard_le packing fun range _ => Nat.zero_le range.start

end Identifier

end SqlColumns
