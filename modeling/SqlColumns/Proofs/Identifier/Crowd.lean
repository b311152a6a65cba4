import SqlColumns.Proofs.Identifier.Packing
import SqlColumns.Proofs.Identifier.Pieces

/-!
# Crowds of an identifier

Copies of an identifier between spaces are valid ranges whatever the identifier and whatever stands
around them. Where such a crowd takes the place of an occurrence, the text then has at least as many
occurrences as the crowd has copies.
-/

set_option autoImplicit false

namespace SqlColumns.Identifier

def crowd (identifier : Identifier) (number : Nat) : List Char :=
  (List.replicate number (' ' :: identifier.chars)).flatten ++ [' ']

variable {identifier : Identifier} {text left right : List Char} {number : Nat}

theorem length_flatten_copies (identifier : Identifier) (number : Nat) :
    (List.replicate number (' ' :: identifier.chars)).flatten.length =
      number * (identifier.chars.length + 1) := by
  simp

def copyRange (identifier : Identifier) (start index : Nat) : CharRange :=
  let first := start + index * (identifier.chars.length + 1) + 1
  ⟨first, first + identifier.chars.length⟩

theorem crowd_eq {index : Nat} (inside : index < number) :
    identifier.crowd number =
      (List.replicate index (' ' :: identifier.chars)).flatten ++ [' '] ++ identifier.chars ++
        identifier.crowd (number - index - 1) := by
  have split : List.replicate number (' ' :: identifier.chars) =
      List.replicate index (' ' :: identifier.chars) ++
        (' ' :: identifier.chars) :: List.replicate (number - index - 1) (' ' :: identifier.chars) := by
    rw [← List.replicate_succ, List.replicate_append_replicate]
    congr 1
    omega
  rw [crowd, split, List.flatten_append, List.flatten_cons]
  simp [crowd]

theorem head?_crowd (identifier : Identifier) (number : Nat) :
    (identifier.crowd number ++ right).head? = some ' ' := by
  cases number <;> simp [crowd, List.replicate_succ]

theorem isValid_copyRange {index : Nat} (inside : index < number) :
    identifier.IsValid (left ++ identifier.crowd number ++ right)
      (identifier.copyRange left.length index) := by
  have cut : left ++ identifier.crowd number ++ right =
      (left ++ (List.replicate index (' ' :: identifier.chars)).flatten ++ [' ']) ++
        identifier.chars ++ (identifier.crowd (number - index - 1) ++ right) := by
    rw [crowd_eq inside]
    simp only [List.append_assoc]
  have place : identifier.copyRange left.length index =
      ⟨(left ++ (List.replicate index (' ' :: identifier.chars)).flatten ++ [' ']).length,
        (left ++ (List.replicate index (' ' :: identifier.chars)).flatten ++ [' ']).length +
          identifier.chars.length⟩ := by
    simp only [copyRange, List.length_append, length_flatten_copies, List.length_singleton]
  rw [cut, place, isValid_pieces_iff, head?_crowd]
  refine ⟨rfl, ?_⟩
  simp only [List.getLast?_append, List.getLast?_singleton, Option.some_or]
  decide

theorem apart_copyRange {start first second : Nat} (different : first < second) :
    (identifier.copyRange start first).Apart (identifier.copyRange start second) := by
  have later := Nat.mul_le_mul_right (identifier.chars.length + 1) (Nat.succ_le_of_lt different)
  rw [Nat.succ_mul] at later
  simp only [CharRange.Apart, copyRange]
  omega

theorem copyRange_injective (start : Nat) : Function.Injective (identifier.copyRange start) := by
  intro first second same
  have starts := congrArg CharRange.start same
  simp only [copyRange, Nat.add_right_cancel_iff, Nat.add_left_cancel_iff] at starts
  exact Nat.eq_of_mul_eq_mul_right (Nat.succ_pos _) starts

/-- The copies of a crowd do not overlap, so all of them count. -/
theorem le_count_crowd (identifier : Identifier) (number : Nat) (left right : List Char) :
    number ≤ identifier.count (left ++ identifier.crowd number ++ right) := by
  have packing : identifier.IsPacking (left ++ identifier.crowd number ++ right)
      (identifier.copyRange left.length '' Set.Iio number) := by
    constructor
    · rintro _ ⟨index, inside, rfl⟩
      exact isValid_copyRange (Set.mem_Iio.mp inside)
    · rintro _ ⟨first, -, rfl⟩ _ ⟨second, -, rfl⟩ different
      rcases Nat.lt_or_gt_of_ne (fun same => different (congrArg _ same)) with before | behind
      · exact apart_copyRange before
      · exact (apart_copyRange behind).symm
  have members : (identifier.copyRange left.length '' Set.Iio number).encard = number := by
    rw [(copyRange_injective left.length).encard_image, ← Finset.coe_range,
      Set.encard_coe_eq_coe_finsetCard, Finset.card_range]
  exact_mod_cast (count_isGreatest identifier _).2 ⟨_, packing, members⟩

/-- A crowd in the place of an occurrence counts as a whole. -/
theorem le_count_replaceAll_crowd (occurs : 0 < identifier.count text) (number : Nat) :
    number ≤ identifier.count (identifier.replaceAll text (identifier.crowd number)) := by
  rw [count_eq_countP_pieces, List.countP_pos_iff] at occurs
  obtain ⟨piece, member, isTaken⟩ := occurs
  obtain ⟨before, behind, split⟩ := List.append_of_mem member
  have placed : piece.replaced (identifier.crowd number) = identifier.crowd number := by
    cases piece with
    | passed c => cases isTaken
    | taken found => rfl
  rw [replaceAll_eq_flatMap_pieces, split, List.flatMap_append, List.flatMap_cons, placed,
    ← List.append_assoc]
  exact le_count_crowd identifier number _ _

end SqlColumns.Identifier
