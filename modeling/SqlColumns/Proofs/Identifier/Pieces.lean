import SqlColumns.Proofs.Identifier.Greedy

/-!
# Pieces of a text

The walk either passes a character or takes an occurrence. Said as the list of these pieces, without
the gap and the occurrences that the walk carries along, a cut is read off piece by piece: what it
counts, and what it puts in the place of the occurrences.
-/

set_option autoImplicit false

namespace SqlColumns.Identifier

inductive Piece where
  | passed (c : Char)
  | taken (found : List Char)
  deriving DecidableEq, Repr

namespace Piece

def isTaken : Piece → Bool
  | .passed _ => false
  | .taken _ => true

def replaced (replacement : List Char) : Piece → List Char
  | .passed c => [c]
  | .taken _ => replacement

end Piece

def piecesFrom (folded : List Char) (nonempty : folded ≠ []) (before : Option Char)
    (text : List Char) : List Piece :=
  match text with
  | [] => []
  | c :: rest =>
      match step : occursAt? folded before (c :: rest) with
      | some after =>
          have shorter : after.length < (c :: rest).length := by
            have := length_of_occursAt? step
            have := List.length_pos_iff.mpr nonempty
            omega
          let found := (c :: rest).take folded.length
          .taken found :: piecesFrom folded nonempty found.getLast? after
      | none => .passed c :: piecesFrom folded nonempty (some c) rest
termination_by text.length
decreasing_by
  · exact shorter
  · exact Nat.lt_succ_self _

section

variable {folded : List Char} {nonempty : folded ≠ []} {before : Option Char}

theorem piecesFrom_nil : piecesFrom folded nonempty before [] = [] := by
  rw [piecesFrom]

theorem piecesFrom_of_none {c : Char} {rest : List Char}
    (step : occursAt? folded before (c :: rest) = none) :
    piecesFrom folded nonempty before (c :: rest) =
      .passed c :: piecesFrom folded nonempty (some c) rest := by
  rw [piecesFrom]
  split
  · next after found => simp [step] at found
  · rfl

theorem piecesFrom_of_some {text after : List Char}
    (step : occursAt? folded before text = some after) :
    piecesFrom folded nonempty before text =
      .taken (text.take folded.length) ::
        piecesFrom folded nonempty (text.take folded.length).getLast? after := by
  cases text with
  | nil =>
      have length := length_of_occursAt? step
      have long := List.length_pos_iff.mpr nonempty
      simp only [List.length_nil] at length
      omega
  | cons c rest =>
      rw [piecesFrom]
      split
      · next other found =>
          rw [step] at found
          cases found
          rfl
      · next none => simp [step] at none

end

/-- The cut that pieces make, behind a gap and the occurrences done, both last first. -/
def cutOf (gap : List Char) (done : List Occurrence) : List Piece → Cut
  | [] => ⟨done.reverse, gap.reverse⟩
  | .passed c :: pieces => cutOf (c :: gap) done pieces
  | .taken found :: pieces => cutOf [] (⟨gap.reverse, found⟩ :: done) pieces

theorem cutFrom_eq_cutOf {folded : List Char} {nonempty : folded ≠ []} {before : Option Char}
    {gap : List Char} {done : List Occurrence} {text : List Char} :
    cutFrom folded nonempty before gap done text =
      cutOf gap done (piecesFrom folded nonempty before text) := by
  fun_induction cutFrom folded nonempty before gap done text with
  | case1 => rw [piecesFrom_nil, cutOf]
  | case2 before gap done c rest after step shorter found ih =>
      simp only [List.unattach_reverse, List.unattach_attach] at ih
      rw [ih, piecesFrom_of_some step, cutOf]
  | case3 before gap done c rest step ih =>
      rw [ih, piecesFrom_of_none step, cutOf]

theorem length_occurrences_cutOf (gap : List Char) (done : List Occurrence) (pieces : List Piece) :
    (cutOf gap done pieces).occurrences.length = done.length + pieces.countP Piece.isTaken := by
  induction pieces generalizing gap done with
  | nil => simp [cutOf]
  | cons piece pieces ih =>
      cases piece with
      | passed c => simp [cutOf, ih, Piece.isTaken]
      | taken found =>
          simp only [cutOf, ih, List.length_cons, List.countP_cons, Piece.isTaken, if_true]
          omega

theorem replace_cutOf (replacement gap : List Char) (done : List Occurrence)
    (pieces : List Piece) :
    (cutOf gap done pieces).replace replacement =
      done.reverse.flatMap (fun one => one.gap ++ replacement) ++ gap.reverse ++
        pieces.flatMap (Piece.replaced replacement) := by
  induction pieces generalizing gap done with
  | nil => simp [cutOf, Cut.replace]
  | cons piece pieces ih =>
      cases piece with
      | passed c => simp [cutOf, ih, Piece.replaced]
      | taken found => simp [cutOf, ih, Piece.replaced]

theorem folded_ne_nil (identifier : Identifier) : identifier.chars.map Text.foldChar ≠ [] := by
  simpa using identifier.nonempty

def pieces (identifier : Identifier) (before : Option Char) (text : List Char) : List Piece :=
  piecesFrom (identifier.chars.map Text.foldChar) identifier.folded_ne_nil before text

theorem count_eq_countP_pieces (identifier : Identifier) (text : List Char) :
    identifier.count text = (identifier.pieces none text).countP Piece.isTaken := by
  rw [count, cut, cutFrom_eq_cutOf, length_occurrences_cutOf]
  exact Nat.zero_add _

theorem replaceAll_eq_replace_cut (identifier : Identifier) (text replacement : List Char) :
    identifier.replaceAll text replacement = (identifier.cut text).replace replacement := by
  by_cases none : identifier.count text = 0
  · -- Without an occurrence the text is handed back, which is what the cut makes of it too.
    have empty : (identifier.cut text).occurrences = [] := List.length_eq_zero_iff.mp none
    have whole := text_cut identifier text
    rw [replaceAll_of_count_eq_zero none]
    simp only [Cut.text, Cut.replace, empty, List.flatMap_nil] at whole ⊢
    exact whole.symm
  · have some : (identifier.cut text).occurrences.isEmpty = false := by
      rw [List.isEmpty_eq_false_iff]
      exact fun empty => none (List.length_eq_zero_iff.mpr empty)
    simp [replaceAll, replaceAll?, some]

theorem replaceAll_eq_flatMap_pieces (identifier : Identifier) (text replacement : List Char) :
    identifier.replaceAll text replacement =
      (identifier.pieces none text).flatMap (Piece.replaced replacement) := by
  rw [replaceAll_eq_replace_cut, cut, cutFrom_eq_cutOf, replace_cutOf]
  rfl

end SqlColumns.Identifier
