import Mathlib
import SqlColumns.Proofs.Identifier.Pieces
import SqlColumns.Proofs.Text.Case
import SqlColumns.Proofs.Text.Split

/-!
# Separators

A character that glues to nothing and belongs to no occurrence cuts a text in two that know nothing of
each other: the walk behind it goes on as at the start of a text, and the walk before it ends as at the
end of one. Line feeds are such characters for every identifier without one, so a text may be counted
and renamed line by line.
-/

set_option autoImplicit false

namespace SqlColumns.Identifier

open Text

/-- A character that glues on neither side and matches none of an identifier. -/
structure Separates (identifier : Identifier) (separator : Char) : Prop where
  before : gluesBefore separator = false
  after : gluesAfter separator = false
  apart : ∀ c ∈ identifier.chars, foldChar separator ≠ foldChar c

theorem Separates.not_mem {identifier : Identifier} {separator : Char}
    (separates : identifier.Separates separator) :
    foldChar separator ∉ identifier.chars.map foldChar := by
  intro member
  obtain ⟨c, inside, same⟩ := List.mem_map.mp member
  exact separates.apart c inside same.symm

theorem separates_lineFeed {identifier : Identifier} (single : '\n' ∉ identifier.chars) :
    identifier.Separates '\n' where
  before := by decide
  after := by decide
  apart c member same := by
    have folded : foldChar '\n' = '\n' := by decide
    obtain rfl := eq_of_foldChar_eq (by decide) (same.symm.trans folded)
    exact single member

/-!
## The walk beside a separator
-/

section

variable {folded left right : List Char} {separator : Char} {before : Option Char}

theorem behind?_append_separator (apart : foldChar separator ∉ folded) :
    behind? folded (left ++ separator :: right) =
      (behind? folded left).map (· ++ separator :: right) := by
  induction folded generalizing left with
  | nil => rfl
  | cons head folded ih =>
      obtain ⟨own, others⟩ := not_or.mp fun either => apart (List.mem_cons.mpr either)
      cases left with
      | nil => simp only [List.nil_append, behind?, if_neg own, Option.map_none]
      | cons c left =>
          simp only [List.cons_append, behind?]
          split
          · exact ih others
          · rfl

theorem occursAt?_nil (nonempty : folded ≠ []) : occursAt? folded before [] = none := by
  cases folded with
  | nil => exact absurd rfl nonempty
  | cons head folded => rfl

/-- The separator is to what is before it what the end of a text is. -/
theorem standsAlone_append_separator (after : gluesAfter separator = false) :
    standsAlone before (left ++ separator :: right).head? = standsAlone before left.head? := by
  cases left with
  | nil => simp [standsAlone, after]
  | cons c left => rfl

theorem occursAt?_append_separator (apart : foldChar separator ∉ folded)
    (after : gluesAfter separator = false) :
    occursAt? folded before (left ++ separator :: right) =
      (occursAt? folded before left).map (· ++ separator :: right) := by
  simp only [occursAt?, behind?_append_separator apart]
  cases behind? folded left with
  | none => rfl
  | some rest =>
      simp only [Option.map_some, standsAlone_append_separator after]
      split <;> rfl

end

variable {identifier : Identifier} {separator : Char}

/-- What does not glue is to what is behind it what the start of a text is. -/
theorem pieces_behind_separator {c : Char} (apart : gluesBefore c = false) (text : List Char) :
    identifier.pieces (some c) text = identifier.pieces none text := by
  have same : ∀ folded, occursAt? folded (some c) text = occursAt? folded none text := by
    intro folded
    simp [occursAt?, standsAlone, apart]
  cases text with
  | nil => rw [pieces, pieces, piecesFrom_nil, piecesFrom_nil]
  | cons d rest =>
      cases occurs : occursAt? (identifier.chars.map foldChar) none (d :: rest) with
      | none =>
          rw [pieces, pieces, piecesFrom_of_none occurs, piecesFrom_of_none ((same _).trans occurs)]
      | some after =>
          rw [pieces, pieces, piecesFrom_of_some occurs, piecesFrom_of_some ((same _).trans occurs)]

/-- The walk through a text with a separator is the walk before it, and a new one behind it. -/
theorem Separates.pieces_append (separates : identifier.Separates separator)
    (before : Option Char) (left right : List Char) :
    identifier.pieces before (left ++ separator :: right) =
      identifier.pieces before left ++ .passed separator :: identifier.pieces none right := by
  have occurs : ∀ (before : Option Char) (text : List Char),
      occursAt? (identifier.chars.map foldChar) before (text ++ separator :: right) =
        (occursAt? (identifier.chars.map foldChar) before text).map (· ++ separator :: right) :=
    fun _ _ => occursAt?_append_separator separates.not_mem separates.after
  simp only [pieces]
  fun_induction piecesFrom (identifier.chars.map foldChar) identifier.folded_ne_nil before left with
  | case1 before =>
      have none := occurs before []
      rw [occursAt?_nil identifier.folded_ne_nil, List.nil_append, Option.map_none] at none
      rw [List.nil_append, List.nil_append, piecesFrom_of_none none]
      exact congrArg _ (pieces_behind_separator separates.before right)
  | case2 before c rest after step shorter found ih =>
      have whole := occurs before (c :: rest)
      rw [step, Option.map_some] at whole
      have length := length_of_occursAt? step
      have within : (identifier.chars.map foldChar).length ≤ (c :: rest).length := by omega
      rw [piecesFrom_of_some whole, List.take_append_of_le_length within, ih, List.cons_append]
  | case3 before c rest step ih =>
      have whole := occurs before (c :: rest)
      rw [step, Option.map_none, List.cons_append] at whole
      rw [List.cons_append, piecesFrom_of_none whole, ih, List.cons_append]

/-!
## Counts and renamings beside separators
-/

theorem Separates.count_append (separates : identifier.Separates separator)
    (left right : List Char) :
    identifier.count (left ++ separator :: right) =
      identifier.count left + identifier.count right := by
  have passed : Piece.isTaken (.passed separator) ≠ true := by simp [Piece.isTaken]
  simp only [count_eq_countP_pieces, separates.pieces_append, List.countP_append,
    List.countP_cons_of_neg passed]

theorem Separates.replaceAll_append (separates : identifier.Separates separator)
    (left right replacement : List Char) :
    identifier.replaceAll (left ++ separator :: right) replacement =
      identifier.replaceAll left replacement ++
        separator :: identifier.replaceAll right replacement := by
  simp only [replaceAll_eq_flatMap_pieces, separates.pieces_append, List.flatMap_append,
    List.flatMap_cons, Piece.replaced, List.singleton_append]

theorem Separates.count_intercalate (separates : identifier.Separates separator)
    {texts : List (List Char)} (some : texts ≠ []) :
    identifier.count ([separator].intercalate texts) = (texts.map identifier.count).sum := by
  induction texts with
  | nil => exact absurd rfl some
  | cons text rest ih =>
      cases rest with
      | nil => simp
      | cons second others =>
          rw [List.intercalate_cons_cons, List.append_assoc, List.singleton_append,
            separates.count_append, ih (List.cons_ne_nil _ _)]
          rfl

theorem Separates.replaceAll_intercalate (separates : identifier.Separates separator)
    {texts : List (List Char)} (some : texts ≠ []) (replacement : List Char) :
    identifier.replaceAll ([separator].intercalate texts) replacement =
      [separator].intercalate (texts.map fun text => identifier.replaceAll text replacement) := by
  induction texts with
  | nil => exact absurd rfl some
  | cons text rest ih =>
      cases rest with
      | nil => simp
      | cons second others =>
          have behind := ih (List.cons_ne_nil _ _)
          rw [List.map_cons] at behind
          rw [List.intercalate_cons_cons, List.append_assoc, List.singleton_append,
            separates.replaceAll_append, behind, List.map_cons, List.map_cons,
            List.intercalate_cons_cons, List.append_assoc, List.singleton_append]

/-- On either side of a separator an identifier is counted and renamed apart from the other side,
and one without a line feed is counted and renamed in a text line by line. -/
theorem occurrences_apart_at_separators (identifier : Identifier) :
    (∀ separator, identifier.Separates separator → ∀ left right,
      identifier.count (left ++ separator :: right) =
          identifier.count left + identifier.count right ∧
        ∀ replacement, identifier.replaceAll (left ++ separator :: right) replacement =
          identifier.replaceAll left replacement ++
            separator :: identifier.replaceAll right replacement) ∧
    ('\n' ∉ identifier.chars → ∀ text,
      identifier.count text = ((split '\n' text).map identifier.count).sum ∧
        ∀ replacement, identifier.replaceAll text replacement =
          ['\n'].intercalate ((split '\n' text).map fun line =>
            identifier.replaceAll line replacement)) := by
  constructor
  · intro separator separates left right
    exact ⟨separates.count_append left right, separates.replaceAll_append left right⟩
  · intro single text
    have separates := separates_lineFeed single
    have whole := intercalate_split '\n' text
    constructor
    · have counted := separates.count_intercalate (split_ne_nil '\n' text)
      rwa [whole] at counted
    · intro replacement
      have renamed := separates.replaceAll_intercalate (split_ne_nil '\n' text) replacement
      rwa [whole] at renamed

def dashedPair : Identifier := ⟨"a-a".toList, by decide⟩

/-- An occurrence behind a candidate that is glued to, on both sides of a comma and in two lines. -/
theorem occurrences_apart_at_comma_and_lineFeed :
    dashedPair.Separates ',' ∧ '\n' ∉ dashedPair.chars ∧
    dashedPair.count "xa-a a-a,a-a-a".toList = 2 ∧
    dashedPair.replaceAll "xa-a a-a,a-a-a".toList "b".toList = "xa-a b,b-a".toList ∧
    dashedPair.replaceAll "A-A-\na-a".toList "b".toList = "b-\nb".toList := by
  have other : dashedPair.chars.all (fun c => foldChar ',' != foldChar c) = true := by decide
  have comma : dashedPair.Separates ',' :=
    ⟨by decide, by decide, fun c member => bne_iff_ne.mp (List.all_eq_true.mp other c member)⟩
  have single : '\n' ∉ dashedPair.chars := by decide
  obtain ⟨apart, lines⟩ := occurrences_apart_at_separators dashedPair
  obtain ⟨counted, renamed⟩ := apart ',' comma "xa-a a-a".toList "a-a-a".toList
  refine ⟨comma, single, ?_, ?_, ?_⟩
  · have left : dashedPair.count "xa-a a-a".toList = 1 := by cbv
    have right : dashedPair.count "a-a-a".toList = 1 := by cbv
    rw [left, right] at counted
    exact counted
  · have left : dashedPair.replaceAll "xa-a a-a".toList "b".toList = "xa-a b".toList := by cbv
    have right : dashedPair.replaceAll "a-a-a".toList "b".toList = "b-a".toList := by cbv
    have whole := renamed "b".toList
    rw [left, right] at whole
    exact whole
  · have first : dashedPair.replaceAll "A-A-".toList "b".toList = "b-".toList := by cbv
    have second : dashedPair.replaceAll "a-a".toList "b".toList = "b".toList := by cbv
    have cut : split '\n' "A-A-\na-a".toList = ["A-A-".toList, "a-a".toList] := by decide
    have whole := (lines single "A-A-\na-a".toList).2 "b".toList
    rw [cut, List.map_cons, List.map_cons, first, second] at whole
    exact whole

end SqlColumns.Identifier
