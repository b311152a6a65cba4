import SqlColumns.Identifier.Basic
import SqlColumns.Text.Utf8

/-!
# Occurrences of an identifier

A text is walked once from left to right. Wherever the identifier matches and stands alone, an
occurrence is cut out and the walk goes on behind it; elsewhere it goes on one character further.
Counts, byte ranges and replacements are all read off the same cut, so they agree.
-/

set_option autoImplicit false

namespace SqlColumns

namespace Identifier

/-- The text behind the folded characters, when it starts with characters that fold to them. -/
def behind? : List Char → List Char → Option (List Char)
  | [], text => some text
  | _ :: _, [] => none
  | folded :: rest, c :: text => if Text.foldChar c = folded then behind? rest text else none

theorem length_of_behind? {folded text after : List Char}
    (found : behind? folded text = some after) :
    after.length + folded.length = text.length := by
  induction folded generalizing text with
  | nil => simp_all [behind?]
  | cons head folded ih =>
      cases text with
      | nil => simp [behind?] at found
      | cons c text =>
          simp only [behind?] at found
          split at found
          · have := ih found
            simp only [List.length_cons]
            omega
          · contradiction

theorem eq_drop_of_behind? {folded text after : List Char}
    (found : behind? folded text = some after) : after = text.drop folded.length := by
  induction folded generalizing text with
  | nil => simp_all [behind?]
  | cons head folded ih =>
      cases text with
      | nil => simp [behind?] at found
      | cons c text =>
          simp only [behind?] at found
          split at found
          · simpa using ih found
          · contradiction

/-- The text behind an occurrence at the start of `text`, when there is one and it stands alone
after the character `before`. -/
def occursAt? (folded : List Char) (before : Option Char) (text : List Char) :
    Option (List Char) :=
  match behind? folded text with
  | some after => if standsAlone before after.head? then some after else none
  | none => none

theorem length_of_occursAt? {folded text after : List Char} {before : Option Char}
    (found : occursAt? folded before text = some after) :
    after.length + folded.length = text.length := by
  simp only [occursAt?] at found
  split at found
  · rename_i rest matched
    split at found
    · cases found
      exact length_of_behind? matched
    · contradiction
  · contradiction

theorem eq_drop_of_occursAt? {folded text after : List Char} {before : Option Char}
    (found : occursAt? folded before text = some after) : after = text.drop folded.length := by
  simp only [occursAt?] at found
  split at found
  · rename_i rest matched
    split at found
    · cases found
      exact eq_drop_of_behind? matched
    · contradiction
  · contradiction

end Identifier

/-- An occurrence and the text between it and the occurrence before it. -/
structure Occurrence where
  gap : List Char
  found : List Char
  deriving DecidableEq, Repr

/-- A text cut at the occurrences of an identifier, and what follows the last of them. -/
structure Cut where
  occurrences : List Occurrence
  tail : List Char
  deriving DecidableEq, Repr

namespace Cut

def text (cut : Cut) : List Char :=
  cut.occurrences.flatMap (fun one => one.gap ++ one.found) ++ cut.tail

def replace (cut : Cut) (replacement : List Char) : List Char :=
  cut.occurrences.flatMap (fun one => one.gap ++ replacement) ++ cut.tail

/-- The byte ranges of occurrences in a row, the gap of the first starting at `start`. -/
def rangesFrom (start : Nat) : List Occurrence → List (Nat × Nat)
  | [] => []
  | one :: rest =>
      let low := start + Text.byteLength one.gap
      let high := low + Text.byteLength one.found
      (low, high) :: rangesFrom high rest

/-- Where the occurrences start and end, in bytes. -/
def ranges (cut : Cut) : List (Nat × Nat) :=
  rangesFrom 0 cut.occurrences

end Cut

namespace Identifier

/-- Cuts the text behind `before`. The gap since the last occurrence is `gap`, the cut so far
`done`, both last first. -/
def cutFrom (folded : List Char) (nonempty : folded ≠ []) (before : Option Char)
    (gap : List Char) (done : List Occurrence) (text : List Char) : Cut :=
  match text with
  | [] => ⟨done.reverse, gap.reverse⟩
  | c :: rest =>
      match step : occursAt? folded before (c :: rest) with
      | some after =>
          have shorter : after.length < (c :: rest).length := by
            have := length_of_occursAt? step
            have := List.length_pos_iff.mpr nonempty
            omega
          let found := (c :: rest).take folded.length
          cutFrom folded nonempty found.getLast? [] (⟨gap.reverse, found⟩ :: done) after
      | none => cutFrom folded nonempty (some c) (c :: gap) done rest
termination_by text.length
decreasing_by
  · exact shorter
  · exact Nat.lt_succ_self _

theorem text_cutFrom {folded : List Char} {nonempty : folded ≠ []} {before : Option Char}
    {gap : List Char} {done : List Occurrence} {text : List Char} :
    (cutFrom folded nonempty before gap done text).text =
      done.reverse.flatMap (fun one => one.gap ++ one.found) ++ gap.reverse ++ text := by
  fun_induction cutFrom folded nonempty before gap done text with
  | case1 => simp [Cut.text]
  | case2 before gap done c rest after step shorter found ih =>
      simp only [List.unattach_reverse, List.unattach_attach] at ih
      rw [ih, eq_drop_of_occursAt? step]
      simp only [found, List.reverse_cons, List.flatMap_append, List.flatMap_cons,
        List.flatMap_nil, List.append_nil, List.reverse_nil, List.append_assoc]
      rw [List.take_append_drop]
  | case3 => simp_all

def cut (identifier : Identifier) (text : List Char) : Cut :=
  cutFrom (identifier.chars.map Text.foldChar) (by simpa using identifier.nonempty) none [] []
    text

theorem text_cut (identifier : Identifier) (text : List Char) :
    (identifier.cut text).text = text := by
  simp [cut, text_cutFrom]

def count (identifier : Identifier) (text : List Char) : Nat :=
  (identifier.cut text).occurrences.length

/-- Where the occurrences start and end, in bytes. -/
def ranges (identifier : Identifier) (text : List Char) : List (Nat × Nat) :=
  (identifier.cut text).ranges

/-- The text with every occurrence replaced; nothing when there is none to replace. -/
def replaceAll? (identifier : Identifier) (text replacement : List Char) : Option (List Char) :=
  let cut := identifier.cut text
  if cut.occurrences.isEmpty then none else some (cut.replace replacement)

/-- The text with every occurrence replaced by `replacement`, taken literally. -/
def replaceAll (identifier : Identifier) (text replacement : List Char) : List Char :=
  (identifier.replaceAll? text replacement).getD text

end Identifier

/-- A text on one line: a space for every line feed; nothing when it has none. -/
def flattenLines? (text : List Char) : Option (List Char) :=
  if text.contains '\n' then some (text.map fun c => if c = '\n' then ' ' else c) else none

def flattenLines (text : List Char) : List Char :=
  (flattenLines? text).getD text

end SqlColumns
