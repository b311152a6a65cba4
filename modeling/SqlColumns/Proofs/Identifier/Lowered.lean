import SqlColumns.Proofs.Text.Case
import SqlColumns.Scan.Counts

/-!
# Texts in lower case

How the characters of a text stand in its lower-case form: one for one, with the neighbours gluing as
before, but for the dotted capital I, in whose place two characters stand. A text on one line is seen
in the same way, with spaces for line feeds.
-/

set_option autoImplicit false

namespace SqlColumns.Identifier

open Text

/-- Each character of a text beside what stands for it; `fold` is how the latter folds. -/
inductive Lowered (fold : Char → Char) : List Char → List Char → Prop where
  | nil : Lowered fold [] []
  | dotted {text shown : List Char} : Lowered fold text shown →
      Lowered fold ('\u0130' :: text) ('i' :: '\u0307' :: shown)
  | plain {c l : Char} {text shown : List Char} : c ≠ '\u0130' → foldChar l = fold c →
      gluesBefore l = gluesBefore c → gluesAfter l = gluesAfter c → Lowered fold text shown →
      Lowered fold (c :: text) (l :: shown)

namespace Lowered

variable {fold : Char → Char} {text ahead behind shown shownAhead shownBehind : List Char}

theorem append (first : Lowered fold ahead shownAhead) (second : Lowered fold behind shownBehind) :
    Lowered fold (ahead ++ behind) (shownAhead ++ shownBehind) := by
  induction first with
  | nil => exact second
  | dotted _ ih => exact .dotted ih
  | plain apart folded before after _ ih => exact .plain apart folded before after ih

theorem of_append (lowered : Lowered fold (ahead ++ behind) shown) :
    ∃ shownAhead shownBehind, shown = shownAhead ++ shownBehind ∧
      Lowered fold ahead shownAhead ∧ Lowered fold behind shownBehind := by
  induction ahead generalizing shown with
  | nil => exact ⟨[], shown, rfl, .nil, lowered⟩
  | cons c ahead ih =>
      cases lowered with
      | dotted rest =>
          obtain ⟨first, second, rfl, left, right⟩ := ih rest
          exact ⟨_ :: _ :: first, second, rfl, .dotted left, right⟩
      | plain apart folded before after rest =>
          obtain ⟨first, second, rfl, left, right⟩ := ih rest
          exact ⟨_ :: first, second, rfl, .plain apart folded before after left, right⟩

/-- A place in the lower-case form is one in the text, or lies behind the `i` of a dotted capital
I. -/
theorem of_append_shown (lowered : Lowered fold text shown) (split : shown = shownAhead ++ shownBehind) :
    (∃ ahead behind, text = ahead ++ behind ∧ Lowered fold ahead shownAhead ∧
      Lowered fold behind shownBehind) ∨
    ('\u0130' ∈ text ∧ ∃ start rest, shownAhead = start ++ ['i'] ∧ shownBehind = '\u0307' :: rest) := by
  induction lowered generalizing shownAhead with
  | nil =>
      obtain ⟨rfl, rfl⟩ := List.append_eq_nil_iff.mp split.symm
      exact .inl ⟨[], [], rfl, .nil, .nil⟩
  | @dotted text shown lowered ih =>
      match shownAhead with
      | [] =>
          obtain rfl : _ = shownBehind := split
          exact .inl ⟨[], _, rfl, .nil, .dotted lowered⟩
      | [c] =>
          obtain ⟨rfl, rfl⟩ := List.cons.inj split
          exact .inr ⟨List.mem_cons_self, [], _, rfl, rfl⟩
      | c :: d :: others =>
          obtain ⟨rfl, next⟩ := List.cons.inj split
          obtain ⟨rfl, tail⟩ := List.cons.inj next
          rcases ih tail with ⟨ahead, behind, rfl, left, right⟩ | ⟨member, start, rest, rfl, after⟩
          · exact .inl ⟨_ :: ahead, behind, rfl, .dotted left, right⟩
          · exact .inr ⟨List.mem_cons_of_mem _ member, _ :: _ :: start, rest, rfl, after⟩
  | @plain c l text shown apart folded before after lowered ih =>
      match shownAhead with
      | [] =>
          obtain rfl : _ = shownBehind := split
          exact .inl ⟨[], _, rfl, .nil, .plain apart folded before after lowered⟩
      | d :: others =>
          obtain ⟨rfl, tail⟩ := List.cons.inj split
          rcases ih tail with ⟨ahead, behind, rfl, left, right⟩ | ⟨member, start, rest, rfl, last⟩
          · exact .inl ⟨_ :: ahead, behind, rfl, .plain apart folded before after left, right⟩
          · exact .inr ⟨List.mem_cons_of_mem _ member, _ :: start, rest, rfl, last⟩

theorem eq_nil_iff (lowered : Lowered fold text shown) : shown = [] ↔ text = [] := by
  cases lowered <;> simp

theorem length_eq (lowered : Lowered fold text shown) :
    shown.length = text.length + text.count '\u0130' := by
  induction lowered with
  | nil => rfl
  | dotted _ ih =>
      rw [List.length_cons, List.length_cons, ih, List.length_cons, List.count_cons_self]
      omega
  | plain apart _ _ _ _ ih =>
      rw [List.length_cons, ih, List.length_cons, List.count_cons_of_ne apart]
      omega

theorem gluesBefore_getLast? (lowered : Lowered fold text shown) :
    shown.getLast?.any gluesBefore = text.getLast?.any gluesBefore := by
  have last : ∀ {c : Char} {rest : List Char}, rest ≠ [] → (c :: rest).getLast? = rest.getLast? := by
    intro c rest some
    cases rest with
    | nil => exact absurd rfl some
    | cons d rest => exact List.getLast?_cons_cons
  induction lowered with
  | nil => rfl
  | @dotted text shown lowered ih =>
      by_cases empty : text = []
      · obtain rfl := lowered.eq_nil_iff.mpr empty
        subst empty
        decide
      · have more : shown ≠ [] := fun none => empty (lowered.eq_nil_iff.mp none)
        rw [last (List.cons_ne_nil _ _), last more, last empty, ih]
  | @plain c l text shown _ _ before _ lowered ih =>
      by_cases empty : text = []
      · obtain rfl := lowered.eq_nil_iff.mpr empty
        subst empty
        exact before
      · have more : shown ≠ [] := fun none => empty (lowered.eq_nil_iff.mp none)
        rw [last more, last empty, ih]

theorem gluesAfter_head? (lowered : Lowered fold text shown) :
    shown.head?.any gluesAfter = text.head?.any gluesAfter := by
  cases lowered with
  | nil => rfl
  | dotted _ =>
      simp only [List.head?_cons]
      decide
  | plain _ _ _ after _ => exact after

theorem standsAlone_eq (left : Lowered fold ahead shownAhead)
    (right : Lowered fold behind shownBehind) :
    standsAlone shownAhead.getLast? shownBehind.head? =
      standsAlone ahead.getLast? behind.head? := by
  rw [standsAlone, standsAlone, left.gluesBefore_getLast?, right.gluesAfter_head?]

def folds (fold : Char → Char) (text : List Char) : List Char :=
  text.flatMap fun c => if c = '\u0130' then ['i', '\u0307'] else [fold c]

theorem map_foldChar (lowered : Lowered fold text shown) : shown.map foldChar = folds fold text := by
  induction lowered with
  | nil => rfl
  | dotted _ ih =>
      have i : foldChar 'i' = 'i' := by decide
      have dot : foldChar '\u0307' = '\u0307' := by decide
      simp [folds, i, dot, ih]
  | plain apart folded _ _ _ ih => simp [folds, apart, folded, ih]

end Lowered

/-!
## The lower-case form of a text
-/

theorem lowerChar_of_ne {c : Char} (apart : c ≠ '\u0130') : lowerChar c = [lowerSimple c] := by
  rw [lowerChar, if_neg apart]

theorem lowerSimple_ne_dotted {c : Char} (apart : c ≠ '\u0130') : lowerSimple c ≠ '\u0130' :=
  fun dotted => apart (eq_of_lowerSimple_eq (by decide) dotted)

theorem Lowered.lowerSimple {c : Char} (apart : c ≠ '\u0130') {text shown : List Char}
    (rest : Lowered foldLowered text shown) :
    Lowered foldLowered (c :: text) (lowerSimple c :: shown) := by
  have again : lowerChar (Text.lowerSimple c) = [Text.lowerSimple c] := by
    rw [lowerChar_of_ne (lowerSimple_ne_dotted apart), lowerSimple_lowerSimple]
  refine .plain apart rfl ?_ ?_ rest
  · rw [gluesBefore, gluesBefore, again, lowerChar_of_ne apart]
  · rw [gluesAfter, gluesAfter, again, lowerChar_of_ne apart]

theorem Lowered.finalSigma {text shown : List Char} (rest : Lowered foldLowered text shown) :
    Lowered foldLowered ('Σ' :: text) ('ς' :: shown) :=
  .plain (by decide) (by decide) (by decide) (by decide) rest

theorem lowered_lowerAfter (before done text : List Char) :
    ∃ shown, lowerAfter before done text = done.reverse ++ shown ∧
      Lowered foldLowered text shown := by
  induction text generalizing before done with
  | nil => exact ⟨[], by simp [lowerAfter], .nil⟩
  | cons c text ih =>
      by_cases sigma : c = 'Σ'
      · subst sigma
        have small : Text.lowerSimple 'Σ' = 'σ' := by decide
        cases final : casedAhead before && !casedAhead text with
        | true =>
            obtain ⟨shown, same, lowered⟩ := ih ('Σ' :: before) ('ς' :: done)
            refine ⟨'ς' :: shown, ?_, lowered.finalSigma⟩
            simp [lowerAfter, final, same]
        | false =>
            obtain ⟨shown, same, lowered⟩ := ih ('Σ' :: before) ('σ' :: done)
            refine ⟨'σ' :: shown, ?_, small ▸ lowered.lowerSimple (by decide)⟩
            simp [lowerAfter, final, same]
      · obtain ⟨shown, same, lowered⟩ := ih (c :: before) ((lowerChar c).reverse ++ done)
        refine ⟨lowerChar c ++ shown, ?_, ?_⟩
        · rw [lowerAfter, if_neg sigma, same]
          simp
        · by_cases dotted : c = '\u0130'
          · subst dotted
            exact .dotted lowered
          · rw [lowerChar_of_ne dotted]
            exact lowered.lowerSimple dotted

theorem lowered_lower (text : List Char) : Lowered foldLowered text (lower text) := by
  obtain ⟨shown, same, lowered⟩ := lowered_lowerAfter [] [] text
  rw [lower, same]
  exact lowered

/-!
## The text that is counted in
-/

def flatChar (c : Char) : Char :=
  if c = '\n' then ' ' else c

def foldPrepared (c : Char) : Char :=
  foldLowered (flatChar c)

theorem map_flatChar {text : List Char} (single : '\n' ∉ text) : text.map flatChar = text := by
  have same : ∀ c ∈ text, flatChar c = c := by
    intro c member
    refine if_neg ?_
    rintro rfl
    exact single member
  rw [List.map_congr_left same, List.map_id']

theorem flattenLines_eq_map (text : List Char) : flattenLines text = text.map flatChar := by
  unfold flattenLines flattenLines?
  split
  · rfl
  · next single =>
      rw [Option.getD_none, map_flatChar (by simpa using single)]

theorem Lowered.flat {text shown : List Char} (lowered : Lowered foldLowered text shown) :
    Lowered foldPrepared text (shown.map flatChar) := by
  induction lowered with
  | nil => exact .nil
  | dotted _ ih => exact .dotted ih
  | @plain c l text shown apart folded before after _ ih =>
      have feed : l = '\n' ↔ c = '\n' := by
        constructor
        · rintro rfl
          exact eq_of_foldLowered_eq (by decide) (folded.symm.trans (by decide))
        · rintro rfl
          exact eq_of_foldChar_eq (by decide) (folded.trans (by decide))
      by_cases single : c = '\n'
      · obtain rfl := feed.mpr single
        subst single
        exact .plain (by decide) (by decide) (by decide) (by decide) ih
      · have flatL : flatChar l = l := if_neg ((not_congr feed).mpr single)
        have flatC : flatChar c = c := if_neg single
        rw [List.map_cons, flatL]
        exact .plain apart (by rw [foldPrepared, flatC, folded]) before after ih

theorem lowered_prepared (text : List Char) : Lowered foldPrepared text (Scan.prepared text) := by
  rw [Scan.prepared, flattenLines_eq_map]
  exact (lowered_lower text).flat

end SqlColumns.Identifier
