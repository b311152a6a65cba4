import SqlColumns.Proofs.Identifier.Greedy
import SqlColumns.Proofs.Identifier.Lowered

/-!
# Occurrences in lower case

An identifier is found in a text and its lower-case form in the lower-case form of the text on one
line. Both find the same occurrences unless something in the identifier or the text disturbs this: a
line feed, a character that folding and lower-casing take for different ones, or a dotted capital I
beside the two characters that stand for it in lower case.
-/

set_option autoImplicit false

namespace SqlColumns.Identifier

open Text

/-!
## Greedy selections in two texts
-/

/-- Where valid ranges correspond in order, so do greedy selections. -/
theorem IsGreedy.transport {identifier other : Identifier} {text shown : List Char}
    {move : Nat → Nat} (increasing : ∀ {left right}, left < right → move left < move right)
    (forth : ∀ range, identifier.IsValid text range →
      other.IsValid shown ⟨move range.start, move range.stop⟩)
    (back : ∀ range, other.IsValid shown range →
      ∃ origin, identifier.IsValid text origin ∧ range = ⟨move origin.start, move origin.stop⟩)
    {least : Nat} {selection : List CharRange}
    (greedy : identifier.IsGreedy text least selection) :
    other.IsGreedy shown (move least)
      (selection.map fun range => ⟨move range.start, move range.stop⟩) := by
  have ordered : ∀ {left right}, left ≤ right → move left ≤ move right := by
    intro left right below
    rcases Nat.lt_or_eq_of_le below with less | rfl
    · exact Nat.le_of_lt (increasing less)
    · exact Nat.le_refl _
  induction greedy with
  | @stop least none =>
      refine .stop fun range valid => ?_
      obtain ⟨origin, found, rfl⟩ := back range valid
      exact increasing (none origin found)
  | @next least range rest first _ ih =>
      refine .next ⟨forth range first.valid, ordered first.reached, fun one valid reached => ?_⟩ ih
      obtain ⟨origin, found, rfl⟩ := back one valid
      refine ordered (first.first origin found (Nat.not_lt.mp fun early => ?_))
      exact absurd (increasing early) (Nat.not_lt.mpr reached)

/-- Where the same ranges are valid, the same ranges are found. -/
theorem spans_congr {identifier other : Identifier} {text shown : List Char}
    (same : ∀ range, other.IsValid shown range ↔ identifier.IsValid text range) :
    other.spans shown = identifier.spans text := by
  have greedy : other.IsGreedy shown 0 ((identifier.spans text).map id) :=
    (isGreedy_spans identifier text).transport (fun less => less)
      (fun range valid => (same range).mpr valid)
      (fun range valid => ⟨range, (same range).mp valid, rfl⟩)
  rw [List.map_id] at greedy
  exact (isGreedy_spans other shown).unique greedy

/-!
## Disturbances
-/

def HasDotted (text : List Char) : Prop :=
  ∃ ahead c behind, text = ahead ++ c :: '\u0307' :: behind ∧ (c = 'i' ∨ c = 'I')

def EndsInI (text : List Char) : Prop :=
  ∃ ahead c, text = ahead ++ [c] ∧ (c = 'i' ∨ c = 'I')

/-- Nothing makes an identifier stand for something else in a text when both are put into lower case
and the text on one line. -/
structure Undisturbed (spelling text : List Char) : Prop where
  lines : '\n' ∈ text → ' ' ∉ spelling ∧ '\n' ∉ spelling
  split : (∀ c ∈ spelling, ¬ IsSplit c) ∨ ∀ c ∈ text, ¬ IsSplit c
  dotted : '\u0130' ∈ text → ¬ HasDotted spelling ∧ ¬ EndsInI spelling
  apart : '\u0130' ∈ spelling → ¬ HasDotted text

theorem HasDotted.append_left {text : List Char} (dotted : HasDotted text) (more : List Char) :
    HasDotted (more ++ text) := by
  obtain ⟨ahead, c, behind, rfl, letter⟩ := dotted
  exact ⟨more ++ ahead, c, behind, by simp, letter⟩

theorem HasDotted.append_right {text : List Char} (dotted : HasDotted text) (more : List Char) :
    HasDotted (text ++ more) := by
  obtain ⟨ahead, c, behind, rfl, letter⟩ := dotted
  exact ⟨ahead, c, behind ++ more, by simp, letter⟩

theorem EndsInI.append_left {text : List Char} (ends : EndsInI text) (more : List Char) :
    EndsInI (more ++ text) := by
  obtain ⟨ahead, c, rfl, letter⟩ := ends
  exact ⟨more ++ ahead, c, by simp, letter⟩

theorem Undisturbed.part {spelling before text ahead behind : List Char}
    (undisturbed : Undisturbed (before ++ spelling) (ahead ++ text ++ behind)) :
    Undisturbed spelling text where
  lines feed := by
    obtain ⟨space, line⟩ := undisturbed.lines (by simp [feed])
    exact ⟨fun member => space (List.mem_append_right _ member),
      fun member => line (List.mem_append_right _ member)⟩
  split := by
    rcases undisturbed.split with spelled | written
    · exact .inl fun c member => spelled c (List.mem_append_right _ member)
    · exact .inr fun c member => written c (by simp [member])
  dotted member := by
    obtain ⟨dotted, ends⟩ := undisturbed.dotted (by simp [member])
    exact ⟨fun inside => dotted (inside.append_left before),
      fun inside => ends (inside.append_left before)⟩
  apart member dotted :=
    undisturbed.apart (List.mem_append_right _ member)
      ((dotted.append_left ahead).append_right behind)

/-!
## Matches in two texts
-/

theorem alike_cons_iff {c d : Char} {text spelling : List Char} :
    Alike (c :: text) (d :: spelling) ↔ foldChar c = foldChar d ∧ Alike text spelling := by
  simp only [Alike, List.map_cons, List.cons.injEq]

namespace Lowered

theorem folds_cons (fold : Char → Char) (c : Char) (text : List Char) :
    folds fold (c :: text) =
      (if c = '\u0130' then ['i', '\u0307'] else [fold c]) ++ folds fold text := by
  simp [folds]

theorem folds_append (fold : Char → Char) (ahead behind : List Char) :
    folds fold (ahead ++ behind) = folds fold ahead ++ folds fold behind := by
  simp [folds]

theorem folds_eq_nil_iff {fold : Char → Char} {text : List Char} :
    folds fold text = [] ↔ text = [] := by
  cases text with
  | nil => simp [folds]
  | cons c text =>
      rw [folds_cons]
      split <;> simp

theorem folds_eq_of_alike {text spelling : List Char} (alike : Alike text spelling)
    (lines : '\n' ∈ text → '\n' ∉ spelling) :
    folds foldPrepared text = folds foldLowered spelling := by
  induction text generalizing spelling with
  | nil =>
      obtain rfl : spelling = [] := List.length_eq_zero_iff.mp alike.length_eq.symm
      simp only [folds, List.flatMap_nil]
  | cons c text ih =>
      cases spelling with
      | nil => cases alike.length_eq
      | cons d spelling =>
          obtain ⟨same, rest⟩ := alike_cons_iff.mp alike
          have tail := ih rest fun feed line =>
            lines (List.mem_cons_of_mem _ feed) (List.mem_cons_of_mem _ line)
          have dot : c = '\u0130' ↔ d = '\u0130' := by
            constructor
            · rintro rfl
              exact eq_of_foldChar_eq (by decide) (same.symm.trans (by decide))
            · rintro rfl
              exact eq_of_foldChar_eq (by decide) (same.trans (by decide))
          have single : c ≠ '\n' := by
            rintro rfl
            obtain rfl : d = '\n' :=
              eq_of_foldChar_eq (by decide) (same.symm.trans (by decide))
            exact lines List.mem_cons_self List.mem_cons_self
          have folded : foldPrepared c = foldLowered d := by
            rw [foldPrepared, flatChar, if_neg single]
            exact foldLowered_eq_of_foldChar_eq same
          simp only [folds_cons, tail, folded, dot]

theorem foldPrepared_of_ne {c : Char} (single : c ≠ '\n') : foldPrepared c = foldLowered c := by
  rw [foldPrepared, flatChar, if_neg single]

theorem foldPrepared_lineFeed : foldPrepared '\n' = ' ' := by
  decide

theorem eq_of_foldPrepared_eq_letterI {c : Char} (result : foldPrepared c = 'i') :
    c = 'i' ∨ c = 'I' := by
  by_cases single : c = '\n'
  · rw [single, foldPrepared_lineFeed] at result
    cases result
  · exact eq_of_foldLowered_eq_letterI ((foldPrepared_of_ne single).symm.trans result)

theorem eq_of_foldPrepared_eq_dot (c : Char) (result : foldPrepared c = '\u0307') :
    c = '\u0307' := by
  by_cases single : c = '\n'
  · rw [single, foldPrepared_lineFeed] at result
    cases result
  · exact eq_of_foldLowered_eq (by decide) ((foldPrepared_of_ne single).symm.trans result)

/-- The two characters that stand for a dotted capital I stand for themselves otherwise. -/
theorem hasDotted_of_folds {fold : Char → Char} {c : Char} {text rest : List Char}
    (letter : fold c = 'i' → c = 'i' ∨ c = 'I') (dot : ∀ d, fold d = '\u0307' → d = '\u0307')
    (same : fold c :: folds fold text = 'i' :: '\u0307' :: rest) : HasDotted (c :: text) := by
  obtain ⟨first, others⟩ := List.cons.inj same
  cases text with
  | nil => cases others
  | cons d text =>
      rw [folds_cons] at others
      by_cases dotted : d = '\u0130'
      · rw [if_pos dotted] at others
        cases (List.cons.inj others).1
      · rw [if_neg dotted] at others
        obtain rfl := dot d (List.cons.inj others).1
        exact ⟨[], c, text, rfl, letter first⟩

theorem endsInI_of_folds {spelling ahead : List Char}
    (same : folds foldLowered spelling = ahead ++ ['i']) : EndsInI spelling := by
  rcases List.eq_nil_or_concat spelling with rfl | ⟨front, c, rfl⟩
  · simp [folds] at same
  · rw [List.concat_eq_append] at same ⊢
    rw [folds_append, folds_cons] at same
    have last := congrArg List.getLast? same
    by_cases dotted : c = '\u0130'
    · simp [dotted, folds] at last
    · simp only [if_neg dotted, folds, List.flatMap_nil, List.append_nil, List.getLast?_append,
        List.getLast?_singleton, Option.some_or, Option.some.injEq] at last
      exact ⟨front, c, rfl, eq_of_foldLowered_eq_letterI last⟩

/-- Where nothing disturbs it, a match in lower case is one already before. -/
theorem alike_of_folds_eq {text spelling : List Char} (undisturbed : Undisturbed spelling text)
    (same : folds foldPrepared text = folds foldLowered spelling) : Alike text spelling := by
  induction text generalizing spelling with
  | nil =>
      obtain rfl : spelling = [] := folds_eq_nil_iff.mp same.symm
      rfl
  | cons c text ih =>
      cases spelling with
      | nil => cases folds_eq_nil_iff.mp same
      | cons d spelling =>
          have part : Undisturbed spelling text := by
            have whole : Undisturbed ([d] ++ spelling) ([c] ++ text ++ []) := by
              simpa using undisturbed
            exact whole.part
          rw [folds_cons, folds_cons] at same
          by_cases dottedText : c = '\u0130'
          · by_cases dottedSpelling : d = '\u0130'
            · rw [if_pos dottedText, if_pos dottedSpelling] at same
              have rest := ih part (List.append_cancel_left same)
              exact alike_cons_iff.mpr ⟨by rw [dottedText, dottedSpelling], rest⟩
            · -- The identifier would spell out the dotted capital I of the text.
              rw [if_pos dottedText, if_neg dottedSpelling] at same
              refine absurd ?_ (undisturbed.dotted (by simp [dottedText])).1
              exact hasDotted_of_folds eq_of_foldLowered_eq_letterI
                (fun _ => eq_of_foldLowered_eq (by decide)) same.symm
          · by_cases dottedSpelling : d = '\u0130'
            · -- The text would spell out the dotted capital I of the identifier.
              rw [if_neg dottedText, if_pos dottedSpelling] at same
              refine absurd ?_ (undisturbed.apart (by simp [dottedSpelling]))
              exact hasDotted_of_folds eq_of_foldPrepared_eq_letterI eq_of_foldPrepared_eq_dot same
            · rw [if_neg dottedText, if_neg dottedSpelling] at same
              obtain ⟨first, rest⟩ := List.cons.inj same
              refine alike_cons_iff.mpr ⟨?_, ih part rest⟩
              by_cases single : c = '\n'
              · subst single
                rw [foldPrepared_lineFeed] at first
                obtain rfl := eq_of_foldLowered_eq (by decide) first.symm
                exact absurd List.mem_cons_self (undisturbed.lines List.mem_cons_self).1
              · rw [foldPrepared_of_ne single] at first
                refine foldChar_eq_of_foldLowered_eq ?_ first
                rcases undisturbed.split with spelled | written
                · exact .inr (spelled d List.mem_cons_self)
                · exact .inl (written c List.mem_cons_self)

end Lowered

/-!
## The same occurrences
-/

def placeShown (text : List Char) (index : Nat) : Nat :=
  index + (text.take index).count '\u0130'

theorem placeShown_lt (text : List Char) {left right : Nat} (less : left < right) :
    placeShown text left < placeShown text right := by
  have sub : (text.take left).Sublist (text.take right) :=
    (List.take_prefix_take_left (Nat.le_of_lt less)).sublist
  exact Nat.add_lt_add_of_lt_of_le less (sub.count_le _)

theorem placeShown_append_left {fold : Char → Char} {ahead shownAhead : List Char}
    (lowered : Lowered fold ahead shownAhead) (behind : List Char) :
    placeShown (ahead ++ behind) ahead.length = shownAhead.length := by
  rw [placeShown, List.take_left, lowered.length_eq]

variable {identifier loweredIdentifier : Identifier} {text shown : List Char}

theorem isValid_shown (spelled : Lowered foldLowered identifier.chars loweredIdentifier.chars)
    (lowered : Lowered foldPrepared text shown) (undisturbed : Undisturbed identifier.chars text)
    {range : CharRange} (valid : identifier.IsValid text range) :
    loweredIdentifier.IsValid shown
      ⟨placeShown text range.start, placeShown text range.stop⟩ := by
  obtain ⟨ahead, found, behind, rfl, rfl⟩ := valid.pieces
  obtain ⟨alike, alone⟩ := isValid_pieces_iff.mp valid
  obtain ⟨front, shownBehind, rfl, left, right⟩ := lowered.of_append
  obtain ⟨shownAhead, shownFound, rfl, first, middle⟩ := left.of_append
  have start : placeShown (ahead ++ found ++ behind) ahead.length = shownAhead.length := by
    rw [List.append_assoc]
    exact placeShown_append_left first _
  have stop : placeShown (ahead ++ found ++ behind) (ahead.length + found.length) =
      shownAhead.length + shownFound.length := by
    rw [← List.length_append, ← List.length_append]
    exact placeShown_append_left left _
  simp only [start, stop]
  refine isValid_pieces_iff.mpr ⟨?_, (first.standsAlone_eq right).trans alone⟩
  rw [Alike, middle.map_foldChar, spelled.map_foldChar]
  exact Lowered.folds_eq_of_alike alike fun feed => (undisturbed.lines (by simp [feed])).2

theorem isValid_of_shown (spelled : Lowered foldLowered identifier.chars loweredIdentifier.chars)
    (lowered : Lowered foldPrepared text shown) (undisturbed : Undisturbed identifier.chars text)
    {range : CharRange} (valid : loweredIdentifier.IsValid shown range) :
    ∃ origin, identifier.IsValid text origin ∧
      range = ⟨placeShown text origin.start, placeShown text origin.stop⟩ := by
  obtain ⟨shownAhead, shownFound, shownBehind, rfl, rfl⟩ := valid.pieces
  obtain ⟨alike, alone⟩ := isValid_pieces_iff.mp valid
  rcases lowered.of_append_shown (List.append_assoc _ _ _) with
    ⟨ahead, beyond, rfl, first, rest⟩ | ⟨-, start, -, rfl, -⟩
  · rcases rest.of_append_shown rfl with
      ⟨found, behind, rfl, middle, last⟩ | ⟨dotted, start, after, rfl, rfl⟩
    · rw [← List.append_assoc] at undisturbed ⊢
      have same : Lowered.folds foldPrepared found = Lowered.folds foldLowered identifier.chars := by
        rw [← middle.map_foldChar, ← spelled.map_foldChar]
        exact alike
      have part : Undisturbed ([] ++ identifier.chars) (ahead ++ found ++ behind) := undisturbed
      have matched : Alike found identifier.chars := Lowered.alike_of_folds_eq part.part same
      refine ⟨⟨ahead.length, ahead.length + found.length⟩, ?_, ?_⟩
      · exact isValid_pieces_iff.mpr ⟨matched, (first.standsAlone_eq last).symm.trans alone⟩
      · have start := placeShown_append_left first (found ++ behind)
        have stop := placeShown_append_left (first.append middle) behind
        simp only [List.append_assoc, List.length_append] at start stop
        simp only [List.append_assoc, start, stop]
    · -- The identifier would end in the letter that a dotted capital I starts with.
      refine absurd ?_ (undisturbed.dotted (List.mem_append_right _ dotted)).2
      have letter : foldChar 'i' = 'i' := by decide
      have same : Lowered.folds foldLowered identifier.chars = start.map foldChar ++ ['i'] := by
        rw [← spelled.map_foldChar, ← alike, List.map_append, List.map_singleton, letter]
      exact Lowered.endsInI_of_folds same
  · -- The letter that a dotted capital I starts with glues to what follows it.
    have glues : gluesBefore 'i' = true := by decide
    simp [standsAlone, glues] at alone

/-- Where nothing disturbs it, an identifier is found as often in a text as its lower-case form in the
lower-case form of the text on one line. -/
theorem count_shown (spelled : Lowered foldLowered identifier.chars loweredIdentifier.chars)
    (lowered : Lowered foldPrepared text shown) (undisturbed : Undisturbed identifier.chars text) :
    loweredIdentifier.count shown = identifier.count text := by
  have greedy := (isGreedy_spans identifier text).transport (placeShown_lt text)
    (fun range valid => isValid_shown spelled lowered undisturbed valid)
    (fun range valid => isValid_of_shown spelled lowered undisturbed valid)
  have start : placeShown text 0 = 0 := by simp [placeShown]
  rw [start] at greedy
  rw [count_eq_of_isGreedy greedy, List.length_map, length_spans]

end SqlColumns.Identifier
