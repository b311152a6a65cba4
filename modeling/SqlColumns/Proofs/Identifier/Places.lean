import SqlColumns.Proofs.Identifier.Steady

/-!
# Places of occurrences in lower case

Without the dotted capital I, lower-casing puts one character for each character of a text, beside
which an identifier stands alone as before. The identifier is found at the same characters before and
after, though not at the same bytes. This asks for folding and lower-casing by the same version of
Unicode: a capital letter that only lower-casing knows is kept apart from its lower-case form by
folding alone.
-/

set_option autoImplicit false

namespace SqlColumns.Identifier

open Text

/-- On the characters of a text, lower-casing and folding follow the same version of Unicode: none is
one of the capital letters of `unfoldedRuns`, which lower-casing alone knows, or the lower-case form of
one. -/
def OneVersion (text : List Char) : Prop :=
  ∀ c ∈ text, ¬ IsSplit c

-- Characters are finitely many, so an instance left to be found may try them all.
instance : DecidablePred OneVersion := fun text => List.decidableBAll (¬ IsSplit ·) text

/-- The occurrences of the identifier in a text and those of its lower-case form in the text in lower
case are the same ranges of characters. -/
def FoundInPlace (identifier : Identifier) (text : List Char) : Prop :=
  ∃ selection : List CharRange,
    (∀ range ∈ selection, range.start < range.stop ∧ range.stop ≤ text.length ∧
      range.stop ≤ (lower text).length) ∧
    identifier.ranges text = selection.map (fun range => range.bytes text) ∧
    identifier.lowered.ranges (lower text) = selection.map fun range => range.bytes (lower text)

namespace Lowered

variable {fold : Char → Char} {text shown : List Char}

theorem length_of_plain (lowered : Lowered fold text shown) (plain : '\u0130' ∉ text) :
    shown.length = text.length := by
  rw [lowered.length_eq, List.count_eq_zero.mpr plain, Nat.add_zero]

theorem map_foldChar_of_plain (lowered : Lowered fold text shown) (plain : '\u0130' ∉ text) :
    shown.map foldChar = text.map fold := by
  induction lowered with
  | nil => rfl
  | dotted _ _ => exact absurd List.mem_cons_self plain
  | plain _ folded _ _ _ ih =>
      rw [List.map_cons, List.map_cons, folded, ih fun member => plain (List.mem_cons_of_mem _ member)]

end Lowered

theorem alike_iff_map_foldLowered {text spelling : List Char}
    (known : OneVersion spelling ∨ OneVersion text) :
    Alike text spelling ↔ text.map foldLowered = spelling.map foldLowered := by
  induction text generalizing spelling with
  | nil => cases spelling <;> simp [Alike]
  | cons c text ih =>
      cases spelling with
      | nil => simp [Alike]
      | cons d spelling =>
          have head : ¬ IsSplit c ∨ ¬ IsSplit d := by
            rcases known with spelled | written
            · exact .inr (spelled d List.mem_cons_self)
            · exact .inl (written c List.mem_cons_self)
          have tail : OneVersion spelling ∨ OneVersion text := by
            rcases known with spelled | written
            · exact .inl fun one member => spelled one (List.mem_cons_of_mem _ member)
            · exact .inr fun one member => written one (List.mem_cons_of_mem _ member)
          have folds : foldChar c = foldChar d ↔ foldLowered c = foldLowered d :=
            ⟨foldLowered_eq_of_foldChar_eq, foldChar_eq_of_foldLowered_eq head⟩
          rw [alike_cons_iff, ih tail, folds, List.map_cons, List.map_cons, List.cons.injEq]

section

variable {identifier : Identifier} {text : List Char} (plain : '\u0130' ∉ identifier.chars)
  (plainText : '\u0130' ∉ text)

include plain plainText

theorem isValid_lower_iff (known : OneVersion identifier.chars ∨ OneVersion text)
    (range : CharRange) :
    identifier.lowered.IsValid (lower text) range ↔ identifier.IsValid text range := by
  have long := (lowered_lower text).length_of_plain plainText
  by_cases within : range.start ≤ range.stop ∧ range.stop ≤ text.length
  · -- The three pieces of the text stand for those of its lower-case form.
    obtain ⟨ahead, found, behind, rfl, rfl⟩ := exists_pieces within.1 within.2
    obtain ⟨front, shownBehind, shown, left, right⟩ := (lowered_lower _).of_append
    obtain ⟨shownAhead, shownFound, rfl, first, middle⟩ := left.of_append
    simp only [List.mem_append, not_or] at plainText
    have start := first.length_of_plain plainText.1.1
    have stop := middle.length_of_plain plainText.1.2
    have part : OneVersion identifier.chars ∨ OneVersion found := by
      rcases known with spelled | written
      · exact .inl spelled
      · exact .inr fun c member => written c (by simp [member])
    have spelled := (lowered_lower identifier.chars).map_foldChar_of_plain plain
    have matched := middle.map_foldChar_of_plain plainText.1.2
    rw [shown, ← start, ← stop, isValid_pieces_iff, start, stop, isValid_pieces_iff,
      first.standsAlone_eq right, alike_iff_map_foldLowered part, ← spelled, ← matched]
    rfl
  · constructor
    · intro valid
      exact absurd ⟨valid.ordered, long ▸ valid.inside⟩ within
    · intro valid
      exact absurd ⟨valid.ordered, valid.inside⟩ within

theorem foundInPlace_of_oneVersion (known : OneVersion identifier.chars ∨ OneVersion text) :
    identifier.FoundInPlace text := by
  have same := spans_congr (isValid_lower_iff plain plainText known)
  refine ⟨identifier.spans text, ?_, ranges_eq_bytes_spans identifier text, ?_⟩
  · intro range member
    have valid := (isGreedy_spans identifier text).valid range member
    rw [(lowered_lower text).length_of_plain plainText]
    exact ⟨valid.start_lt_stop, valid.inside, valid.inside⟩
  · rw [ranges_eq_bytes_spans, same]

end

theorem FoundInPlace.count_eq {identifier : Identifier} {text : List Char}
    (places : identifier.FoundInPlace text) :
    identifier.lowered.count (lower text) = identifier.count text := by
  obtain ⟨selection, -, found, foundLowered⟩ := places
  rw [← length_ranges, ← length_ranges, found, foundLowered, List.length_map, List.length_map]

theorem oneVersion_of_foundInPlace {identifier : Identifier} (plain : '\u0130' ∉ identifier.chars)
    (places : ∀ text, '\u0130' ∉ text → identifier.FoundInPlace text) :
    OneVersion identifier.chars := by
  intro c member split
  obtain ⟨other, same, different⟩ := isSplit_iff.mp split
  -- In the text, the other character stands in the place of this one.
  obtain ⟨ahead, behind, split⟩ := List.append_of_mem member
  have whole : identifier.chars = ahead ++ [c] ++ behind := by simpa using split
  have plainText : '\u0130' ∉ ahead ++ [other] ++ behind := by
    have otherPlain : other ≠ '\u0130' := by
      rintro rfl
      rw [foldLowered_dotted] at same
      obtain rfl := eq_of_foldLowered_eq (by decide) same.symm
      exact plain member
    rw [whole] at plain
    simp only [List.mem_append, List.mem_singleton, not_or] at plain ⊢
    exact ⟨⟨plain.1.1, otherPlain.symm⟩, plain.2⟩
  have none : identifier.count (ahead ++ [other] ++ behind) = 0 :=
    count_eq_zero_of_replaced whole different
  have one : identifier.lowered.count (lower (ahead ++ [other] ++ behind)) = 1 := by
    apply count_of_alike
    rw [Alike, (lowered_lower _).map_foldChar_of_plain plainText, lowered,
      (lowered_lower _).map_foldChar_of_plain plain, whole]
    simp only [List.map_append, List.map_singleton, same]
  have equal := (places _ plainText).count_eq
  rw [none, one] at equal
  cases equal

/-- An identifier without the dotted capital I is found in place in every such text when lower-casing
and folding follow the same version of Unicode on one of them, and it is found in place in all such
texts exactly when they do on the identifier. -/
theorem lower_keeps_places {identifier : Identifier} (plain : '\u0130' ∉ identifier.chars) :
    (∀ text, '\u0130' ∉ text → OneVersion identifier.chars ∨ OneVersion text →
      identifier.FoundInPlace text) ∧
    ((∀ text, '\u0130' ∉ text → identifier.FoundInPlace text) ↔ OneVersion identifier.chars) := by
  have sufficient : ∀ text, '\u0130' ∉ text → OneVersion identifier.chars ∨ OneVersion text →
      identifier.FoundInPlace text := by
    intro text plainText known
    exact foundInPlace_of_oneVersion plain plainText known
  refine ⟨sufficient, oneVersion_of_foundInPlace plain, ?_⟩
  intro known text plainText
  exact sufficient text plainText (.inl known)

def kelvinSigmas : Identifier :=
  ⟨"\u212A-ΣΣ".toList, by decide⟩

/-- In lower case the Kelvin sign is shorter and the last sigma of a word has its own form; a sigma
behind a letter that glues is passed over before and after. -/
theorem lower_keeps_places_kelvinSigmas :
    '\u0130' ∉ kelvinSigmas.chars ∧ OneVersion kelvinSigmas.chars ∧
    kelvinSigmas.lowered.chars = "k-σς".toList ∧
    kelvinSigmas.ranges "Ek-σΣ, \u212A-ςΣ.".toList = [(9, 17)] ∧
    kelvinSigmas.lowered.ranges (lower "Ek-σΣ, \u212A-ςΣ.".toList) = [(9, 15)] ∧
    ∀ text, '\u0130' ∉ text → kelvinSigmas.FoundInPlace text := by
  have plain : '\u0130' ∉ kelvinSigmas.chars := by decide
  have known : OneVersion kelvinSigmas.chars := by decide
  refine ⟨plain, known, by decide, by decide +kernel, by decide +kernel,
    (lower_keeps_places plain).2.mpr known⟩

end SqlColumns.Identifier
