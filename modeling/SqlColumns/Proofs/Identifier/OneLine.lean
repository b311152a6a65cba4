import SqlColumns.Proofs.Identifier.Search
import SqlColumns.Proofs.Identifier.Steady

/-!
# Occurrences in a text on one line

A space is as wide as a line feed and glues to nothing, as a line feed does, and neither matches
anything but itself. To an identifier without either of them a text and the text on one line are the
same: the next match from any place on is the same one, and so is whether it stands alone, so that two
searches keep in step through the candidates they select and those they reject. An identifier with a
space or a line feed is moved in some text.
-/

set_option autoImplicit false

namespace SqlColumns

/-!
## Neighbours and bytes
-/

theorem CharRange.byteOffset_map {move : Char → Char}
    (wide : ∀ c, (move c).utf8Size = c.utf8Size) (text : List Char) (index : Nat) :
    byteOffset (text.map move) index = byteOffset text index := by
  have sizes : Char.utf8Size ∘ move = Char.utf8Size := funext wide
  rw [byteOffset, byteOffset, ← List.map_take, List.map_map, sizes]

namespace Identifier

open Text

/-- What does not tell a space from a line feed does not tell a text on one line from the text. -/
theorem apply_flatChar {Value : Type} {value : Char → Value} (same : value ' ' = value '\n')
    (c : Char) : value (flatChar c) = value c := by
  by_cases feed : c = '\n'
  · rw [flatChar, if_pos feed, feed, same]
  · rw [flatChar, if_neg feed]

theorem utf8Size_flatChar (c : Char) : (flatChar c).utf8Size = c.utf8Size :=
  apply_flatChar (by decide) c

theorem gluesBefore_flatChar (c : Char) : gluesBefore (flatChar c) = gluesBefore c :=
  apply_flatChar (by decide) c

theorem gluesAfter_flatChar (c : Char) : gluesAfter (flatChar c) = gluesAfter c :=
  apply_flatChar (by decide) c

theorem standsAlone_flattenLines (range : CharRange) (text : List Char) :
    standsAlone (range.before? (flattenLines text)) (range.after? (flattenLines text)) =
      standsAlone (range.before? text) (range.after? text) := by
  simp only [flattenLines_eq_map, CharRange.before?, CharRange.after?, ← List.map_take,
    List.getLast?_map, List.getElem?_map, standsAlone, Option.any_map, gluesBefore_flatChar,
    gluesAfter_flatChar]

theorem bytes_flattenLines (range : CharRange) (text : List Char) :
    range.bytes (flattenLines text) = range.bytes text := by
  simp only [flattenLines_eq_map, CharRange.bytes, CharRange.byteOffset_map utf8Size_flatChar]

/-!
## Matches
-/

theorem foldChar_flatChar_eq_iff {c d : Char} (noSpace : d ≠ ' ') (noFeed : d ≠ '\n') :
    foldChar (flatChar c) = foldChar d ↔ foldChar c = foldChar d := by
  by_cases feed : c = '\n'
  · -- Neither character that stands here is one of the identifier.
    subst feed
    have space : foldChar ' ' = ' ' := by decide
    have own : foldChar '\n' = '\n' := by decide
    constructor
    · intro same
      exact absurd (eq_of_foldChar_eq (by decide) (same.symm.trans space)) noSpace
    · intro same
      exact absurd (eq_of_foldChar_eq (by decide) (same.symm.trans own)) noFeed
  · rw [flatChar, if_neg feed]

theorem alike_flattened_iff {text spelling : List Char} (noSpace : ' ' ∉ spelling)
    (noFeed : '\n' ∉ spelling) : Alike (text.map flatChar) spelling ↔ Alike text spelling := by
  induction text generalizing spelling with
  | nil => rfl
  | cons c text ih =>
      cases spelling with
      | nil => simp [Alike]
      | cons d spelling =>
          simp only [List.mem_cons, not_or] at noSpace noFeed
          obtain ⟨spaceHere, spaceLater⟩ := noSpace
          obtain ⟨feedHere, feedLater⟩ := noFeed
          rw [List.map_cons, alike_cons_iff, alike_cons_iff, ih spaceLater feedLater,
            foldChar_flatChar_eq_iff (Ne.symm spaceHere) (Ne.symm feedHere)]

section

variable {identifier : Identifier} (noSpace : ' ' ∉ identifier.chars)
  (noFeed : '\n' ∉ identifier.chars)

include noSpace noFeed

theorem matchesAt_flattenLines_iff {text : List Char} {start : Nat} :
    identifier.MatchesAt (flattenLines text) start ↔ identifier.MatchesAt text start := by
  rw [MatchesAt, MatchesAt, flattenLines_eq_map, ← List.map_drop, ← List.map_take,
    alike_flattened_iff noSpace noFeed]

theorem isNextMatch_flattenLines_iff {text : List Char} {place start : Nat} :
    identifier.IsNextMatch (flattenLines text) place start ↔
      identifier.IsNextMatch text place start := by
  have found : ∀ other, identifier.MatchesAt (flattenLines text) other ↔
      identifier.MatchesAt text other :=
    fun _ => matchesAt_flattenLines_iff noSpace noFeed
  constructor
  · intro next
    exact ⟨(found start).mp next.found, next.reached,
      fun other matched => next.first other ((found other).mpr matched)⟩
  · intro next
    exact ⟨(found start).mpr next.found, next.reached,
      fun other matched => next.first other ((found other).mp matched)⟩

theorem next?_flattenLines (finder : identifier.Finder) (text : List Char) (place : Nat) :
    finder.next? (flattenLines text) place = finder.next? text place := by
  ext start
  rw [finder.next?_eq_some_iff, finder.next?_eq_some_iff,
    isNextMatch_flattenLines_iff noSpace noFeed]

/-- From any place on, the search selects the same ranges in both texts. -/
theorem search_flattenLines (finder : identifier.Finder) (text : List Char) (place : Nat) :
    finder.search (flattenLines text) place = finder.search text place := by
  -- In each case the searches meet the same candidate and judge it alike.
  fun_induction finder.search text place with
  | case1 place step =>
      rw [finder.search_eq, next?_flattenLines noSpace noFeed, step]
  | case2 place start step found inside long range alone ih =>
      rw [finder.search_eq, next?_flattenLines noSpace noFeed, step]
      simp only [standsAlone_flattenLines]
      rw [if_pos alone, ih]
  | case3 place start step found inside long range alone ih =>
      rw [finder.search_eq, next?_flattenLines noSpace noFeed, step]
      simp only [standsAlone_flattenLines]
      rw [if_neg alone, ih]

theorem ranges_flattenLines (text : List Char) :
    identifier.ranges (flattenLines text) = identifier.ranges text := by
  have finder := Finder.byLooking identifier
  rw [ranges_eq_bytes_spans, ranges_eq_bytes_spans, finder.spans_eq_search, finder.spans_eq_search,
    search_flattenLines noSpace noFeed]
  exact List.map_congr_left fun range _ => bytes_flattenLines range text

end

/-!
## Texts that move an identifier
-/

/-- An identifier with a line feed is lost on one line. -/
theorem count_flattenLines_of_lineFeed {identifier : Identifier} (feed : '\n' ∈ identifier.chars) :
    identifier.count (flattenLines identifier.chars) = 0 := by
  refine count_eq_zero_of_not_alike (by simp [flattenLines_eq_map]) fun alike => ?_
  rw [Alike, flattenLines_eq_map, List.map_map, List.map_inj_left] at alike
  exact absurd (alike '\n' feed) (by decide)

/-- An identifier with a space is made on one line from a text with a line feed in its place. -/
theorem exists_made_of_space {identifier : Identifier} (space : ' ' ∈ identifier.chars)
    (noFeed : '\n' ∉ identifier.chars) :
    ∃ text, flattenLines text = identifier.chars ∧ identifier.count text = 0 := by
  obtain ⟨ahead, behind, split⟩ := List.append_of_mem space
  have whole : identifier.chars = ahead ++ [' '] ++ behind := by simpa using split
  refine ⟨ahead ++ ['\n'] ++ behind, ?_, count_eq_zero_of_replaced whole (by decide)⟩
  rw [whole] at noFeed ⊢
  simp only [List.mem_append, not_or] at noFeed
  rw [flattenLines_eq_map, List.map_append, List.map_append, map_flatChar noFeed.1.1,
    map_flatChar noFeed.2]
  rfl

theorem exists_moved {identifier : Identifier}
    (spaced : ¬ (' ' ∉ identifier.chars ∧ '\n' ∉ identifier.chars)) :
    ∃ text, identifier.count (flattenLines text) ≠ identifier.count text := by
  by_cases feed : '\n' ∈ identifier.chars
  · refine ⟨identifier.chars, ?_⟩
    rw [count_flattenLines_of_lineFeed feed, count_of_alike rfl]
    exact Nat.zero_ne_one
  · have space : ' ' ∈ identifier.chars := Decidable.not_not.mp fun none => spaced ⟨none, feed⟩
    obtain ⟨text, made, none⟩ := exists_made_of_space space feed
    refine ⟨text, ?_⟩
    rw [made, none, count_of_alike rfl]
    exact Nat.one_ne_zero

/-- An identifier is found at the same bytes of every text and of the text on one line exactly when it
has neither a space nor a line feed, and then a search offers the same candidates and selects the same
ranges from every place on. -/
theorem flattenLines_keeps_ranges (identifier : Identifier) :
    ((∀ text, identifier.ranges (flattenLines text) = identifier.ranges text) ↔
      ' ' ∉ identifier.chars ∧ '\n' ∉ identifier.chars) ∧
    ((∀ (finder : identifier.Finder) (text : List Char) (place : Nat),
        finder.next? (flattenLines text) place = finder.next? text place ∧
          finder.search (flattenLines text) place = finder.search text place) ↔
      ' ' ∉ identifier.chars ∧ '\n' ∉ identifier.chars) := by
  have unmoved : (∀ text, identifier.count (flattenLines text) = identifier.count text) →
      ' ' ∉ identifier.chars ∧ '\n' ∉ identifier.chars := by
    intro same
    refine Decidable.not_not.mp fun spaced => ?_
    obtain ⟨text, moved⟩ := exists_moved spaced
    exact moved (same text)
  constructor
  · constructor
    · intro same
      refine unmoved fun text => ?_
      rw [← length_ranges, same text, length_ranges]
    · rintro ⟨noSpace, noFeed⟩ text
      exact ranges_flattenLines noSpace noFeed text
  · constructor
    · intro same
      refine unmoved fun text => ?_
      rw [← length_spans, ← length_spans, (Finder.byLooking identifier).spans_eq_search,
        (Finder.byLooking identifier).spans_eq_search, (same _ text 0).2]
    · rintro ⟨noSpace, noFeed⟩ finder text place
      exact ⟨next?_flattenLines noSpace noFeed finder text place,
        search_flattenLines noSpace noFeed finder text place⟩

end Identifier

end SqlColumns
