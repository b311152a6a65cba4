import SqlColumns.Proofs.Identifier.Greedy

/-!
# Search by candidates

A search asks for the next match, whatever its neighbours are, and judges the neighbours itself. A
match that stands alone is selected, and the search goes on behind it; any other one is rejected, and
the search goes on one character behind its start, because a match that overlaps the rejected one may
stand alone. Whatever finds the matches, the search ends and selects what the walk selects.
-/

set_option autoImplicit false

namespace SqlColumns.Identifier

/-- The identifier matches from a character of the text on, whatever stands beside it. -/
def MatchesAt (identifier : Identifier) (text : List Char) (start : Nat) : Prop :=
  Alike ((text.drop start).take identifier.chars.length) identifier.chars

instance (identifier : Identifier) (text : List Char) (start : Nat) :
    Decidable (identifier.MatchesAt text start) :=
  inferInstanceAs (Decidable (Alike _ _))

/-- The match with the least start among those that start at `place` or behind it. -/
structure IsNextMatch (identifier : Identifier) (text : List Char) (place start : Nat) : Prop where
  found : identifier.MatchesAt text start
  reached : place ≤ start
  first : ∀ other, identifier.MatchesAt text other → place ≤ other → start ≤ other

/-- What finds the next match from any place of any text on, and nothing only where there is
none. -/
structure Finder (identifier : Identifier) where
  next? : List Char → Nat → Option Nat
  next?_eq_some_iff : ∀ text place start,
    next? text place = some start ↔ identifier.IsNextMatch text place start

theorem MatchesAt.stop_le {identifier : Identifier} {text : List Char} {start : Nat}
    (found : identifier.MatchesAt text start) :
    start + identifier.chars.length ≤ text.length := by
  have length := Alike.length_eq found
  have long := identifier.length_pos
  simp only [List.length_take, List.length_drop] at length
  omega

theorem isValid_iff_matchesAt {identifier : Identifier} {text : List Char} {range : CharRange} :
    identifier.IsValid text range ↔
      range.stop = range.start + identifier.chars.length ∧
        identifier.MatchesAt text range.start ∧
        standsAlone (range.before? text) (range.after? text) = true := by
  constructor
  · intro valid
    have stop := valid.stop_eq
    have long : range.stop - range.start = identifier.chars.length := by omega
    have alike := valid.alike
    rw [CharRange.slice, long] at alike
    exact ⟨stop, alike, valid.alone⟩
  · rintro ⟨stop, found, alone⟩
    have inside := found.stop_le
    have long : range.stop - range.start = identifier.chars.length := by omega
    have alike : Alike (range.slice text) identifier.chars := by
      rw [CharRange.slice, long]
      exact found
    exact ⟨by omega, by omega, alike, alone⟩

namespace Finder

variable {identifier : Identifier}

def byLooking (identifier : Identifier) : identifier.Finder where
  next? text place := (List.range' place (text.length + 1 - place)).find? fun start =>
    decide (identifier.MatchesAt text start)
  next?_eq_some_iff text place start := by
    simp only [List.find?_range'_eq_some, List.mem_range'_1, decide_eq_true_eq]
    constructor
    · rintro ⟨found, ⟨reached, _⟩, none⟩
      refine ⟨found, reached, fun other matched above => Nat.not_lt.mp fun before => ?_⟩
      have unmatched := none other above before
      simp [matched] at unmatched
    · rintro ⟨found, reached, first⟩
      have inside := found.stop_le
      refine ⟨found, ⟨reached, by omega⟩, fun other above before => ?_⟩
      simp only [Bool.not_eq_true', decide_eq_false_iff_not]
      intro matched
      exact absurd (first other matched above) (Nat.not_le.mpr before)

theorem exists_isNextMatch {text : List Char} {place start : Nat}
    (found : identifier.MatchesAt text start) (reached : place ≤ start) :
    ∃ next, identifier.IsNextMatch text place next := by
  cases looked : (byLooking identifier).next? text place with
  | some next => exact ⟨next, ((byLooking identifier).next?_eq_some_iff text place next).mp looked⟩
  | none =>
      have inside := found.stop_le
      have unmatched := List.find?_range'_eq_none.mp looked start reached (by omega)
      simp [found] at unmatched

def search (finder : identifier.Finder) (text : List Char) (place : Nat) : List CharRange :=
  match step : finder.next? text place with
  | none => []
  | some start =>
      have found := (finder.next?_eq_some_iff text place start).mp step
      have inside := found.found.stop_le
      have long := identifier.length_pos
      let range : CharRange := ⟨start, start + identifier.chars.length⟩
      if standsAlone (range.before? text) (range.after? text) then
        range :: finder.search text range.stop
      else finder.search text (start + 1)
termination_by text.length - place
decreasing_by
  all_goals
    have reached := found.reached
    simp only [range] at *
    omega

/-- One step of a search: the next candidate is selected when it stands alone, and otherwise the
search goes on one character behind its start. -/
theorem search_eq (finder : identifier.Finder) (text : List Char) (place : Nat) :
    finder.search text place =
      match finder.next? text place with
      | none => []
      | some start =>
          let range : CharRange := ⟨start, start + identifier.chars.length⟩
          if standsAlone (range.before? text) (range.after? text) then
            range :: finder.search text range.stop
          else finder.search text (start + 1) := by
  rw [search]
  split
  · next none => rw [none]
  · next start step => simp only [step]

theorem start_le_of_isValid {text : List Char} {place start : Nat}
    (next : identifier.IsNextMatch text place start) {range : CharRange}
    (valid : identifier.IsValid text range) (reached : place ≤ range.start) :
    start ≤ range.start :=
  next.first range.start (isValid_iff_matchesAt.mp valid).2.1 reached

/-- From any place on, the search selects greedily. -/
theorem isGreedy_search (finder : identifier.Finder) (text : List Char) (place : Nat) :
    identifier.IsGreedy text place (finder.search text place) := by
  fun_induction finder.search text place with
  | case1 place step =>
      refine .stop fun range valid => Nat.not_le.mp fun reached => ?_
      have found := (isValid_iff_matchesAt.mp valid).2.1
      obtain ⟨start, next⟩ := exists_isNextMatch found reached
      rw [(finder.next?_eq_some_iff text place start).mpr next] at step
      cases step
  | case2 place start step found inside long range alone ih =>
      refine .next ⟨?_, found.reached, fun other valid reached => ?_⟩ ih
      · exact isValid_iff_matchesAt.mpr ⟨rfl, found.found, alone⟩
      · exact start_le_of_isValid found valid reached
  | case3 place start step found inside long range alone ih =>
      -- A valid range with the start of the candidate would be the candidate, which was rejected.
      refine ih.of_passed (fun other valid reached => ?_) (Nat.le_succ_of_le found.reached)
      have above := start_le_of_isValid found valid reached
      refine Nat.succ_le_of_lt (Nat.lt_of_le_of_ne above fun same => alone ?_)
      obtain ⟨stop, _, standing⟩ := isValid_iff_matchesAt.mp valid
      have whole : other = range := by
        cases other
        simp_all [range]
      exact whole ▸ standing

theorem spans_eq_search (finder : identifier.Finder) (text : List Char) :
    identifier.spans text = finder.search text 0 :=
  (isGreedy_spans identifier text).unique (finder.isGreedy_search text 0)

end Finder

/-- The occurrences of an identifier are the greedy selection of its valid ranges, there is no other
one, and a search by candidates comes to it whatever finds the candidates. Every range that is found
is not empty, lies within the text and starts and ends between characters. -/
theorem ranges_are_greedy_selection (identifier : Identifier) (text : List Char) :
    ∃ selection : List CharRange,
      identifier.IsGreedy text 0 selection ∧
      (∀ other, identifier.IsGreedy text 0 other → other = selection) ∧
      (∀ finder : identifier.Finder, finder.search text 0 = selection) ∧
      identifier.ranges text = selection.map (fun range => range.bytes text) ∧
      (∀ range ∈ selection, range.start < range.stop ∧ range.stop ≤ text.length) ∧
      (∀ bounds ∈ identifier.ranges text,
        bounds.1 < bounds.2 ∧ bounds.2 ≤ Text.byteLength text) ∧
      identifier.count text = (identifier.ranges text).length := by
  have greedy := isGreedy_spans identifier text
  refine ⟨identifier.spans text, greedy, fun other => fun also => also.unique greedy,
    fun finder => (finder.isGreedy_search text 0).unique greedy,
    ranges_eq_bytes_spans identifier text, ?_, ?_, ?_⟩
  · intro range member
    have valid := greedy.valid range member
    exact ⟨valid.start_lt_stop, valid.inside⟩
  · intro bounds member
    rw [ranges_eq_bytes_spans] at member
    obtain ⟨range, selected, rfl⟩ := List.mem_map.mp member
    have valid := greedy.valid range selected
    exact ⟨CharRange.byteOffset_lt valid.start_lt_stop valid.inside, CharRange.byteOffset_le _ _⟩
  · rw [ranges_eq_bytes_spans, List.length_map, length_spans]

end SqlColumns.Identifier
