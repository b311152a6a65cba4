import SqlColumns.Identifier.Occurrences
import SqlColumns.Identifier.Ranges

/-!
# Greedy selection of occurrences

The walk that cuts a text selects, from left to right, the valid range with the least start behind
the one before it. A search that asks for the next match, and goes on one character behind the start
of a match that does not stand alone, selects the same ranges.
-/

set_option autoImplicit false

namespace SqlColumns

namespace Identifier

/-!
## Valid ranges
-/

theorem Alike.length_eq {left right : List Char} (alike : Alike left right) :
    left.length = right.length := by
  simpa using congrArg List.length alike

/-- The three pieces that a range cuts a text into decide whether it is valid. -/
theorem isValid_pieces_iff {identifier : Identifier} {ahead found behind : List Char} :
    identifier.IsValid (ahead ++ found ++ behind)
        ⟨ahead.length, ahead.length + found.length⟩ ↔
      Alike found identifier.chars ∧ standsAlone ahead.getLast? behind.head? = true := by
  have slice : CharRange.slice ⟨ahead.length, ahead.length + found.length⟩
      (ahead ++ found ++ behind) = found := by
    simp [CharRange.slice, List.append_assoc]
  have before : CharRange.before? ⟨ahead.length, ahead.length + found.length⟩
      (ahead ++ found ++ behind) = ahead.getLast? := by
    simp [CharRange.before?, List.append_assoc]
  have after : CharRange.after? ⟨ahead.length, ahead.length + found.length⟩
      (ahead ++ found ++ behind) = behind.head? := by
    simp only [CharRange.after?, ← List.length_append]
    rw [List.getElem?_append_right (Nat.le_refl _), Nat.sub_self, List.head?_eq_getElem?]
  constructor
  · intro valid
    exact ⟨slice ▸ valid.alike, by simpa only [before, after] using valid.alone⟩
  · rintro ⟨alike, alone⟩
    exact ⟨Nat.le_add_right _ _, by simp, slice.symm ▸ alike,
      by simpa only [before, after] using alone⟩

/-- A range within a text cuts it into three pieces. -/
theorem exists_pieces {text : List Char} {range : CharRange} (ordered : range.start ≤ range.stop)
    (inside : range.stop ≤ text.length) :
    ∃ ahead found behind, text = ahead ++ found ++ behind ∧
      range = ⟨ahead.length, ahead.length + found.length⟩ := by
  obtain ⟨start, stop⟩ := range
  change start ≤ stop at ordered
  change stop ≤ text.length at inside
  refine ⟨text.take start, (text.drop start).take (stop - start), text.drop stop, ?_, ?_⟩
  · have rest : text.drop stop = (text.drop start).drop (stop - start) := by
      rw [List.drop_drop]
      congr 1
      omega
    rw [rest, List.append_assoc, List.take_append_drop, List.take_append_drop]
  · simp only [List.length_take, List.length_drop, CharRange.mk.injEq]
    omega

theorem IsValid.pieces {identifier : Identifier} {text : List Char} {range : CharRange}
    (valid : identifier.IsValid text range) :
    ∃ ahead found behind, text = ahead ++ found ++ behind ∧
      range = ⟨ahead.length, ahead.length + found.length⟩ :=
  exists_pieces valid.ordered valid.inside

theorem IsValid.stop_eq {identifier : Identifier} {text : List Char} {range : CharRange}
    (valid : identifier.IsValid text range) :
    range.stop = range.start + identifier.chars.length := by
  obtain ⟨ahead, found, behind, rfl, rfl⟩ := valid.pieces
  have alike := (isValid_pieces_iff.mp valid).1
  simp only [alike.length_eq]

theorem length_pos (identifier : Identifier) : 0 < identifier.chars.length :=
  List.length_pos_iff.mpr identifier.nonempty

theorem IsValid.start_lt_stop {identifier : Identifier} {text : List Char} {range : CharRange}
    (valid : identifier.IsValid text range) : range.start < range.stop := by
  have stop := valid.stop_eq
  have long := identifier.length_pos
  omega

/-!
## Selections
-/

theorem IsFirstFrom.unique {identifier : Identifier} {text : List Char} {least : Nat}
    {left right : CharRange} (leftFirst : identifier.IsFirstFrom text least left)
    (rightFirst : identifier.IsFirstFrom text least right) : left = right := by
  have start : left.start = right.start :=
    Nat.le_antisymm (leftFirst.first right rightFirst.valid rightFirst.reached)
      (rightFirst.first left leftFirst.valid leftFirst.reached)
  have stop : left.stop = right.stop := by
    rw [leftFirst.valid.stop_eq, rightFirst.valid.stop_eq, start]
  cases left
  cases right
  simp_all

theorem IsGreedy.unique {identifier : Identifier} {text : List Char} {least : Nat}
    {left right : List CharRange} (leftGreedy : identifier.IsGreedy text least left)
    (rightGreedy : identifier.IsGreedy text least right) : left = right := by
  induction leftGreedy generalizing right with
  | stop none =>
      cases rightGreedy with
      | stop _ => rfl
      | next first _ => exact absurd (none _ first.valid) (Nat.not_lt.mpr first.reached)
  | next first _ ih =>
      cases rightGreedy with
      | stop none => exact absurd (none _ first.valid) (Nat.not_lt.mpr first.reached)
      | next otherFirst rest =>
          obtain rfl := first.unique otherFirst
          rw [ih rest]

theorem IsGreedy.valid {identifier : Identifier} {text : List Char} {least : Nat}
    {selection : List CharRange} (greedy : identifier.IsGreedy text least selection) :
    ∀ range ∈ selection, identifier.IsValid text range := by
  induction greedy with
  | stop _ => simp
  | next first _ ih =>
      intro range member
      rcases List.mem_cons.mp member with rfl | later
      · exact first.valid
      · exact ih range later

/-- Places where no valid range starts may be passed over. -/
theorem IsGreedy.of_passed {identifier : Identifier} {text : List Char} {least later : Nat}
    {selection : List CharRange}
    (passed : ∀ range, identifier.IsValid text range → least ≤ range.start → later ≤ range.start)
    (above : least ≤ later) (greedy : identifier.IsGreedy text later selection) :
    identifier.IsGreedy text least selection := by
  cases greedy with
  | stop none =>
      refine .stop fun range valid => Nat.not_le.mp fun reached => ?_
      exact absurd (none range valid) (Nat.not_lt.mpr (passed range valid reached))
  | next first rest =>
      refine .next ⟨first.valid, Nat.le_trans above first.reached, fun other valid reached => ?_⟩ rest
      exact first.first other valid (passed other valid reached)

theorem IsValid.isFirstFrom {identifier : Identifier} {text : List Char} {range : CharRange}
    (valid : identifier.IsValid text range) : identifier.IsFirstFrom text range.start range :=
  ⟨valid, Nat.le_refl _, fun _ _ reached => reached⟩

/-!
## The walk
-/

theorem behind?_eq_some_iff {folded text after : List Char} :
    behind? folded text = some after ↔
      ∃ found, text = found ++ after ∧ found.map Text.foldChar = folded := by
  induction folded generalizing text with
  | nil => simp [behind?, eq_comm]
  | cons head folded ih =>
      cases text with
      | nil => simp [behind?]
      | cons c text =>
          simp only [behind?]
          constructor
          · intro result
            split at result
            · rename_i same
              obtain ⟨found, rfl, matched⟩ := ih.mp result
              exact ⟨c :: found, rfl, by simp [same, matched]⟩
            · cases result
          · rintro ⟨found, split, matched⟩
            cases found with
            | nil => cases matched
            | cons d found =>
                obtain ⟨rfl, rfl⟩ := List.cons.inj split
                obtain ⟨same, matched⟩ := List.cons.inj matched
                rw [if_pos same]
                exact ih.mpr ⟨found, rfl, matched⟩

theorem occursAt?_eq_some_iff {folded text after : List Char} {before : Option Char} :
    occursAt? folded before text = some after ↔
      ∃ found, text = found ++ after ∧ found.map Text.foldChar = folded ∧
        standsAlone before after.head? = true := by
  simp only [occursAt?]
  constructor
  · intro result
    split at result
    · rename_i rest matched
      split at result
      · rename_i alone
        cases result
        obtain ⟨found, split, same⟩ := behind?_eq_some_iff.mp matched
        exact ⟨found, split, same, alone⟩
      · cases result
    · cases result
  · rintro ⟨found, split, same, alone⟩
    rw [behind?_eq_some_iff.mpr ⟨found, split, same⟩]
    simp only [alone, if_true]

/-- The walk cuts something out exactly where a valid range starts. -/
theorem isValid_of_occursAt? {identifier : Identifier} {ahead text after : List Char}
    (occurs : occursAt? (identifier.chars.map Text.foldChar) ahead.getLast? text = some after) :
    identifier.IsValid (ahead ++ text)
      ⟨ahead.length, ahead.length + identifier.chars.length⟩ := by
  obtain ⟨found, rfl, alike, alone⟩ := occursAt?_eq_some_iff.mp occurs
  have valid : identifier.IsValid (ahead ++ found ++ after) _ :=
    isValid_pieces_iff.mpr ⟨alike, alone⟩
  rw [Alike.length_eq alike] at valid
  simpa only [List.append_assoc] using valid

theorem not_isValid_of_occursAt? {identifier : Identifier} {ahead text : List Char}
    (occurs : occursAt? (identifier.chars.map Text.foldChar) ahead.getLast? text = none)
    {range : CharRange} (valid : identifier.IsValid (ahead ++ text) range) :
    range.start ≠ ahead.length := by
  intro start
  obtain ⟨left, found, behind, split, rfl⟩ := valid.pieces
  rw [List.append_assoc] at split
  obtain ⟨rfl, rfl⟩ := List.append_inj split start.symm
  rw [← List.append_assoc] at valid
  obtain ⟨alike, alone⟩ := isValid_pieces_iff.mp valid
  have some := occursAt?_eq_some_iff.mpr ⟨found, rfl, alike, alone⟩
  rw [occurs] at some
  cases some

end Identifier

/-!
## Bytes and characters
-/

theorem Text.byteLength_append (left right : List Char) :
    byteLength (left ++ right) = byteLength left + byteLength right := by
  induction left with
  | nil => simp [byteLength]
  | cons c left ih =>
      have rest : byteLength (c :: (left ++ right)) = c.utf8Size + byteLength (left ++ right) := rfl
      have one : byteLength (c :: left) = c.utf8Size + byteLength left := rfl
      rw [List.cons_append, rest, one, ih, Nat.add_assoc]

theorem Text.byteLength_pos {text : List Char} (some : text ≠ []) : 0 < byteLength text := by
  cases text with
  | nil => exact absurd rfl some
  | cons c rest =>
      have length : byteLength (c :: rest) = c.utf8Size + byteLength rest := rfl
      have size := c.utf8Size_pos
      omega

namespace CharRange

theorem byteOffset_append_left (ahead behind : List Char) :
    byteOffset (ahead ++ behind) ahead.length = Text.byteLength ahead := by
  rw [byteOffset, List.take_left]
  rfl

theorem byteOffset_le (text : List Char) (index : Nat) :
    byteOffset text index ≤ Text.byteLength text := by
  have whole := Text.byteLength_append (text.take index) (text.drop index)
  rw [List.take_append_drop] at whole
  exact whole ▸ Nat.le_add_right _ _

theorem byteOffset_lt {text : List Char} {start stop : Nat} (ordered : start < stop)
    (inside : stop ≤ text.length) : byteOffset text start < byteOffset text stop := by
  have between : (text.drop start).take (stop - start) ≠ [] :=
    List.ne_nil_of_length_pos (by rw [List.length_take, List.length_drop]; omega)
  have split : text.take stop = text.take start ++ (text.drop start).take (stop - start) := by
    rw [← List.take_add, Nat.add_sub_cancel' (Nat.le_of_lt ordered)]
  have length := Text.byteLength_append (text.take start) ((text.drop start).take (stop - start))
  rw [← split] at length
  have some := Text.byteLength_pos between
  simp only [byteOffset, Text.byteLength] at length some ⊢
  omega

end CharRange

namespace Cut

def spansFrom (start : Nat) : List Occurrence → List CharRange
  | [] => []
  | one :: rest =>
      let low := start + one.gap.length
      let high := low + one.found.length
      ⟨low, high⟩ :: spansFrom high rest

theorem length_spansFrom (start : Nat) (occurrences : List Occurrence) :
    (spansFrom start occurrences).length = occurrences.length := by
  induction occurrences generalizing start with
  | nil => rfl
  | cons one rest ih => simp [spansFrom, ih]

theorem rangesFrom_eq_bytes_spansFrom (ahead tail : List Char) (occurrences : List Occurrence) :
    rangesFrom (Text.byteLength ahead) occurrences =
      (spansFrom ahead.length occurrences).map fun range => range.bytes
        (ahead ++ (occurrences.flatMap (fun one => one.gap ++ one.found) ++ tail)) := by
  induction occurrences generalizing ahead with
  | nil => rfl
  | cons one rest ih =>
      have low := CharRange.byteOffset_append_left (ahead ++ one.gap)
        (one.found ++ (rest.flatMap (fun one => one.gap ++ one.found) ++ tail))
      have high := CharRange.byteOffset_append_left (ahead ++ one.gap ++ one.found)
        (rest.flatMap (fun one => one.gap ++ one.found) ++ tail)
      have next := ih (ahead ++ one.gap ++ one.found)
      simp only [Text.byteLength_append, List.length_append, List.append_assoc] at low high next
      simp only [rangesFrom, spansFrom, List.flatMap_cons, List.map_cons, List.append_assoc,
        CharRange.bytes, Nat.add_assoc, low, high, next]

end Cut

namespace Identifier

/-- From any place on, the walk selects greedily. `ahead` is the text before that place, and the
occurrences cut out before are in `done`. -/
theorem isGreedy_cutFrom (identifier : Identifier)
    (nonempty : identifier.chars.map Text.foldChar ≠ []) (before : Option Char) (gap : List Char)
    (done : List Occurrence) (text ahead : List Char) (reached : before = ahead.getLast?)
    (gapped : gap.length ≤ ahead.length) :
    ∃ found,
      (cutFrom (identifier.chars.map Text.foldChar) nonempty before gap done text).occurrences =
        done.reverse ++ found ∧
      identifier.IsGreedy (ahead ++ text) ahead.length
        (Cut.spansFrom (ahead.length - gap.length) found) := by
  fun_induction cutFrom (identifier.chars.map Text.foldChar) nonempty before gap done text
    generalizing ahead with
  | case1 before gap done =>
      refine ⟨[], by simp, .stop fun range valid => ?_⟩
      have inside := valid.inside
      have long := valid.start_lt_stop
      simp only [List.append_nil] at inside
      omega
  | case2 before gap done c rest after step shorter cutOut =>
      rename_i ih
      -- The walk stands at a valid range, and goes on greedily behind it.
      subst reached
      have valid := isValid_of_occursAt? step
      obtain ⟨matched, split, alike, alone⟩ := occursAt?_eq_some_iff.mp step
      have long : matched.length = identifier.chars.length := Alike.length_eq alike
      have exact : cutOut = matched := by
        simp only [cutOut, split, List.length_map, ← long, List.take_left]
      have ends : cutOut.getLast? = (ahead ++ cutOut).getLast? := by
        have some : cutOut ≠ [] := by
          rw [exact]
          exact List.ne_nil_of_length_pos (long ▸ identifier.length_pos)
        rw [List.getLast?_append, List.getLast?_eq_some_getLast some, Option.some_or]
      obtain ⟨found, occurrences, greedy⟩ := ih (ahead ++ cutOut) ends (Nat.zero_le _)
      simp only [List.unattach_reverse, List.unattach_attach] at occurrences
      refine ⟨⟨gap.reverse, cutOut⟩ :: found, by simp [occurrences], ?_⟩
      have start : ahead.length - gap.length + gap.length = ahead.length :=
        Nat.sub_add_cancel gapped
      simp only [Cut.spansFrom, List.length_reverse, start]
      have stop : ahead.length + cutOut.length = ahead.length + identifier.chars.length := by
        rw [exact, long]
      rw [stop]
      refine .next valid.isFirstFrom ?_
      simpa only [List.append_assoc, List.length_append, List.length_nil, Nat.sub_zero, exact, long,
        ← split] using greedy
  | case3 before gap done c rest step ih =>
      -- No valid range starts here, so this character is passed over.
      subst reached
      obtain ⟨found, occurrences, greedy⟩ := ih (ahead ++ [c]) (by simp) (by simp; omega)
      refine ⟨found, occurrences, ?_⟩
      have here : ahead.length + 1 - (gap.length + 1) = ahead.length - gap.length := by omega
      simp only [List.append_assoc, List.singleton_append, List.length_append, List.length_cons,
        List.length_nil, Nat.zero_add, here] at greedy
      refine greedy.of_passed (fun range valid above => ?_) (Nat.le_succ _)
      have apart := not_isValid_of_occursAt? step valid
      omega

def spans (identifier : Identifier) (text : List Char) : List CharRange :=
  Cut.spansFrom 0 (identifier.cut text).occurrences

theorem isGreedy_spans (identifier : Identifier) (text : List Char) :
    identifier.IsGreedy text 0 (identifier.spans text) := by
  obtain ⟨found, occurrences, greedy⟩ := isGreedy_cutFrom identifier
    (by simpa using identifier.nonempty) none [] [] text [] rfl (Nat.le_refl 0)
  have same : (identifier.cut text).occurrences = found := occurrences
  rw [spans, same]
  exact greedy

theorem length_spans (identifier : Identifier) (text : List Char) :
    (identifier.spans text).length = identifier.count text :=
  Cut.length_spansFrom 0 _

theorem ranges_eq_bytes_spans (identifier : Identifier) (text : List Char) :
    identifier.ranges text = (identifier.spans text).map fun range => range.bytes text := by
  have whole : (identifier.cut text).occurrences.flatMap (fun one => one.gap ++ one.found) ++
      (identifier.cut text).tail = text := text_cut identifier text
  have same := Cut.rangesFrom_eq_bytes_spansFrom [] (identifier.cut text).tail
    (identifier.cut text).occurrences
  rw [List.nil_append, whole] at same
  exact same

theorem length_ranges (identifier : Identifier) (text : List Char) :
    (identifier.ranges text).length = identifier.count text := by
  rw [ranges_eq_bytes_spans, List.length_map, length_spans]

theorem count_eq_of_isGreedy {identifier : Identifier} {text : List Char}
    {selection : List CharRange} (greedy : identifier.IsGreedy text 0 selection) :
    identifier.count text = selection.length := by
  rw [greedy.unique (isGreedy_spans identifier text), length_spans]

theorem count_eq_zero_iff {identifier : Identifier} {text : List Char} :
    identifier.count text = 0 ↔ ∀ range, ¬ identifier.IsValid text range := by
  have greedy := isGreedy_spans identifier text
  rw [← length_spans, List.length_eq_zero_iff]
  constructor
  · intro empty range valid
    rw [empty] at greedy
    cases greedy with
    | stop none => exact absurd (none range valid) (Nat.not_lt_zero _)
  · intro none
    cases selected : identifier.spans text with
    | nil => rfl
    | cons range rest =>
        rw [selected] at greedy
        exact absurd (greedy.valid range List.mem_cons_self) (none range)

/-!
## Texts with no occurrence and texts that are one
-/

theorem replaceAll_of_count_eq_zero {identifier : Identifier} {text replacement : List Char}
    (none : identifier.count text = 0) : identifier.replaceAll text replacement = text := by
  have empty : (identifier.cut text).occurrences = [] := List.length_eq_zero_iff.mp none
  simp [replaceAll, replaceAll?, empty]

theorem count_eq_zero_of_length_lt {identifier : Identifier} {text : List Char}
    (short : text.length < identifier.chars.length) : identifier.count text = 0 := by
  refine count_eq_zero_iff.mpr fun range valid => ?_
  have stop := valid.stop_eq
  have inside := valid.inside
  omega

theorem spans_of_alike {identifier : Identifier} {text : List Char}
    (alike : Alike text identifier.chars) :
    identifier.spans text = [⟨0, identifier.chars.length⟩] := by
  have whole : identifier.IsValid ([] ++ text ++ [])
      ⟨([] : List Char).length, ([] : List Char).length + text.length⟩ :=
    isValid_pieces_iff.mpr ⟨alike, rfl⟩
  simp only [List.nil_append, List.append_nil, List.length_nil, Nat.zero_add] at whole
  rw [← alike.length_eq]
  refine (isGreedy_spans identifier text).unique (.next whole.isFirstFrom (.stop ?_))
  intro range valid
  exact Nat.lt_of_lt_of_le valid.start_lt_stop valid.inside

theorem count_of_alike {identifier : Identifier} {text : List Char}
    (alike : Alike text identifier.chars) : identifier.count text = 1 := by
  rw [← length_spans, spans_of_alike alike]
  rfl

end Identifier

end SqlColumns
