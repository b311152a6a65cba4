import SqlColumns.Proofs.Identifier.Transport
import SqlColumns.Proofs.Scan.Counting

/-!
# Steady identifiers

An identifier is steady when no text can disturb it. For any other identifier there is a text in which
it is found a different number of times than its lower-case form in the lower-case form of the text on
one line.
-/

set_option autoImplicit false

namespace SqlColumns.Identifier

open Text

def lowered (identifier : Identifier) : Identifier :=
  ⟨lower identifier.chars, Scan.lower_ne_nil identifier.nonempty⟩

/-- The identifier is found in a text as often as its lower-case form is where a scan counts. -/
def CountsAlike (identifier : Identifier) (text : List Char) : Prop :=
  identifier.lowered.count (Scan.prepared text) = identifier.count text

theorem countsAlike_of_undisturbed {identifier : Identifier} {text : List Char}
    (undisturbed : Undisturbed identifier.chars text) : identifier.CountsAlike text :=
  count_shown (lowered_lower identifier.chars) (lowered_prepared text) undisturbed

/-- Nothing in a text can disturb the identifier. -/
structure Steady (spelling : List Char) : Prop where
  lines : ' ' ∉ spelling ∧ '\n' ∉ spelling
  split : ∀ c ∈ spelling, ¬ IsSplit c
  dotted : ¬ HasDotted spelling ∧ ¬ EndsInI spelling
  apart : '\u0130' ∉ spelling

theorem Steady.undisturbed {spelling : List Char} (steady : Steady spelling) (text : List Char) :
    Undisturbed spelling text where
  lines _ := steady.lines
  split := .inl steady.split
  dotted _ := steady.dotted
  apart member := absurd member steady.apart

/-- An ASCII identifier without a space or a line feed is steady unless it ends in a letter I. -/
theorem steady_of_ascii {spelling : List Char} (ascii : ∀ c ∈ spelling, c.toNat < 0x80)
    (lines : ' ' ∉ spelling ∧ '\n' ∉ spelling)
    (ends : spelling.getLast? ≠ some 'i' ∧ spelling.getLast? ≠ some 'I') : Steady spelling where
  lines := lines
  split c member := ascii_not_split (ascii c member)
  dotted := by
    constructor
    · rintro ⟨ahead, c, behind, rfl, -⟩
      exact absurd (ascii '\u0307' (by simp)) (by decide)
    · rintro ⟨ahead, c, rfl, rfl | rfl⟩
      · exact ends.1 List.getLast?_concat
      · exact ends.2 List.getLast?_concat
  apart member := absurd (ascii '\u0130' member) (by decide)

/-!
## Texts with too few occurrences
-/

theorem count_eq_zero_of_not_alike {identifier : Identifier} {text : List Char}
    (short : text.length ≤ identifier.chars.length) (different : ¬ Alike text identifier.chars) :
    identifier.count text = 0 := by
  refine count_eq_zero_iff.mpr fun range valid => different ?_
  obtain ⟨ahead, found, behind, rfl, rfl⟩ := valid.pieces
  obtain ⟨alike, -⟩ := isValid_pieces_iff.mp valid
  have long := alike.length_eq
  simp only [List.length_append] at short
  have front : ahead = [] := List.length_eq_zero_iff.mp (by omega)
  have rest : behind = [] := List.length_eq_zero_iff.mp (by omega)
  rw [front, rest, List.nil_append, List.append_nil]
  exact alike

theorem count_eq_zero_of_replaced {identifier : Identifier} {ahead behind : List Char} {c other : Char}
    (whole : identifier.chars = ahead ++ [c] ++ behind) (different : foldChar other ≠ foldChar c) :
    identifier.count (ahead ++ [other] ++ behind) = 0 := by
  refine count_eq_zero_of_not_alike (by simp [whole]) fun matched => different ?_
  rw [whole] at matched
  simp only [Alike, List.append_assoc, List.map_append, List.append_cancel_left_eq] at matched
  exact (List.cons.inj matched).1

theorem count_eq_zero_of_absent {identifier : Identifier} {text : List Char} {folded : Char}
    (member : folded ∈ identifier.chars.map foldChar) (absent : folded ∉ text.map foldChar) :
    identifier.count text = 0 := by
  refine count_eq_zero_iff.mpr fun range valid => absent ?_
  obtain ⟨ahead, found, behind, rfl, rfl⟩ := valid.pieces
  obtain ⟨alike, -⟩ := isValid_pieces_iff.mp valid
  rw [← alike] at member
  simp only [List.map_append, List.mem_append]
  exact .inl (.inr member)

theorem count_lowered_pos {identifier : Identifier} {text : List Char}
    (same : Lowered.folds foldPrepared text = Lowered.folds foldLowered identifier.chars) :
    identifier.lowered.count (Scan.prepared text) ≠ 0 := by
  have alike : Alike (Scan.prepared text) identifier.lowered.chars := by
    rw [Alike, (lowered_prepared text).map_foldChar, lowered,
      (lowered_lower identifier.chars).map_foldChar, same]
  rw [count_of_alike alike]
  exact Nat.one_ne_zero

theorem not_countsAlike {identifier : Identifier} {text : List Char}
    (same : Lowered.folds foldPrepared text = Lowered.folds foldLowered identifier.chars)
    (none : identifier.count text = 0) : ¬ identifier.CountsAlike text :=
  fun alike => count_lowered_pos same (alike.trans none)

/-!
## A text for each disturbance
-/

namespace Lowered

theorem folds_map {fold other move : Char → Char} {text : List Char}
    (dotted : ∀ c ∈ text, move c = '\u0130' ↔ c = '\u0130')
    (same : ∀ c ∈ text, fold (move c) = other c) :
    folds fold (text.map move) = folds other text := by
  induction text with
  | nil => simp only [folds, List.map_nil, List.flatMap_nil]
  | cons c text ih =>
      have rest := ih (fun d member => dotted d (List.mem_cons_of_mem _ member))
        fun d member => same d (List.mem_cons_of_mem _ member)
      simp only [List.map_cons, folds_cons, rest, dotted c List.mem_cons_self,
        same c List.mem_cons_self]

theorem folds_prepared {text : List Char} (single : '\n' ∉ text) :
    folds foldPrepared text = folds foldLowered text := by
  have same : folds foldPrepared (text.map id) = folds foldLowered text :=
    folds_map (fun _ _ => Iff.rfl)
      fun c member => foldPrepared_of_ne fun feed => single (feed ▸ member)
  rwa [List.map_id] at same

theorem folds_single {fold : Char → Char} {c : Char} (plain : c ≠ '\u0130') :
    folds fold [c] = [fold c] := by
  simp [folds, plain]

theorem folds_dotted (fold : Char → Char) : folds fold ['\u0130'] = ['i', '\u0307'] := by
  simp [folds]

theorem mem_folds {fold : Char → Char} {text : List Char} {c : Char} (plain : c ≠ '\u0130')
    (member : c ∈ text) : fold c ∈ folds fold text :=
  List.mem_flatMap.mpr ⟨c, member, by simp [plain]⟩

end Lowered

variable {identifier : Identifier}

/-- A line feed in the identifier is a space in no scanned text. -/
theorem not_mem_lineFeed (alike : ∀ text, identifier.CountsAlike text) :
    '\n' ∉ identifier.chars := by
  intro member
  have none : identifier.lowered.count (Scan.prepared identifier.chars) = 0 := by
    refine count_eq_zero_of_absent (?_ : '\n' ∈ _) ?_
    · have feed : foldLowered '\n' = '\n' := by decide
      rw [lowered, (lowered_lower identifier.chars).map_foldChar]
      exact feed ▸ Lowered.mem_folds (by decide) member
    · rw [(lowered_prepared identifier.chars).map_foldChar]
      intro feed
      obtain ⟨c, -, shown⟩ := List.mem_flatMap.mp feed
      split at shown
      · simp at shown
      · have folded : foldPrepared c = '\n' := (List.mem_singleton.mp shown).symm
        by_cases single : c = '\n'
        · rw [single, Lowered.foldPrepared_lineFeed] at folded
          cases folded
        · rw [Lowered.foldPrepared_of_ne single] at folded
          exact single (eq_of_foldLowered_eq (by decide) folded)
  have same := alike identifier.chars
  rw [CountsAlike, none, count_of_alike rfl] at same
  cases same

/-- A space in the identifier matches a line feed in a scan alone. -/
theorem not_mem_space (alike : ∀ text, identifier.CountsAlike text) :
    ' ' ∉ identifier.chars := by
  intro member
  let broken : Char → Char := fun c => if c = ' ' then '\n' else c
  have feeds := not_mem_lineFeed alike
  refine not_countsAlike ?_ ?_ (alike (identifier.chars.map broken))
  · refine Lowered.folds_map (fun c _ => ?_) fun c inside => ?_
    · by_cases space : c = ' '
      · simp [broken, space]
      · simp [broken, space]
    · by_cases space : c = ' '
      · subst space
        decide
      · have single : c ≠ '\n' := fun feed => feeds (feed ▸ inside)
        simp only [broken, if_neg space]
        exact Lowered.foldPrepared_of_ne single
  · refine count_eq_zero_of_not_alike (by simp) fun matched => ?_
    rw [Alike, List.map_map, List.map_inj_left] at matched
    have different : foldChar (broken ' ') ≠ foldChar ' ' := by decide
    exact different (matched ' ' member)

theorem foldLowered_dotted : foldLowered '\u0130' = '\u0130' := by
  decide

/-- A character that folding alone keeps from another one matches this one in a scan. -/
theorem not_isSplit (alike : ∀ text, identifier.CountsAlike text) :
    ∀ c ∈ identifier.chars, ¬ IsSplit c := by
  intro c member split
  obtain ⟨other, same, different⟩ := isSplit_iff.mp split
  have feeds := not_mem_lineFeed alike
  have own : ∀ {kept}, IsOwn kept → foldLowered kept = kept → c ≠ kept ∧ other ≠ kept := by
    intro kept isOwn folded
    constructor
    · rintro rfl
      exact different (eq_of_foldLowered_eq isOwn (same.trans folded) ▸ rfl)
    · rintro rfl
      exact different (eq_of_foldLowered_eq isOwn (same.symm.trans folded) ▸ rfl)
  obtain ⟨plain, otherPlain⟩ := own (by decide) foldLowered_dotted
  obtain ⟨-, otherSingle⟩ := own (by decide : IsOwn '\n') (by decide)
  -- In the text, the other character stands in the place of this one.
  obtain ⟨ahead, behind, split⟩ := List.append_of_mem member
  have whole : identifier.chars = ahead ++ [c] ++ behind := by simpa using split
  have none := count_eq_zero_of_replaced whole different
  refine not_countsAlike ?_ none (alike (ahead ++ [other] ++ behind))
  rw [whole] at feeds ⊢
  simp only [List.mem_append, not_or] at feeds
  simp only [Lowered.folds_append, Lowered.folds_prepared feeds.1.1,
    Lowered.folds_prepared feeds.2, Lowered.folds_single plain, Lowered.folds_single otherPlain,
    Lowered.foldPrepared_of_ne otherSingle, same]

/-- The two characters that stand for a dotted capital I match it in a scan alone. -/
theorem not_hasDotted (alike : ∀ text, identifier.CountsAlike text) :
    ¬ HasDotted identifier.chars := by
  rintro ⟨ahead, c, behind, split, letter⟩
  have feeds := not_mem_lineFeed alike
  have folded : c ≠ '\u0130' ∧ foldLowered c = 'i' := by
    rcases letter with rfl | rfl
    · decide
    · decide
  have dot : foldLowered '\u0307' = '\u0307' := by decide
  have whole : identifier.chars = ahead ++ [c] ++ ['\u0307'] ++ behind := by simpa using split
  refine not_countsAlike ?_ ?_ (alike (ahead ++ ['\u0130'] ++ behind))
  · rw [whole] at feeds ⊢
    simp only [List.mem_append, not_or] at feeds
    simp only [Lowered.folds_append, Lowered.folds_prepared feeds.1.1.1,
      Lowered.folds_prepared feeds.2, Lowered.folds_single folded.1, Lowered.folds_dotted,
      Lowered.folds_single (by decide : '\u0307' ≠ '\u0130'), folded.2, dot]
    simp
  · refine count_eq_zero_of_not_alike (by simp [whole]) fun matched => ?_
    have long := matched.length_eq
    simp [whole] at long

/-- A letter I at the end of the identifier matches the first half of a dotted capital I. -/
theorem not_endsInI (alike : ∀ text, identifier.CountsAlike text) :
    ¬ EndsInI identifier.chars := by
  rintro ⟨ahead, c, split, letter⟩
  have feeds := not_mem_lineFeed alike
  rw [split, List.mem_append, not_or] at feeds
  have folded : c ≠ '\u0130' ∧ foldLowered c = 'i' ∧ foldChar '\u0130' ≠ foldChar c := by
    rcases letter with rfl | rfl
    · decide
    · decide
  obtain ⟨plain, small, different⟩ := folded
  have none : identifier.count (ahead ++ ['\u0130']) = 0 := by
    refine count_eq_zero_of_not_alike (by simp [split]) fun matched => different ?_
    rw [split] at matched
    simp only [Alike, List.map_append, List.append_cancel_left_eq] at matched
    exact (List.cons.inj matched).1
  obtain ⟨shownAhead, shownLast, whole, left, right⟩ :=
    (lowered_prepared (ahead ++ ['\u0130'])).of_append
  obtain rfl : shownLast = ['i', '\u0307'] := by
    cases right with
    | dotted rest =>
        cases rest
        rfl
    | plain apart => exact absurd rfl apart
  have shownMatch : Alike (shownAhead ++ ['i']) identifier.lowered.chars := by
    have i : foldChar 'i' = 'i' := by decide
    rw [Alike, lowered, (lowered_lower identifier.chars).map_foldChar, split, List.map_append,
      left.map_foldChar, Lowered.folds_prepared feeds.1, Lowered.folds_append,
      Lowered.folds_single plain, small, List.map_singleton, i]
  have valid : identifier.lowered.IsValid ([] ++ (shownAhead ++ ['i']) ++ ['\u0307']) _ :=
    isValid_pieces_iff.mpr ⟨shownMatch, by decide⟩
  have same := alike (ahead ++ ['\u0130'])
  rw [CountsAlike, none, whole] at same
  rw [List.nil_append, List.append_assoc] at valid
  exact count_eq_zero_iff.mp same _ valid

def spelledOut (text : List Char) : List Char :=
  text.flatMap fun c => if c = '\u0130' then ['i', '\u0307'] else [c]

theorem folds_spelledOut {text : List Char} (single : '\n' ∉ text) :
    Lowered.folds foldPrepared (spelledOut text) = Lowered.folds foldLowered text := by
  induction text with
  | nil => simp only [spelledOut, Lowered.folds, List.flatMap_nil]
  | cons c text ih =>
      obtain ⟨apart, others⟩ := not_or.mp fun either => single (List.mem_cons.mpr either)
      have step : spelledOut (c :: text) =
          (if c = '\u0130' then ['i', '\u0307'] else [c]) ++ spelledOut text := rfl
      rw [step, Lowered.folds_append, Lowered.folds_cons, ih others]
      by_cases dotted : c = '\u0130'
      · have pair : Lowered.folds foldPrepared ['i', '\u0307'] = ['i', '\u0307'] := by
          decide
        simp only [dotted, if_true, pair]
      · simp only [dotted, if_false, Lowered.folds_single dotted,
          Lowered.foldPrepared_of_ne (Ne.symm apart)]

/-- A dotted capital I in the identifier matches the two characters that stand for it. -/
theorem not_mem_dottedCapital (alike : ∀ text, identifier.CountsAlike text) :
    '\u0130' ∉ identifier.chars := by
  intro member
  have feeds := not_mem_lineFeed alike
  refine not_countsAlike (folds_spelledOut feeds) ?_ (alike (spelledOut identifier.chars))
  have dotted : foldChar '\u0130' = '\u0130' := by decide
  refine count_eq_zero_of_absent (List.mem_map.mpr ⟨_, member, dotted⟩) fun found => ?_
  obtain ⟨c, inside, folded⟩ := List.mem_map.mp found
  obtain rfl := eq_of_foldChar_eq (by decide) folded
  obtain ⟨d, -, shown⟩ := List.mem_flatMap.mp inside
  by_cases capital : d = '\u0130'
  · simp [capital] at shown
  · simp only [if_neg capital, List.mem_singleton] at shown
    exact capital shown.symm

/-- The steady identifiers are those that are counted alike in every text. -/
theorem countsAlike_iff_steady :
    (∀ text, identifier.CountsAlike text) ↔ Steady identifier.chars := by
  constructor
  · intro alike
    exact ⟨⟨not_mem_space alike, not_mem_lineFeed alike⟩, not_isSplit alike,
      ⟨not_hasDotted alike, not_endsInI alike⟩, not_mem_dottedCapital alike⟩
  · intro steady text
    exact countsAlike_of_undisturbed (steady.undisturbed text)

end SqlColumns.Identifier
