import SqlColumns.Text.Split

/-!
# Pieces of texts

The pieces of a text have no separator in them, and pieces without a separator that are joined by
separators are what the text that they make is cut into.
-/

set_option autoImplicit false

namespace SqlColumns.Text

theorem not_mem_of_mem_split {separator : Char} {text : List Char} :
    ∀ piece ∈ split separator text, separator ∉ piece := by
  induction text with
  | nil => simp [split]
  | cons c rest ih =>
      intro piece member
      simp only [split] at member
      split at member
      · rcases List.mem_cons.mp member with rfl | later
        · simp
        · exact ih piece later
      · next apart =>
          split at member
          · simp only [List.mem_singleton] at member
            subst member
            simpa using Ne.symm apart
          · next head tail pieces =>
              rw [pieces] at ih
              rcases List.mem_cons.mp member with rfl | later
              · simp only [List.mem_cons, not_or]
                exact ⟨Ne.symm apart, ih head List.mem_cons_self⟩
              · exact ih piece (List.mem_cons_of_mem _ later)

theorem mem_of_mem_split {separator c : Char} {text : List Char} :
    ∀ piece ∈ split separator text, c ∈ piece → c ∈ text := by
  induction text with
  | nil => simp [split]
  | cons first rest ih =>
      intro piece member inside
      simp only [split] at member
      split at member
      · rcases List.mem_cons.mp member with rfl | later
        · cases inside
        · exact List.mem_cons_of_mem _ (ih piece later inside)
      · split at member
        · rw [List.mem_singleton.mp member] at inside
          exact List.mem_cons.mpr (.inl (List.mem_singleton.mp inside))
        · next head tail pieces =>
            rw [pieces] at ih
            rcases List.mem_cons.mp member with rfl | later
            · rcases List.mem_cons.mp inside with rfl | behind
              · exact List.mem_cons_self
              · exact List.mem_cons_of_mem _ (ih head List.mem_cons_self behind)
            · exact List.mem_cons_of_mem _ (ih piece (List.mem_cons_of_mem _ later) inside)

theorem split_of_not_mem {separator : Char} {piece : List Char} (apart : separator ∉ piece) :
    split separator piece = [piece] := by
  induction piece with
  | nil => rfl
  | cons c piece ih =>
      obtain ⟨first, rest⟩ := not_or.mp fun either => apart (List.mem_cons.mpr either)
      simp only [split, if_neg (Ne.symm first), ih rest]

theorem split_append_split (separator : Char) (left right : List Char) :
    split separator (left ++ separator :: right) = split separator left ++ split separator right := by
  induction left with
  | nil => simp [split]
  | cons c left ih =>
      simp only [List.cons_append, split, ih]
      split
      · rfl
      · cases pieces : split separator left with
        | nil => exact absurd pieces (split_ne_nil separator left)
        | cons head tail => rfl

theorem split_intercalate {separator : Char} {pieces : List (List Char)} (some : pieces ≠ [])
    (apart : ∀ piece ∈ pieces, separator ∉ piece) :
    split separator ([separator].intercalate pieces) = pieces := by
  induction pieces with
  | nil => exact absurd rfl some
  | cons piece rest ih =>
      cases rest with
      | nil =>
          rw [List.intercalate_singleton]
          exact split_of_not_mem (apart piece List.mem_cons_self)
      | cons second others =>
          have behind := ih (List.cons_ne_nil _ _) fun one member =>
            apart one (List.mem_cons_of_mem _ member)
          rw [List.intercalate_cons_cons, List.append_assoc, List.singleton_append,
            split_append_split, split_of_not_mem (apart piece List.mem_cons_self), behind,
            List.singleton_append]

theorem intercalate_split (separator : Char) (text : List Char) :
    [separator].intercalate (split separator text) = text := by
  induction text with
  | nil => rfl
  | cons c rest ih =>
      cases pieces : split separator rest with
      | nil => exact absurd pieces (split_ne_nil separator rest)
      | cons head tail =>
          rw [pieces] at ih
          simp only [split, pieces]
          split
          · next same => rw [List.intercalate_cons_cons, ih, same, List.nil_append]; rfl
          · cases tail with
            | nil =>
                rw [List.intercalate_singleton] at ih ⊢
                rw [ih]
            | cons second others =>
                rw [List.intercalate_cons_cons] at ih ⊢
                rw [List.cons_append, List.cons_append, ih]

theorem intercalate_append {separator : Char} {left right : List (List Char)} (leftSome : left ≠ [])
    (rightSome : right ≠ []) :
    [separator].intercalate (left ++ right) =
      [separator].intercalate left ++ separator :: [separator].intercalate right := by
  obtain ⟨next, rest, rfl⟩ := List.exists_cons_of_ne_nil rightSome
  induction left with
  | nil => exact absurd rfl leftSome
  | cons piece others ih =>
      cases others with
      | nil =>
          rw [List.intercalate_singleton, List.singleton_append, List.intercalate_cons_cons,
            List.append_assoc, List.singleton_append]
      | cons second others =>
          have behind := ih (List.cons_ne_nil _ _)
          rw [List.cons_append] at behind
          rw [List.cons_append, List.cons_append, List.intercalate_cons_cons, behind,
            List.intercalate_cons_cons]
          simp only [List.append_assoc]

/-- Where a text has an empty piece. -/
theorem nil_mem_split_iff {separator : Char} {text : List Char} :
    [] ∈ split separator text ↔ text = [] ∨ text.head? = some separator ∨
      text.getLast? = some separator ∨ [separator, separator] <:+: text := by
  constructor
  · intro member
    obtain ⟨before, behind, pieces⟩ := List.append_of_mem member
    have whole := intercalate_split separator text
    rw [pieces] at whole
    subst whole
    by_cases first : before = []
    · subst first
      cases behind with
      | nil => exact .inl rfl
      | cons next behind => exact .inr (.inl rfl)
    · rw [intercalate_append first (List.cons_ne_nil _ _)]
      cases behind with
      | nil => exact .inr (.inr (.inl List.getLast?_concat))
      | cons next behind =>
          have pair : [separator, separator] <:+: _ := ⟨[separator].intercalate before,
            [separator].intercalate (next :: behind), rfl⟩
          refine .inr (.inr (.inr ?_))
          simpa [List.intercalate_cons_cons] using pair
  · have start : ∀ rest, [] ∈ split separator (separator :: rest) := by
      intro rest
      rw [split, if_pos rfl]
      exact List.mem_cons_self
    rintro (rfl | first | last | ⟨ahead, behind, rfl⟩)
    · exact List.mem_cons_self
    · obtain ⟨rest, rfl⟩ := List.head?_eq_some_iff.mp first
      exact start rest
    · obtain ⟨front, rfl⟩ := List.getLast?_eq_some_iff.mp last
      rw [split_append_split]
      exact List.mem_append_right _ List.mem_cons_self
    · rw [List.append_assoc, List.cons_append, List.singleton_append, split_append_split]
      exact List.mem_append_right _ (start behind)

/-- An ending without a separator in it is the ending of a piece. -/
theorem exists_piece_of_isSuffix {separator : Char} {ending text : List Char}
    (apart : separator ∉ ending) (ends : ending <:+ text) :
    ∃ piece ∈ split separator text, ending <:+ piece := by
  obtain ⟨front, rfl⟩ := ends
  induction front with
  | nil =>
      rw [List.nil_append, split_of_not_mem apart]
      exact ⟨ending, List.mem_cons_self, List.suffix_rfl⟩
  | cons c front ih =>
      obtain ⟨piece, member, own⟩ := ih
      rw [List.cons_append, split]
      split
      · exact ⟨piece, List.mem_cons_of_mem _ member, own⟩
      · cases pieces : split separator (front ++ ending) with
        | nil => exact absurd pieces (split_ne_nil separator _)
        | cons head tail =>
            rw [pieces] at member
            rcases List.mem_cons.mp member with rfl | later
            · exact ⟨c :: piece, List.mem_cons_self, own.trans (List.suffix_cons c piece)⟩
            · exact ⟨piece, List.mem_cons_of_mem _ later, own⟩

end SqlColumns.Text
