import SqlColumns.Proofs.Json.RoundTrip
import SqlColumns.Proofs.Text.Blocks

/-!
# Lines of printed values

A line feed in a string is escaped, so the compact text of a value is a single line. The pretty text
has line feeds, but only between parts, and so never a blank line.
-/

set_option autoImplicit false

namespace SqlColumns.Json

open Text

theorem hexDigit_ne_lineFeed (value : Nat) : hexDigit value ≠ '\n' := by
  have digits : ∀ digit < 16, Nat.digitChar digit ≠ '\n' := by decide
  exact digits (value % 16) (Nat.mod_lt _ (by decide))

theorem lineFeed_not_mem_escapeChar (c : Char) : '\n' ∉ escapeChar c := by
  by_cases lineFeed : c = '\n'
  · subst lineFeed
    decide
  · have other := fun value => (hexDigit_ne_lineFeed value).symm
    unfold escapeChar
    repeat' split
    all_goals simp [Ne.symm lineFeed, other]

theorem lineFeed_not_mem_stringChars (value : String) : '\n' ∉ stringChars value := by
  simp only [stringChars, List.mem_cons, List.mem_append, List.mem_flatMap]
  rintro ((quote | ⟨c, -, inside⟩) | quote)
  · cases quote
  · exact lineFeed_not_mem_escapeChar c inside
  · simp at quote

theorem lineFeed_not_mem_natChars (value : Nat) : '\n' ∉ natChars value := by
  intro member
  have digit := isDigit_of_mem_natChars member
  exact absurd digit (by decide)

theorem lineFeed_not_mem_intChars (value : Int) : '\n' ∉ intChars value := by
  cases value with
  | ofNat value => exact lineFeed_not_mem_natChars value
  | negSucc value => simp [intChars, lineFeed_not_mem_natChars]

/-!
## Compact texts
-/

mutual

theorem lineFeed_not_mem_compactChars (value : Json) : '\n' ∉ compactChars value := by
  match value with
  | .null | .bool true | .bool false => simp [compactChars]
  | .number value => exact lineFeed_not_mem_intChars value
  | .string value => exact lineFeed_not_mem_stringChars value
  | .array items => simp [compactChars, lineFeed_not_mem_compactItems items]
  | .object members => simp [compactChars, lineFeed_not_mem_compactMembers members]

theorem lineFeed_not_mem_compactItems (items : List Json) : '\n' ∉ compactItems items := by
  match items with
  | [] => simp [compactItems]
  | [item] => simp [compactItems, lineFeed_not_mem_compactChars item]
  | item :: next :: items =>
      simp [compactItems, lineFeed_not_mem_compactChars item,
        lineFeed_not_mem_compactItems (next :: items)]

theorem lineFeed_not_mem_compactMembers (members : List (String × Json)) :
    '\n' ∉ compactMembers members := by
  match members with
  | [] => simp [compactMembers]
  | [(key, value)] =>
      simp [compactMembers, lineFeed_not_mem_stringChars, lineFeed_not_mem_compactChars value]
  | (key, value) :: next :: members =>
      simp [compactMembers, lineFeed_not_mem_stringChars, lineFeed_not_mem_compactChars value,
        lineFeed_not_mem_compactMembers (next :: members)]

end

/-!
## Pretty texts
-/

/-- A line that is broken off behind a block and goes on with a block makes one block. -/
theorem isBlock_lineBreak {left right : List Char} (level : Nat) (before : IsBlock left)
    (behind : IsBlock right) (written : left ≠ []) (more : right ≠ []) :
    IsBlock (left ++ lineBreak level ++ right) := by
  have blanks : IsBlock (List.replicate (2 * level) ' ') :=
    isBlock_of_not_mem fun member => absurd (List.eq_of_mem_replicate member) (by decide)
  rw [lineBreak, List.append_assoc, List.cons_append]
  exact before.line (blanks.append behind) written (by simp [more])

theorem isBlock_character {c : Char} (other : c ≠ '\n') : IsBlock [c] :=
  isBlock_of_not_mem (by simpa using other.symm)

theorem isBlock_member (key : String) {text : List Char} (block : IsBlock text) :
    IsBlock (stringChars key ++ ':' :: ' ' :: text) := by
  have colon : IsBlock [':', ' '] := isBlock_of_not_mem (by decide)
  exact (isBlock_of_not_mem (lineFeed_not_mem_stringChars key)).append (colon.append block)

theorem prettyChars_ne_nil (level : Nat) (value : Json) : prettyChars level value ≠ [] := by
  obtain ⟨c, more, own, -⟩ := spacedChars_cons prettily level value
  rw [prettyChars_eq_spacedChars, own]
  exact List.cons_ne_nil c more

/-!
What stands before items and members is taken along, since each of them starts with a line break.
-/

mutual

theorem isBlock_prettyChars (level : Nat) (value : Json) : IsBlock (prettyChars level value) := by
  match value with
  | .null | .bool true | .bool false | .array [] | .object [] =>
      exact isBlock_of_not_mem (by simp [prettyChars])
  | .number value => exact isBlock_of_not_mem (lineFeed_not_mem_intChars value)
  | .string value => exact isBlock_of_not_mem (lineFeed_not_mem_stringChars value)
  | .array (item :: items) =>
      have opened := isBlock_prettyItems (level + 1) (item :: items) (List.cons_ne_nil _ _)
        (isBlock_character (show '[' ≠ '\n' by decide)) (List.cons_ne_nil _ _)
      exact isBlock_lineBreak level opened (isBlock_character (by decide)) (List.cons_ne_nil _ _)
        (List.cons_ne_nil _ _)
  | .object (member :: members) =>
      have opened := isBlock_prettyMembers (level + 1) (member :: members) (List.cons_ne_nil _ _)
        (isBlock_character (show '{' ≠ '\n' by decide)) (List.cons_ne_nil _ _)
      exact isBlock_lineBreak level opened (isBlock_character (by decide)) (List.cons_ne_nil _ _)
        (List.cons_ne_nil _ _)

theorem isBlock_prettyItems (level : Nat) (items : List Json) (some : items ≠ [])
    {left : List Char} (before : IsBlock left) (written : left ≠ []) :
    IsBlock (left ++ prettyItems level items) := by
  match items with
  | [] => exact absurd rfl some
  | [item] =>
      rw [prettyItems, ← List.append_assoc]
      exact isBlock_lineBreak level before (isBlock_prettyChars level item) written
        (prettyChars_ne_nil level item)
  | item :: next :: items =>
      rw [prettyItems, ← List.append_assoc, ← List.append_assoc, List.append_cons]
      · have first := isBlock_lineBreak level before (isBlock_prettyChars level item) written
          (prettyChars_ne_nil level item)
        exact isBlock_prettyItems level (next :: items) (List.cons_ne_nil _ _)
          (first.append (isBlock_character (by decide))) (by simp)
      · simp

theorem isBlock_prettyMembers (level : Nat) (members : List (String × Json)) (some : members ≠ [])
    {left : List Char} (before : IsBlock left) (written : left ≠ []) :
    IsBlock (left ++ prettyMembers level members) := by
  match members with
  | [] => exact absurd rfl some
  | [(key, value)] =>
      rw [prettyMembers, List.append_assoc, ← List.append_assoc]
      exact isBlock_lineBreak level before (isBlock_member key (isBlock_prettyChars level value))
        written (by simp)
  | (key, value) :: next :: members =>
      have first := isBlock_lineBreak level before
        (isBlock_member key (isBlock_prettyChars level value)) written (by simp)
      have others := isBlock_prettyMembers level (next :: members) (List.cons_ne_nil _ _)
        (first.append (isBlock_character (show ',' ≠ '\n' by decide))) (by simp)
      rw [prettyMembers]
      · simpa only [List.append_assoc, List.cons_append, List.nil_append] using others
      · simp

end

end SqlColumns.Json
