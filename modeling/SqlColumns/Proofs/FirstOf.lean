import Mathlib.Data.List.Basic

/-!
# The first of several values

A search in order stops at the first value that it looks for. What it passes over says where.
-/

set_option autoImplicit false

namespace SqlColumns

/-- The first of some values for which something holds, and the values in front of it. -/
inductive FirstOf {α : Type} (holds : α → Prop) : List α → List α → α → Prop where
  | head {value : α} {rest : List α} : holds value → FirstOf holds (value :: rest) [] value
  | cons {one value : α} {values front : List α} :
      ¬ holds one → FirstOf holds values front value →
      FirstOf holds (one :: values) (one :: front) value

namespace FirstOf

variable {α : Type} {holds : α → Prop} {values front : List α} {value : α}

theorem own (first : FirstOf holds values front value) : holds value := by
  induction first with
  | head own => exact own
  | cons passed first ih => exact ih

theorem mem (first : FirstOf holds values front value) : value ∈ values := by
  induction first with
  | head own => exact List.mem_cons_self
  | cons passed first ih => exact List.mem_cons_of_mem _ ih

theorem exists_of_mem (holds : α → Prop) (member : value ∈ values) (own : holds value) :
    ∃ front first, FirstOf holds values front first := by
  induction values with
  | nil => cases member
  | cons one rest ih =>
      by_cases here : holds one
      · exact ⟨[], one, .head here⟩
      · rcases List.mem_cons.mp member with rfl | later
        · exact absurd own here
        · obtain ⟨front, first, found⟩ := ih later
          exact ⟨one :: front, first, .cons here found⟩

theorem findIdx?_eq {test : α → Bool} (first : FirstOf (test · = true) values front value) :
    values.findIdx? test = some front.length := by
  induction first with
  | head own => rw [List.findIdx?_cons, if_pos own, List.length_nil]
  | cons passed first ih =>
      rw [List.findIdx?_cons, if_neg passed, ih, Option.map_some, List.length_cons]

end FirstOf

end SqlColumns
