import Mathlib.Data.List.Basic

/-!
# First appearances

Of values that come one after another, only the first of those that are alike is kept, in the order in
which they came. What comes later changes nothing about what is kept already.
-/

set_option autoImplicit false

namespace SqlColumns

/-- What is kept of values that come one after another when, of those that are alike, only the first
is kept where it came. -/
structure FirstAppearances {α : Type} [DecidableEq α] (alike : α → α → Prop) [DecidableRel alike]
    (all kept : List α) : Prop where
  distinct : kept.Pairwise fun left right => ¬ alike left right
  covers : ∀ one ∈ all, ∃ first ∈ kept, alike first one
  first : ∀ one ∈ kept, all.find? (fun other => decide (alike other one)) = some one
  ordered : kept.Pairwise fun left right => all.idxOf left < all.idxOf right

namespace FirstAppearances

variable {α : Type} [DecidableEq α] {alike : α → α → Prop} [DecidableRel alike] {all kept : List α}
  {one : α}

theorem nil : FirstAppearances alike [] [] :=
  ⟨.nil, by simp, by simp, .nil⟩

theorem mem (appeared : FirstAppearances alike all kept) (member : one ∈ kept) : one ∈ all :=
  List.mem_of_find?_eq_some (appeared.first one member)

/-- What comes later moves nothing that came before it. -/
theorem ordered_append (appeared : FirstAppearances alike all kept) (more : List α) :
    kept.Pairwise fun left right => (all ++ more).idxOf left < (all ++ more).idxOf right := by
  refine appeared.ordered.imp_of_mem fun left right before => ?_
  rw [List.idxOf_append_of_mem (appeared.mem left), List.idxOf_append_of_mem (appeared.mem right)]
  exact before

/-- A value like one that came before leaves what is kept as it is. -/
theorem again (appeared : FirstAppearances alike all kept) (old : ∃ first ∈ kept, alike first one) :
    FirstAppearances alike (all ++ [one]) kept where
  distinct := appeared.distinct
  covers other member := by
    rcases List.mem_append.mp member with before | last
    · exact appeared.covers other before
    · exact List.mem_singleton.mp last ▸ old
  first other member := by
    rw [List.find?_append, appeared.first other member, Option.some_or]
  ordered := appeared.ordered_append [one]

/-- A value unlike all that came before is kept behind them. -/
theorem new (appeared : FirstAppearances alike all kept) (equivalence : Equivalence alike)
    (unlike : ¬ ∃ first ∈ kept, alike first one) :
    FirstAppearances alike (all ++ [one]) (kept ++ [one]) := by
  have apart : ∀ other ∈ all, ¬ alike other one := by
    intro other member same
    obtain ⟨first, among, early⟩ := appeared.covers other member
    exact unlike ⟨first, among, equivalence.trans early same⟩
  have absent : one ∉ all := fun member => apart one member (equivalence.refl one)
  refine ⟨?_, fun other member => ?_, fun other member => ?_, ?_⟩
  · refine List.pairwise_append.mpr ⟨appeared.distinct, List.pairwise_singleton _ _, ?_⟩
    intro other among last here
    rw [List.mem_singleton.mp here]
    exact fun same => unlike ⟨other, among, same⟩
  · rcases List.mem_append.mp member with before | last
    · obtain ⟨first, among, same⟩ := appeared.covers other before
      exact ⟨first, List.mem_append_left _ among, same⟩
    · refine ⟨one, List.mem_append_right _ (List.mem_singleton.mpr rfl), ?_⟩
      exact List.mem_singleton.mp last ▸ equivalence.refl one
  · rw [List.find?_append]
    rcases List.mem_append.mp member with before | last
    · rw [appeared.first other before, Option.some_or]
    · obtain rfl := List.mem_singleton.mp last
      have none : all.find? (fun one => decide (alike one other)) = none :=
        List.find?_eq_none.mpr fun one among same => apart one among (of_decide_eq_true same)
      rw [none, Option.none_or]
      exact List.find?_cons_of_pos (decide_eq_true (equivalence.refl other))
  · refine List.pairwise_append.mpr ⟨appeared.ordered_append [one], List.pairwise_singleton _ _, ?_⟩
    intro other among last here
    rw [List.mem_singleton.mp here, List.idxOf_append_of_mem (appeared.mem among),
      List.idxOf_append_of_notMem absent]
    exact Nat.lt_add_right _ (List.idxOf_lt_length_iff.mpr (appeared.mem among))

end FirstAppearances

end SqlColumns
