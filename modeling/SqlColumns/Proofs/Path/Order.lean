import Mathlib.Data.List.Lex
import SqlColumns.Proofs.Path

/-!
# Order of paths

Paths come in the order of their components, at the first that differs, and a path before those that
go on behind it. Only paths of the same components have none between them that comes first.
-/

set_option autoImplicit false

namespace SqlColumns

namespace Path

/-!
## Order of components
-/

theorem Component.precedes_irrefl (one : Component) : ¬ one.precedes one = true := by
  cases one with
  | name text =>
      intro before
      exact String.lt_irrefl text (of_decide_eq_true before)
  | _ => exact Bool.false_ne_true

theorem Component.precedes_trans {first second third : Component}
    (left : first.precedes second = true) (right : second.precedes third = true) :
    first.precedes third = true := by
  cases first <;> cases second <;> cases third <;> simp only [precedes, reduceCtorEq] at left right ⊢
  exact decide_eq_true (String.lt_trans (of_decide_eq_true left) (of_decide_eq_true right))

theorem Component.precedes_or_precedes {left right : Component} (differ : left ≠ right) :
    left.precedes right = true ∨ right.precedes left = true := by
  cases left with
  | name text =>
      cases right with
      | name other =>
          have apart : text ≠ other := fun same => differ (congrArg name same)
          simp only [precedes, decide_eq_true_iff]
          rcases String.le_total text other with less | less
          · exact .inl (Std.lt_of_le_of_ne less apart)
          · exact .inr (Std.lt_of_le_of_ne less apart.symm)
      | _ => exact .inr rfl
  | root => cases right <;> simp [precedes] at differ ⊢
  | here => cases right <;> simp [precedes] at differ ⊢
  | up => cases right <;> simp [precedes] at differ ⊢

/-!
## Order of paths
-/

/-- One path comes before another: component by component, in the order of a dictionary. -/
def Before (left right : Path) : Prop :=
  List.Lex (fun one other => Component.precedes one other = true) left.components
    right.components

theorem precedesOrSame_iff {lefts rights : List Component} :
    precedesOrSame lefts rights = true ↔ lefts = rights ∨
      List.Lex (fun one other => Component.precedes one other = true) lefts rights := by
  induction lefts generalizing rights with
  | nil =>
      rw [precedesOrSame]
      refine iff_of_true rfl ?_
      cases rights with
      | nil => exact .inl rfl
      | cons right rights => exact .inr .nil
  | cons left lefts ih =>
      cases rights with
      | nil =>
          rw [precedesOrSame]
          refine iff_of_false Bool.false_ne_true ?_
          rintro (same | before)
          · cases same
          · cases before
      | cons right rights =>
          rw [precedesOrSame]
          split
          · next same =>
              subst same
              rw [ih, List.cons.injEq, eq_self_iff_true, true_and]
              refine or_congr_right ⟨.cons, fun before => ?_⟩
              cases before with
              | cons later => exact later
              | rel own => exact absurd own left.precedes_irrefl
          · next differ =>
              constructor
              · intro own
                exact .inr (.rel own)
              · rintro (same | before)
                · exact absurd (List.cons.inj same).1 differ
                · cases before with
                  | cons later => exact absurd rfl differ
                  | rel own => exact own

variable {first second third : Path}

theorem le_iff : le first second = true ↔ first.Same second ∨ first.Before second :=
  precedesOrSame_iff

theorem Before.trans (left : first.Before second) (right : second.Before third) :
    first.Before third :=
  List.lex_trans Component.precedes_trans left right

theorem Before.not_same (before : first.Before second) : ¬ first.Same second := by
  intro same
  rw [Before, same] at before
  exact List.lex_irrefl Component.precedes_irrefl _ before

theorem same_or_before (left right : Path) :
    left.Same right ∨ left.Before right ∨ right.Before left := by
  unfold Same Before
  generalize left.components = lefts
  generalize right.components = rights
  induction lefts generalizing rights with
  | nil =>
      cases rights with
      | nil => exact .inl rfl
      | cons other rights => exact .inr (.inl .nil)
  | cons one lefts ih =>
      cases rights with
      | nil => exact .inr (.inr .nil)
      | cons other rights =>
          by_cases same : one = other
          · subst same
            rcases ih rights with alike | less | more
            · exact .inl (congrArg _ alike)
            · exact .inr (.inl (.cons less))
            · exact .inr (.inr (.cons more))
          · rcases Component.precedes_or_precedes same with less | more
            · exact .inr (.inl (.rel less))
            · exact .inr (.inr (.rel more))

theorem le_trans (left : le first second = true) (right : le second third = true) :
    le first third = true := by
  rw [le_iff] at left right ⊢
  rcases left with same | before
  · rcases right with again | before
    · exact .inl (Eq.trans same again)
    · rw [Before, ← same] at before
      exact .inr before
  · rcases right with same | again
    · rw [Before, same] at before
      exact .inr before
    · exact .inr (before.trans again)

theorem le_total (left right : Path) : (le left right || le right left) = true := by
  rw [Bool.or_eq_true, le_iff, le_iff]
  rcases same_or_before left right with same | less | more
  · exact .inl (.inl same)
  · exact .inl (.inr less)
  · exact .inr (.inr more)

/-- Sorted paths of different files stand in order, each before the next. -/
theorem before_mergeSort {paths : List Path} (distinct : Distinct paths) :
    (paths.mergeSort le).Pairwise Before := by
  have sorted : (paths.mergeSort le).Pairwise fun left right => le left right = true := by
    apply List.pairwise_mergeSort
    · intro first second third
      exact le_trans
    · intro first second
      exact le_total first second
  have apart : Distinct (paths.mergeSort le) := by
    refine ((List.mergeSort_perm paths le).pairwise_iff ?_).mpr distinct
    exact fun apart same => apart same.symm
  refine (sorted.and apart).imp fun both => ?_
  exact (le_iff.mp both.1).resolve_left both.2

/-- Of two lists in order, the one whose paths are all in the other is a part of it. -/
theorem sublist_of_before {fewer more : List Path} (ordered : fewer.Pairwise Before)
    (orderedToo : more.Pairwise Before) (inside : fewer ⊆ more) :
    fewer.Sublist more := by
  have nodup : ∀ {paths : List Path}, paths.Pairwise Before → paths.Nodup := by
    intro paths ordered
    refine ordered.imp fun before same => before.not_same ?_
    rw [same, Same]
  have again : (more.filter (· ∈ fewer)).Pairwise Before := orderedToo.filter _
  have same : fewer = more.filter (· ∈ fewer) := by
    refine List.Perm.eq_of_pairwise (fun one other _ _ less back => ?_) ordered again
      ((List.perm_ext_iff_of_nodup (nodup ordered) (nodup again)).mpr fun path => ?_)
    · exact absurd rfl (less.trans back).not_same
    · rw [List.mem_filter, decide_eq_true_iff]
      exact ⟨fun member => ⟨inside member, member⟩, fun both => both.2⟩
  rw [same]
  exact List.filter_sublist

end Path

end SqlColumns
