import SqlColumns.Git.Branch
import SqlColumns.Proofs.Text.Case
import SqlColumns.Proofs.Text.Split

/-!
# Branch names that git accepts

The check of branch names looks at the whole name where git looks at each part between slashes: it
lets a dot in front of a part through, a dot at the end of the name, and the ending of lock files on
every part but the last one. The other rules of git hold of every accepted name, and every name of the
characters in question that git accepts is accepted.
-/

set_option autoImplicit false

namespace SqlColumns.Branch

/-- The rules of git for branch names but for those that `DotsInPlace` states. -/
structure IsNearlyRefName (name : List Char) : Prop where
  nonempty : name ≠ []
  noOption : name.head? ≠ some '-'
  parts : [] ∉ Path.segments name
  noDots : ¬ ['.', '.'] <:+: name
  noReflog : ¬ ['@', '\x7b'] <:+: name
  noForbidden : ∀ c ∈ name, isForbidden c = false
  notAt : name ≠ ['@']

/-- No part starts with a dot or ends like the name of a lock file, and the name does not end with a
dot. -/
structure DotsInPlace (name : List Char) : Prop where
  front : ∀ part ∈ Path.segments name, part.head? ≠ some '.'
  lock : ∀ part ∈ Path.segments name, ¬ lockEnding <:+ part
  ending : name.getLast? ≠ some '.'

theorem isRefName_iff {name : List Char} :
    IsRefName name ↔ IsNearlyRefName name ∧ DotsInPlace name := by
  constructor
  · intro proper
    refine ⟨⟨proper.nonempty, proper.noOption, fun empty => ?_, proper.noDots, proper.noReflog,
      proper.noForbidden, proper.notAt⟩, fun part member => ?_, fun part member => ?_,
      proper.noDotAtEnd⟩
    · exact (proper.parts [] empty).1 rfl
    · exact (proper.parts part member).2.1
    · exact (proper.parts part member).2.2
  · rintro ⟨nearly, dots⟩
    refine ⟨nearly.nonempty, nearly.noOption, fun part member => ⟨?_, ?_, ?_⟩, nearly.noDots,
      nearly.noReflog, nearly.noForbidden, dots.ending, nearly.notAt⟩
    · rintro rfl
      exact nearly.parts member
    · exact dots.front part member
    · exact dots.lock part member

theorem hasPair_eq_true_iff {first second : Char} {text : List Char} :
    hasPair first second text = true ↔ [first, second] <:+: text := by
  fun_induction hasPair first second text with
  | case1 left right rest ih =>
      have here : [first, second] <+: left :: right :: rest ↔ left = first ∧ right = second := by
        rw [List.cons_prefix_cons, List.cons_prefix_cons]
        simp [eq_comm]
      rw [Bool.or_eq_true, Bool.and_eq_true, beq_iff_eq, beq_iff_eq, ih,
        List.infix_cons_iff (a := left), here]
  | case2 text short =>
      constructor
      · intro found
        cases found
      · intro inside
        have long := inside.length_le
        cases text with
        | nil => simp at long
        | cons c text =>
            cases text with
            | nil => simp at long
            | cons d text => exact absurd rfl (short c d text)

theorem ascii_of_isNameChar {c : Char} (named : isNameChar c = true) : c.toNat < 0x80 := by
  simp only [isNameChar, Bool.or_eq_true, beq_iff_eq] at named
  rcases named with (((letter | rfl) | rfl) | rfl) | rfl
  · exact Text.ascii_of_isAlphanum letter
  all_goals decide

private theorem ascii_not_forbidden : ∀ code < 0x80, isNameChar (Char.ofNat code) = true →
    isForbidden (Char.ofNat code) = false ∧ Char.ofNat code ≠ '@' := by
  decide

theorem not_forbidden_of_isNameChar {c : Char} (named : isNameChar c = true) :
    isForbidden c = false ∧ c ≠ '@' := by
  obtain ⟨code, small, rfl⟩ := Text.exists_eq_ofNat_of_ascii (ascii_of_isNameChar named)
  exact ascii_not_forbidden code small named

/-- What the check asks for, in the words of the rules of git. -/
theorem check_eq_ok_iff {name : String} :
    Branch.check name = .ok () ↔ IsNearlyRefName name.toList ∧
      (∀ c ∈ name.toList, isNameChar c = true) ∧ ¬ lockEnding <:+ name.toList := by
  have asked : Branch.check name = .ok () ↔ accepted name.toList = true := by
    unfold Branch.check
    split
    · next valid => simp [valid]
    · next invalid => simp [invalid]
  rw [asked]
  simp only [accepted, Bool.and_eq_true, Bool.not_eq_eq_eq_not, Bool.not_true,
    List.isEmpty_iff, List.all_eq_true, bne_iff_ne, ← Bool.not_eq_true,
    List.isSuffixOf_iff_suffix, hasPair_eq_true_iff]
  constructor
  · rintro ⟨⟨⟨⟨⟨⟨⟨written, named⟩, noOption⟩, noStart⟩, noEnd⟩, noLock⟩, noDots⟩, noSlashes⟩
    have noAt : '@' ∉ name.toList := fun member =>
      (not_forbidden_of_isNameChar (named _ member)).2 rfl
    refine ⟨⟨written, noOption, fun empty => ?_, noDots, fun reflog => noAt ?_, fun c member => ?_,
      fun whole => noAt ?_⟩, named, noLock⟩
    · rcases Text.nil_mem_split_iff.mp empty with none | start | ending | slashes
      · exact written none
      · exact noStart start
      · exact noEnd ending
      · exact noSlashes slashes
    · exact reflog.subset List.mem_cons_self
    · exact (not_forbidden_of_isNameChar (named c member)).1
    · rw [whole]
      exact List.mem_cons_self
  · rintro ⟨nearly, named, noLock⟩
    have parts : ¬ (_ ∨ _) := fun empty => nearly.parts (Text.nil_mem_split_iff.mpr empty)
    simp only [not_or] at parts
    obtain ⟨written, noStart, noEnd, noSlashes⟩ := parts
    exact ⟨⟨⟨⟨⟨⟨⟨written, named⟩, nearly.noOption⟩, noStart⟩, noEnd⟩, noLock⟩, nearly.noDots⟩,
      noSlashes⟩

/-- Of the names that the check accepts, those with their dots in place are the names of the same
characters that git accepts; and every accepted name keeps to the other rules of git. -/
theorem accepted_isRefName_iff (name : String) :
    (Branch.check name = .ok () ∧ DotsInPlace name.toList ↔
      IsRefName name.toList ∧ ∀ c ∈ name.toList, isNameChar c = true) ∧
    (Branch.check name = .ok () → IsNearlyRefName name.toList) := by
  rw [check_eq_ok_iff, isRefName_iff]
  constructor
  · constructor
    · rintro ⟨⟨nearly, named, -⟩, dots⟩
      exact ⟨⟨nearly, dots⟩, named⟩
    · rintro ⟨⟨nearly, dots⟩, named⟩
      refine ⟨⟨nearly, named, fun ends => ?_⟩, dots⟩
      obtain ⟨part, member, own⟩ := Text.exists_piece_of_isSuffix (by decide : '/' ∉ lockEnding) ends
      exact dots.lock part member own
  · rintro ⟨nearly, -, -⟩
    exact nearly

/-- Accepted names, each with a dot where git allows none. -/
theorem accepted_with_misplaced_dots :
    (Branch.check "v1." = .ok () ∧ ¬ IsRefName "v1.".toList) ∧
    (Branch.check "wip/.tmp" = .ok () ∧ ¬ IsRefName "wip/.tmp".toList) ∧
    (Branch.check "a.lock/b" = .ok () ∧ ¬ IsRefName "a.lock/b".toList) := by
  refine ⟨⟨rfl, fun proper => ?_⟩, ⟨rfl, fun proper => ?_⟩, rfl, fun proper => ?_⟩
  · exact proper.noDotAtEnd (by decide)
  · exact (proper.parts ".tmp".toList (by decide)).2.1 (by decide)
  · exact (proper.parts "a.lock".toList (by decide)).2.2 (by decide)

end SqlColumns.Branch
