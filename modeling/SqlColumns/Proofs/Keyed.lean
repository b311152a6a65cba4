import SqlColumns.Scan.Counts

/-!
# Values by key

Members of objects and counts of identifiers are kept in the order of their keys, one value for each
key. Both are built by the same insertion, so that what they hold is said once for it.
-/

set_option autoImplicit false

namespace SqlColumns

namespace Keyed

variable {α : Type}

/-- Puts a value in its place among values sorted by key, instead of the one with its key. -/
def insert (key : String) (value : α) : List (String × α) → List (String × α)
  | [] => [(key, value)]
  | (other, kept) :: rest =>
      if key < other then (key, value) :: (other, kept) :: rest
      else if key = other then (key, value) :: rest
      else (other, kept) :: insert key value rest

def Ordered (values : List (String × α)) : Prop :=
  values.Pairwise fun left right => left.1 < right.1

section

variable {key : String} {value : α} {values : List (String × α)}

theorem Ordered.nodup (ordered : Ordered values) : (values.map Prod.fst).Nodup := by
  refine List.pairwise_map.mpr (ordered.imp fun {left right} less same => ?_)
  rw [same] at less
  exact String.lt_irrefl _ less

/-- Values in the order of their keys are settled by what is among them. -/
theorem Ordered.eq_of_mem_iff {others : List (String × α)} (ordered : Ordered values)
    (sorted : Ordered others) (same : ∀ one, one ∈ values ↔ one ∈ others) : values = others := by
  have distinct : ∀ {list : List (String × α)}, Ordered list → list.Nodup := fun ordered =>
    (List.pairwise_map.mp ordered.nodup).imp fun apart same => apart (congrArg Prod.fst same)
  refine List.Perm.eq_of_pairwise (fun left right _ _ less more => ?_) ordered sorted
    ((List.perm_ext_iff_of_nodup (distinct ordered) (distinct sorted)).mpr same)
  exact absurd more (String.lt_asymm less)

theorem mem_insert (ordered : Ordered values) {one : String × α} :
    one ∈ insert key value values ↔ one = (key, value) ∨ one.1 ≠ key ∧ one ∈ values := by
  induction values with
  | nil => simp [insert]
  | cons head rest ih =>
      obtain ⟨other, kept⟩ := head
      obtain ⟨least, later⟩ := List.pairwise_cons.mp ordered
      have behind : one ∈ rest → other < one.1 := least one
      simp only [insert]
      split
      · next before =>
          have apart : one ∈ (other, kept) :: rest → one.1 ≠ key := by grind
          rw [List.mem_cons]
          grind
      · split
        · next same =>
            have apart : one ∈ rest → one.1 ≠ key := by grind
            simp only [List.mem_cons]
            grind
        · next different =>
            simp only [List.mem_cons, ih later]
            grind

theorem ordered_insert (key : String) (value : α) (ordered : Ordered values) :
    Ordered (insert key value values) := by
  induction values with
  | nil => exact List.pairwise_singleton _ _
  | cons head rest ih =>
      obtain ⟨other, kept⟩ := head
      obtain ⟨least, later⟩ := List.pairwise_cons.mp ordered
      simp only [insert]
      split
      · next before =>
          refine List.pairwise_cons.mpr ⟨fun one member => ?_, ordered⟩
          rcases List.mem_cons.mp member with rfl | inside
          · exact before
          · exact String.lt_trans before (least one inside)
      · next notBefore =>
          split
          · next same =>
              subst same
              exact List.pairwise_cons.mpr ⟨least, later⟩
          · next apart =>
              refine List.pairwise_cons.mpr ⟨fun one member => ?_, ih later⟩
              rcases (mem_insert later).mp member with rfl | ⟨-, inside⟩
              · grind
              · exact least one inside

end

section

variable {κ : Type} [BEq κ] [LawfulBEq κ] {key : κ} {value : α} {values : List (κ × α)}

/-- The value that is found under a key is the one that is kept there. -/
theorem find?_eq_some_iff (distinct : (values.map Prod.fst).Nodup) :
    (values.find? fun one => one.1 == key).map (·.2) = some value ↔ (key, value) ∈ values := by
  induction values with
  | nil => simp
  | cons head rest ih =>
      obtain ⟨other, kept⟩ := head
      obtain ⟨apart, later⟩ := List.nodup_cons.mp distinct
      by_cases same : other = key
      · subst same
        have absent : (other, value) ∉ rest := fun inside => apart (List.mem_map.mpr ⟨_, inside, rfl⟩)
        simp [absent, eq_comm]
      · simp [same, Ne.symm same, ih later]

/-- What is found under a key does not depend on the order of the values. -/
theorem find?_of_perm {others : List (κ × α)} (same : values.Perm others)
    (distinct : (values.map Prod.fst).Nodup) :
    (values.find? fun one => one.1 == key).map (·.2) =
      (others.find? fun one => one.1 == key).map (·.2) := by
  have apart : (others.map Prod.fst).Nodup := (same.map Prod.fst).nodup_iff.mp distinct
  refine Option.ext fun value => ?_
  rw [find?_eq_some_iff distinct, find?_eq_some_iff apart, same.mem_iff]

end

end Keyed

theorem Counts.set_eq_insert (counts : Counts) (identifier : String) (number : Nat) :
    counts.set identifier number = Keyed.insert identifier number counts := by
  induction counts with
  | nil => rfl
  | cons head rest ih => simp only [Counts.set, Keyed.insert, ih]

namespace Json

theorem insertMember_eq_insert (key : String) (value : Json) (members : List (String × Json)) :
    insertMember key value members = Keyed.insert key value members := by
  induction members with
  | nil => rfl
  | cons head rest ih => simp only [insertMember, Keyed.insert, ih]

theorem placed_spec (valueOf : String → Json) (keys : List String) {placed : List (String × Json)}
    (ordered : Keyed.Ordered placed) (own : ∀ one ∈ placed, one.2 = valueOf one.1) :
    let members := (keys.map fun key => (key, valueOf key)).foldl
      (fun placed member => insertMember member.1 member.2 placed) placed
    Keyed.Ordered members ∧ ∀ key value, (key, value) ∈ members ↔
      (key ∈ keys ∧ value = valueOf key) ∨ (key, value) ∈ placed := by
  induction keys generalizing placed with
  | nil => exact ⟨ordered, by simp⟩
  | cons key rest ih =>
      have next := Keyed.ordered_insert key (valueOf key) ordered
      -- A key that comes again has the same value, so nothing is lost when it is put in again.
      have held : ∀ one ∈ Keyed.insert key (valueOf key) placed, one.2 = valueOf one.1 := by
        intro one member
        rcases (Keyed.mem_insert ordered).mp member with rfl | ⟨-, inside⟩
        · rfl
        · exact own one inside
      obtain ⟨sorted, exact_⟩ := ih next held
      simp only [List.map_cons, List.foldl_cons, insertMember_eq_insert] at sorted exact_ ⊢
      refine ⟨sorted, fun other value => ?_⟩
      rw [exact_, Keyed.mem_insert ordered]
      have kept : (other, value) ∈ placed → value = valueOf other := own (other, value)
      grind

theorem mem_keys_iff {members : List (String × Json)} {valueOf : String → Json} {keys : List String}
    (held : ∀ key value, (key, value) ∈ members ↔ key ∈ keys ∧ value = valueOf key) (key : String) :
    key ∈ members.map Prod.fst ↔ key ∈ keys := by
  rw [List.mem_map]
  constructor
  · rintro ⟨one, among, rfl⟩
    exact ((held one.1 one.2).mp among).1
  · intro own
    exact ⟨_, (held key _).mpr ⟨own, rfl⟩, rfl⟩

/-- The object of keys that each have a value of their own holds these values in the order of the
keys, each one once. -/
theorem sorted_map (valueOf : String → Json) (keys : List String) :
    ∃ members, sorted (keys.map fun key => (key, valueOf key)) = .object members ∧
      Keyed.Ordered members ∧
      ∀ key value, (key, value) ∈ members ↔ key ∈ keys ∧ value = valueOf key := by
  have nothing : Keyed.Ordered ([] : List (String × Json)) := .nil
  obtain ⟨ordered, held⟩ := placed_spec valueOf keys nothing (by simp)
  exact ⟨_, rfl, ordered, by simpa using held⟩

end Json

end SqlColumns
