import Mathlib.Data.List.Chain

/-!
# Blocks between blank lines

A text can be cut at its blank lines. Blocks without blank lines that neither start nor end with a line
feed are what the text that is made of them is cut into.
-/

set_option autoImplicit false

namespace SqlColumns.Text

/-- The pieces of a text between two line feeds that follow each other, from the left. -/
def splitBlocks : List Char → List (List Char)
  | [] => [[]]
  | '\n' :: '\n' :: rest => [] :: splitBlocks rest
  | c :: rest =>
      match splitBlocks rest with
      | [] => [[c]]
      | head :: tail => (c :: head) :: tail

def Apart (left right : Char) : Prop :=
  ¬ (left = '\n' ∧ right = '\n')

/-- A text without blank lines that neither starts nor ends with a line feed. -/
structure IsBlock (text : List Char) : Prop where
  apart : text.IsChain Apart
  first : text.head? ≠ some '\n'
  last : text.getLast? ≠ some '\n'

variable {text left right : List Char} {c : Char}

theorem isBlock_of_not_mem (single : '\n' ∉ text) : IsBlock text where
  apart := by
    induction text with
    | nil => exact .nil
    | cons c rest ih =>
        obtain ⟨own, others⟩ := not_or.mp fun either => single (List.mem_cons.mpr either)
        exact List.isChain_cons.mpr ⟨fun _ _ both => own both.1.symm, ih others⟩
  first same := single (List.mem_of_head? same)
  last same := single (List.mem_of_getLast? same)

theorem IsBlock.append (before : IsBlock left) (behind : IsBlock right) :
    IsBlock (left ++ right) where
  apart := before.apart.append behind.apart fun _ ends _ _ both => before.last (both.1 ▸ ends)
  first same := by
    rw [List.head?_append] at same
    cases own : left.head? with
    | none =>
        rw [own, Option.none_or] at same
        exact behind.first same
    | some c =>
        rw [own, Option.some_or] at same
        exact before.first (own.trans same)
  last same := by
    rw [List.getLast?_append] at same
    cases own : right.getLast? with
    | none =>
        rw [own, Option.none_or] at same
        exact before.last same
    | some c =>
        rw [own, Option.some_or] at same
        exact behind.last (own.trans same)

/-- A single line feed between two blocks that are not empty makes one block of them. -/
theorem IsBlock.line (before : IsBlock left) (behind : IsBlock right) (written : left ≠ [])
    (more : right ≠ []) : IsBlock (left ++ '\n' :: right) where
  apart := by
    refine before.apart.append (List.isChain_cons.mpr ⟨fun _ starts both => ?_, behind.apart⟩)
      fun _ ends _ _ both => before.last (both.1 ▸ ends)
    exact behind.first (both.2 ▸ starts)
  first same := by
    obtain ⟨c, rest, rfl⟩ := List.exists_cons_of_ne_nil written
    exact before.first same
  last same := by
    obtain ⟨c, rest, rfl⟩ := List.exists_cons_of_ne_nil more
    rw [List.getLast?_append, List.getLast?_cons_cons] at same
    cases own : (c :: rest).getLast? with
    | none => simp at own
    | some last =>
        rw [own, Option.some_or] at same
        exact behind.last (own.trans same)

theorem splitBlocks_cons {head : List Char} {tail : List (List Char)}
    (apart : ¬ (c = '\n' ∧ text.head? = some '\n')) (others : splitBlocks text = head :: tail) :
    splitBlocks (c :: text) = (c :: head) :: tail := by
  rw [splitBlocks]
  · rw [others]
  · rintro rest rfl rfl
    exact apart ⟨rfl, rfl⟩

theorem IsBlock.splitBlocks_eq (block : IsBlock text) : splitBlocks text = [text] := by
  have chain := block.apart
  clear block
  induction text with
  | nil => rfl
  | cons c rest ih =>
      obtain ⟨first, others⟩ := List.isChain_cons.mp chain
      exact splitBlocks_cons (fun both => first _ both.2 ⟨both.1, rfl⟩) (ih others)

theorem IsBlock.splitBlocks_append (block : IsBlock text) (rest : List Char) :
    splitBlocks (text ++ '\n' :: '\n' :: rest) = text :: splitBlocks rest := by
  have chain := block.apart
  have last := block.last
  clear block
  induction text with
  | nil => rfl
  | cons c text ih =>
      obtain ⟨first, others⟩ := List.isChain_cons.mp chain
      refine splitBlocks_cons ?_ (ih others ?_)
      · rintro ⟨rfl, same⟩
        cases text with
        | nil => exact last rfl
        | cons next text => exact first next rfl ⟨rfl, Option.some.inj same⟩
      · intro same
        cases text with
        | nil => cases same
        | cons next text => exact last (List.getLast?_cons_cons.trans same)

/-- Blocks with blank lines between them are what the whole is cut into. -/
theorem splitBlocks_intercalate {blocks : List (List Char)} (some : blocks ≠ [])
    (all : ∀ block ∈ blocks, IsBlock block) :
    splitBlocks (['\n', '\n'].intercalate blocks) = blocks := by
  induction blocks with
  | nil => exact absurd rfl some
  | cons block rest ih =>
      obtain ⟨own, others⟩ := List.forall_mem_cons.mp all
      cases rest with
      | nil =>
          rw [List.intercalate_singleton]
          exact own.splitBlocks_eq
      | cons second more =>
          rw [List.intercalate_cons_cons, List.append_assoc, List.cons_append, List.singleton_append,
            own.splitBlocks_append, ih (List.cons_ne_nil _ _) others]

end SqlColumns.Text
