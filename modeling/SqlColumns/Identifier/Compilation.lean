import SqlColumns.Failure
import SqlColumns.Identifier.Basic

/-!
# Patterns of identifiers

An identifier is looked for by a pattern that a library of regular expressions compiles from its
spelling. The library refuses a pattern that it finds too large, and tells why; which patterns these
are is left open here.
-/

set_option autoImplicit false

namespace SqlColumns

/-- The library that compiles patterns: what it says against the pattern of a spelling that it
refuses. -/
class PatternLibrary where
  refusal? : List Char → Option String

namespace PatternLibrary

def sizeLimit : Nat := 10 * 1024 * 1024

/-- The bytes that a character of ASCII takes in a pattern; a letter has two cases there. -/
def sizeOf (c : Char) : Nat :=
  if c.isAlpha then 80 else 32

def sizeOfPattern : List Char → Nat
  | [] => 0
  | c :: rest => sizeOf c + sizeOfPattern rest

theorem sizeOfPattern_replicate (number : Nat) (c : Char) :
    sizeOfPattern (List.replicate number c) = number * sizeOf c := by
  induction number with
  | zero => rw [Nat.zero_mul]; rfl
  | succ number ih => rw [List.replicate_succ, sizeOfPattern, ih, Nat.succ_mul, Nat.add_comm]

/-- A library that refuses what takes more than ten mebibytes. A pattern without a letter is no more
than its text, whatever its length. -/
abbrev sizeLimited : PatternLibrary where
  refusal? spelling :=
    if spelling.any Char.isAlpha && decide (sizeLimit < sizeOfPattern spelling) then
      some s!"Compiled regex exceeds size limit of {sizeLimit} bytes."
    else none

end PatternLibrary

namespace Identifier

variable [PatternLibrary] {spelling : List Char} {identifier : Identifier} {failure : Failure}

/-- The identifier of a spelling for which there is a pattern. -/
def compile (spelling : List Char) : Except Failure Identifier :=
  if nonempty : spelling ≠ [] then
    match PatternLibrary.refusal? spelling with
    | some complaint => .error (.refusedPattern (String.ofList spelling) complaint)
    | none => .ok ⟨spelling, nonempty⟩
  else .error .emptyIdentifier

/-- Why there is no identifier of a spelling: there is none to be spelled, or the library refuses its
pattern. -/
inductive Uncompiled : List Char → Failure → Prop where
  | empty : Uncompiled [] .emptyIdentifier
  | refused {spelling : List Char} {complaint : String} :
      spelling ≠ [] → PatternLibrary.refusal? spelling = some complaint →
      Uncompiled spelling (.refusedPattern (String.ofList spelling) complaint)

theorem compile_eq_ok_iff :
    compile spelling = .ok identifier ↔
      identifier.chars = spelling ∧ PatternLibrary.refusal? spelling = none := by
  obtain ⟨chars, nonempty⟩ := identifier
  unfold compile
  by_cases spelled : spelling ≠ []
  · cases refused : PatternLibrary.refusal? spelling <;> simp [spelled, eq_comm]
  · obtain rfl := Classical.not_not.mp spelled
    simp [nonempty]

theorem compile_eq_error_iff : compile spelling = .error failure ↔ Uncompiled spelling failure := by
  constructor
  · intro failed
    unfold compile at failed
    split at failed
    · next spelled =>
        split at failed
        · next complaint refused =>
            cases failed
            exact .refused spelled refused
        · cases failed
    · next empty =>
        cases failed
        rw [Classical.not_not.mp empty]
        exact .empty
  · rintro (_ | ⟨spelled, refused⟩)
    · rfl
    · simp [compile, spelled, refused]

/-- An identifier whose pattern is not refused is that of its spelling. -/
theorem compile_chars (taken : PatternLibrary.refusal? identifier.chars = none) :
    compile identifier.chars = .ok identifier :=
  compile_eq_ok_iff.mpr ⟨rfl, taken⟩

end Identifier

end SqlColumns
