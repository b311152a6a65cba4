import Mathlib
import SqlColumns.Proofs.Identifier.Pieces
import SqlColumns.Proofs.Rename.Steps
import SqlColumns.Proofs.TextFile

/-!
# Renamings as splices

A renaming copies the bytes beside the ranges of the occurrences and puts the new name in the place of
each range. Nothing else is read or written, so a text stays as it is exactly when every range holds the
new name already.
-/

set_option autoImplicit false

namespace SqlColumns

namespace Text

/-!
## Bytes in and beside ranges
-/

def bytesIn (bytes : List UInt8) (bounds : Nat × Nat) : List UInt8 :=
  (bytes.take bounds.2).drop bounds.1

def bytesBeside (bytes : List UInt8) (start : Nat) : List (Nat × Nat) → List (List UInt8)
  | [] => [bytes.drop start]
  | bounds :: rest => bytesIn bytes (start, bounds.1) :: bytesBeside bytes bounds.2 rest

def woven : List (List UInt8) → List (List UInt8) → List UInt8
  | gap :: gaps, piece :: pieces => gap ++ piece ++ woven gaps pieces
  | gaps, _ => gaps.flatten

theorem drop_encode (ahead behind : List Char) :
    (encode (ahead ++ behind)).drop (byteLength ahead) = encode behind := by
  rw [encode_append, ← length_encode, List.drop_left]

theorem bytesIn_encode (ahead piece behind : List Char) :
    bytesIn (encode (ahead ++ (piece ++ behind)))
      (byteLength ahead, byteLength ahead + byteLength piece) = encode piece := by
  have front : byteLength ahead + byteLength piece = (encode (ahead ++ piece)).length := by
    rw [length_encode, byteLength_append]
  rw [bytesIn, ← List.append_assoc, encode_append, front, List.take_left, drop_encode]

end Text

namespace Cut

open Text

theorem bytesBeside_rangesFrom (ahead tail : List Char) (occurrences : List Occurrence) :
    bytesBeside
        (encode (ahead ++ (occurrences.flatMap (fun one => one.gap ++ one.found) ++ tail)))
        (byteLength ahead) (rangesFrom (byteLength ahead) occurrences) =
      occurrences.map (fun one => encode one.gap) ++ [encode tail] := by
  induction occurrences generalizing ahead with
  | nil => simp [rangesFrom, bytesBeside, drop_encode]
  | cons one rest ih =>
      have own := bytesIn_encode ahead one.gap
        (one.found ++ (rest.flatMap (fun one => one.gap ++ one.found) ++ tail))
      have next := ih (ahead ++ one.gap ++ one.found)
      simp only [byteLength_append, List.append_assoc] at own next
      simp only [rangesFrom, bytesBeside, List.flatMap_cons, List.append_assoc, List.map_cons,
        List.cons_append, own, Nat.add_assoc, next]

theorem bytesIn_rangesFrom (ahead tail : List Char) (occurrences : List Occurrence) :
    (rangesFrom (byteLength ahead) occurrences).map (bytesIn
        (encode (ahead ++ (occurrences.flatMap (fun one => one.gap ++ one.found) ++ tail)))) =
      occurrences.map (fun one => encode one.found) := by
  induction occurrences generalizing ahead with
  | nil => rfl
  | cons one rest ih =>
      have own := bytesIn_encode (ahead ++ one.gap) one.found
        (rest.flatMap (fun one => one.gap ++ one.found) ++ tail)
      have next := ih (ahead ++ one.gap ++ one.found)
      simp only [byteLength_append, List.append_assoc, Nat.add_assoc] at own next
      simp only [rangesFrom, List.flatMap_cons, List.append_assoc, List.map_cons, Nat.add_assoc, own,
        next]

theorem woven_occurrences (pieceOf : Occurrence → List Char) (occurrences : List Occurrence)
    (tail : List Char) :
    woven (occurrences.map (fun one => encode one.gap) ++ [encode tail])
        (occurrences.map fun one => encode (pieceOf one)) =
      encode (occurrences.flatMap (fun one => one.gap ++ pieceOf one) ++ tail) := by
  induction occurrences with
  | nil => simp [woven]
  | cons one rest ih =>
      simp only [List.map_cons, List.cons_append, woven, ih, List.flatMap_cons, encode_append,
        List.append_assoc]

theorem length_flatMap_pieces (pieceOf : Occurrence → List Char) {size : Nat}
    {occurrences : List Occurrence} (even : ∀ one ∈ occurrences, (pieceOf one).length = size) :
    (occurrences.flatMap fun one => one.gap ++ pieceOf one).length =
      (occurrences.flatMap Occurrence.gap).length + occurrences.length * size := by
  induction occurrences with
  | nil => simp
  | cons one rest ih =>
      obtain ⟨own, others⟩ := List.forall_mem_cons.mp even
      have behind := ih others
      simp only [List.flatMap_cons, List.length_append, List.length_cons, Nat.succ_mul, own] at behind ⊢
      omega

theorem flatMap_pieces_eq_iff {pieceOf otherOf : Occurrence → List Char}
    {occurrences : List Occurrence}
    (even : ∀ one ∈ occurrences, (pieceOf one).length = (otherOf one).length) :
    (occurrences.flatMap fun one => one.gap ++ pieceOf one) =
        (occurrences.flatMap fun one => one.gap ++ otherOf one) ↔
      ∀ one ∈ occurrences, pieceOf one = otherOf one := by
  induction occurrences with
  | nil => simp
  | cons one rest ih =>
      obtain ⟨own, others⟩ := List.forall_mem_cons.mp even
      rw [List.forall_mem_cons, ← ih others]
      simp only [List.flatMap_cons, List.append_assoc, List.append_cancel_left_eq]
      constructor
      · intro same
        exact List.append_inj same own
      · rintro ⟨first, behind⟩
        rw [first, behind]

theorem exists_span_of_mem (start : Nat) {occurrences : List Occurrence} {one : Occurrence}
    (member : one ∈ occurrences) :
    ∃ range ∈ spansFrom start occurrences, range.stop = range.start + one.found.length := by
  induction occurrences generalizing start with
  | nil => cases member
  | cons head rest ih =>
      rcases List.mem_cons.mp member with rfl | later
      · exact ⟨_, List.mem_cons_self, rfl⟩
      · obtain ⟨range, selected, long⟩ := ih _ later
        exact ⟨range, List.mem_cons_of_mem _ selected, long⟩

/-- Occurrences of one length are replaced by themselves only when each one is the replacement. -/
theorem replace_eq_text_iff {cut : Cut} {size : Nat} (replacement : List Char)
    (even : ∀ one ∈ cut.occurrences, one.found.length = size) :
    cut.replace replacement = cut.text ↔ ∀ one ∈ cut.occurrences, replacement = one.found := by
  have fits : replacement.length = size →
      (cut.replace replacement = cut.text ↔ ∀ one ∈ cut.occurrences, replacement = one.found) := by
    intro long
    rw [replace, text, List.append_cancel_right_eq]
    exact flatMap_pieces_eq_iff fun one member => long.trans (even one member).symm
  rcases List.eq_nil_or_concat cut.occurrences with none | ⟨front, last, some⟩
  · simp [replace, text, none]
  · have member : last ∈ cut.occurrences := by simp [some]
    constructor
    · intro same
      -- The gaps are the same in both texts, so the replacements fill what the occurrences filled.
      have lengths := congrArg List.length same
      simp only [replace, text, List.length_append, length_flatMap_pieces Occurrence.found even,
        length_flatMap_pieces (fun _ => replacement) fun _ _ => rfl] at lengths
      have filled : cut.occurrences.length * replacement.length =
          cut.occurrences.length * size := by omega
      have long := Nat.eq_of_mul_eq_mul_left (List.length_pos_of_mem member) filled
      exact (fits long).mp same
    · intro all
      have long : replacement.length = size := by rw [all last member, even last member]
      exact (fits long).mpr all

end Cut

namespace Identifier

open Text

def matched (identifier : Identifier) (text : List Char) : List (List UInt8) :=
  (identifier.ranges text).map (bytesIn (encode text))

def unmatched (identifier : Identifier) (text : List Char) : List (List UInt8) :=
  bytesBeside (encode text) 0 (identifier.ranges text)

variable (identifier : Identifier) (text replacement : List Char)

theorem matched_eq :
    identifier.matched text =
      (identifier.cut text).occurrences.map (fun one => encode one.found) := by
  have whole := Cut.bytesIn_rangesFrom [] (identifier.cut text).tail (identifier.cut text).occurrences
  have same := text_cut identifier text
  rw [Cut.text] at same
  rw [List.nil_append, same] at whole
  exact whole

theorem unmatched_eq :
    identifier.unmatched text =
      (identifier.cut text).occurrences.map (fun one => encode one.gap) ++
        [encode (identifier.cut text).tail] := by
  have whole := Cut.bytesBeside_rangesFrom [] (identifier.cut text).tail
    (identifier.cut text).occurrences
  have same := text_cut identifier text
  rw [Cut.text] at same
  rw [List.nil_append, same] at whole
  exact whole

theorem woven_matched : woven (identifier.unmatched text) (identifier.matched text) = encode text := by
  rw [matched_eq, unmatched_eq, Cut.woven_occurrences Occurrence.found]
  exact congrArg encode (text_cut identifier text)

theorem woven_replacement :
    woven (identifier.unmatched text) ((identifier.matched text).map fun _ => encode replacement) =
      encode (identifier.replaceAll text replacement) := by
  rw [matched_eq, unmatched_eq, List.map_map, replaceAll_eq_replace_cut]
  exact Cut.woven_occurrences (fun _ => replacement) _ _

theorem replaceAll?_eq_none_iff :
    identifier.replaceAll? text replacement = none ↔ identifier.count text = 0 := by
  simp [replaceAll?, count]

theorem length_found {one : Occurrence} (member : one ∈ (identifier.cut text).occurrences) :
    one.found.length = identifier.chars.length := by
  obtain ⟨range, selected, long⟩ := Cut.exists_span_of_mem 0 member
  have valid := (isGreedy_spans identifier text).valid range selected
  have stop := valid.stop_eq
  omega

theorem replaceAll_eq_self_iff :
    identifier.replaceAll text replacement = text ↔
      ∀ piece ∈ identifier.matched text, piece = encode replacement := by
  have even : ∀ one ∈ (identifier.cut text).occurrences,
      one.found.length = identifier.chars.length :=
    fun one member => length_found identifier text member
  have kept := Cut.replace_eq_text_iff replacement even
  rw [text_cut, ← replaceAll_eq_replace_cut] at kept
  rw [kept, matched_eq, List.forall_mem_map]
  constructor
  · intro all one member
    rw [all one member]
  · intro all one member
    exact (encode_inj (all one member)).symm

end Identifier

/-- A renaming puts the new name in the place of the bytes at the ranges of an identifier, as they were
before it, and keeps all bytes beside them; it hands the text back where there is no range, and changes
nothing exactly where every range holds the new name. Then, and only then, a run reports that its
renaming has changed nothing. -/
theorem replaceAll_splices [PatternLibrary] :
    (∀ (identifier : Identifier) (text replacement : List Char),
      (identifier.matched text).length = identifier.count text ∧
      (identifier.unmatched text).length = identifier.count text + 1 ∧
      Text.woven (identifier.unmatched text) (identifier.matched text) = Text.encode text ∧
      Text.woven (identifier.unmatched text)
          ((identifier.matched text).map fun _ => Text.encode replacement) =
        Text.encode (identifier.replaceAll text replacement) ∧
      (identifier.replaceAll? text replacement = none ↔ identifier.count text = 0) ∧
      (identifier.replaceAll text replacement = text ↔
        ∀ piece ∈ identifier.matched text, piece = Text.encode replacement)) ∧
    ∀ files renamings dryRun report after,
      applyRenamings files renamings dryRun = (.ok report, after) →
      ∀ before mapping behind, renamings = before ++ mapping :: behind →
        ∃ earlier draft identifier text outcome,
          Rename.Steps dryRun ⟨files, []⟩ before earlier draft ∧
          Identifier.compile mapping.old.toList = .ok identifier ∧
          draft.current mapping.file = .ok text ∧
          report.outcomes[before.length]? = some outcome ∧
          outcome.replacements = identifier.count text ∧
          (outcome.changed = false ↔
            ∀ piece ∈ identifier.matched text, piece = Text.encodeString mapping.new) := by
  constructor
  · intro identifier text replacement
    refine ⟨?_, ?_, identifier.woven_matched text, identifier.woven_replacement text replacement,
      identifier.replaceAll?_eq_none_iff text replacement,
      identifier.replaceAll_eq_self_iff text replacement⟩
    · rw [Identifier.matched_eq, List.length_map, Identifier.count]
    · rw [Identifier.unmatched_eq, List.length_append, List.length_map, Identifier.count,
        List.length_singleton]
  · rintro files renamings dryRun report after result before mapping behind rfl
    obtain ⟨last, steps, -, -⟩ := applyRenamings_eq_ok_iff.mp result
    obtain ⟨earlier, draft, identifier, text, chain, built, current, reported⟩ := steps.outcome_at
    refine ⟨earlier, draft, identifier, text, _, chain, built, current, reported, rfl, ?_⟩
    have kept := identifier.replaceAll_eq_self_iff text mapping.new.toList
    simp only [Rename.outcomeOf, bne_eq_false_iff_eq]
    exact kept

def settledText : List Char :=
  "x.id, id\u0130, \u0130id".toList

def capitalWord : Identifier := ⟨"ID".toList, by decide⟩

section

attribute [local instance] PatternLibrary.sizeLimited

/-- The new name stands at both ranges already, but for the case of a letter in the second run. -/
theorem replaceAll_splices_settledText :
    (∃ report after,
      applyRenamings (singleScript settledText) [⟨"ID", "id", ⟨"/a.sql"⟩⟩] true = (.ok report, after) ∧
      ∃ outcome, report.outcomes[0]? = some outcome ∧ outcome.replacements = 2 ∧
        outcome.changed = false) ∧
    ∃ report after,
      applyRenamings (singleScript settledText) [⟨"ID", "Id", ⟨"/a.sql"⟩⟩] true = (.ok report, after) ∧
      ∃ outcome, report.outcomes[0]? = some outcome ∧ outcome.replacements = 2 ∧
        outcome.changed = true := by
  have holds := singleScript_holdsText settledText
  have built : Identifier.compile "ID".toList = .ok capitalWord := rfl
  have counted : capitalWord.count settledText = 2 := by cbv
  have found : capitalWord.matched settledText =
      [Text.encodeString "id", Text.encodeString "id"] := by cbv
  have run : ∀ new, ∃ report after,
      applyRenamings (singleScript settledText) [⟨"ID", new, ⟨"/a.sql"⟩⟩] true =
        (.ok report, after) ∧
      ∃ outcome, report.outcomes[0]? = some outcome ∧ outcome.replacements = 2 ∧
        (outcome.changed = false ↔ Text.encodeString "id" = Text.encodeString new) := by
    intro new
    obtain ⟨after, result⟩ := applyRenamings_single holds built new true
    obtain ⟨earlier, draft, identifier, text, outcome, chain, made, current, reported, replaced,
      kept⟩ := replaceAll_splices.2 _ _ _ _ _ result [] _ [] rfl
    cases chain
    rw [built] at made
    cases made
    have read : TextFile.read (singleScript settledText) ⟨"/a.sql"⟩ = .ok text := current
    rw [TextFile.read_of_holdsText holds] at read
    cases read
    rw [found] at kept
    rw [counted] at replaced
    exact ⟨_, _, result, outcome, reported, replaced, by simpa using kept⟩
  constructor
  · obtain ⟨report, after, result, outcome, reported, replaced, kept⟩ := run "id"
    exact ⟨report, after, result, outcome, reported, replaced, kept.mpr rfl⟩
  · obtain ⟨report, after, result, outcome, reported, replaced, kept⟩ := run "Id"
    have different : Text.encodeString "id" ≠ Text.encodeString "Id" := by decide
    refine ⟨report, after, result, outcome, reported, replaced, ?_⟩
    rw [← Bool.not_eq_false]
    exact fun same => different (kept.mp same)

end

end SqlColumns
