import SqlColumns.Proofs.Identifier.Steady
import SqlColumns.Proofs.Rename.Sequence

/-!
# Counts and replacements

A scan counts an identifier in lower case, in a text in lower case and on one line; a renaming
replaces it as it is spelled, in the text as it stands. Both numbers are the same unless the
identifier and the text disturb each other, and an identifier that nothing can disturb is one for
which they are the same in every text.
-/

set_option autoImplicit false

namespace SqlColumns

open Identifier Text

section

variable [PatternLibrary]

/-!
## The two numbers
-/

/-- For every file with this text, whatever else is scanned with a pattern that is taken and whatever
the new name is, the number that a scan reports for the identifier in the file is the number of
replacements that a renaming in the file reports. -/
def Agree (spelling : String) (text : List Char) : Prop :=
  ∀ (files : FileSystem) (path : Path) (location : Location),
    files.HoldsText path location text →
    ∀ (set : TargetSet), spelling ∈ set.identifiers → Scan.Taken set.identifiers →
    ∀ (new : String) (dryRun : Bool),
      ∃ report, (applyRenamings files [⟨spelling, new, path⟩] dryRun).1 = .ok report ∧
        (∃ one, scanFiles files [path] set = .ok [one] ∧ one.path = path) ∧
        ∀ paths counts, scanFiles files paths set = .ok counts → ∀ one ∈ counts, one.path = path →
          (one.counts.get? spelling).getD 0 = report.totalReplacements

def singleFile (text : List Char) : FileSystem :=
  ⟨[(["a"], .file (Text.encode text))], [], [], by simp⟩

omit [PatternLibrary] in
theorem singleFile_holdsText (text : List Char) :
    (singleFile text).HoldsText ⟨"a"⟩ ["a"] text where
  located := by cbv
  holds := rfl

theorem agree_iff_countsAlike {spelling : String} (written : isBlankString spelling = false)
    {identifier : Identifier} (built : Identifier.compile spelling.toList = .ok identifier)
    (taken : PatternLibrary.refusal? (lower spelling.toList) = none)
    (text : List Char) : Agree spelling text ↔ identifier.CountsAlike text := by
  have spelled : identifier.lowered.chars = lower spelling.toList :=
    congrArg lower (compile_eq_ok_iff.mp built).1
  constructor
  · intro agree
    have holds := singleFile_holdsText text
    have member : spelling ∈ (TargetSet.mk "" [spelling]).identifiers := List.mem_cons_self
    have alone : Scan.Taken (TargetSet.mk "" [spelling]).identifiers := by
      intro other member _
      rw [List.mem_singleton.mp member]
      exact taken
    obtain ⟨report, renamed, ⟨one, scanned, here⟩, same⟩ :=
      agree _ _ _ holds _ member alone "" true
    obtain ⟨after, renamedToo⟩ := applyRenamings_single holds built "" true
    rw [renamedToo] at renamed
    cases renamed
    obtain ⟨-, counted⟩ := scanFiles_spec (TextFile.read_of_holdsText holds) member alone written
      identifier.lowered spelled
    have replacements := same _ _ scanned one List.mem_cons_self here
    rw [counted _ _ scanned one List.mem_cons_self here] at replacements
    exact replacements
  · intro alike files path location holds set member all new dryRun
    obtain ⟨after, renamed⟩ := applyRenamings_single holds built new dryRun
    obtain ⟨scanned, counted⟩ := scanFiles_spec (TextFile.read_of_holdsText holds) member all written
      identifier.lowered spelled
    refine ⟨_, congrArg Prod.fst renamed, scanned, fun paths counts result one inside here => ?_⟩
    rw [counted paths counts result one inside here]
    exact alike

/-- A scan and a renaming agree on an identifier that is not blank and whose patterns are taken wherever
neither the identifier nor the text disturbs the other; and the steady identifiers are those on which
they agree in every text. -/
theorem scan_agrees_with_renaming {spelling : String} (written : isBlankString spelling = false)
    (taken : PatternLibrary.refusal? spelling.toList = none)
    (takenLower : PatternLibrary.refusal? (lower spelling.toList) = none) :
    (∀ text, Undisturbed spelling.toList text → Agree spelling text) ∧
      ((∀ text, Agree spelling text) ↔ Steady spelling.toList) := by
  let identifier : Identifier := ⟨spelling.toList, Scan.ne_nil_of_not_blank written⟩
  have built : Identifier.compile spelling.toList = .ok identifier :=
    compile_eq_ok_iff.mpr ⟨rfl, taken⟩
  constructor
  · intro text undisturbed
    have undisturbed : Undisturbed identifier.chars text := undisturbed
    exact (agree_iff_countsAlike written built takenLower text).mpr
      (countsAlike_of_undisturbed undisturbed)
  · simp only [agree_iff_countsAlike written built takenLower]
    exact countsAlike_iff_steady

end

section

attribute [local instance] PatternLibrary.sizeLimited

/-- Both numbers agree on a word in every text, and not on two words with a space between them. -/
theorem scan_agrees_with_renaming_on_words :
    isBlankString "order_no" = false ∧ (∀ text, Agree "order_no" text) ∧
      isBlankString "order no" = false ∧ ¬ ∀ text, Agree "order no" text := by
  have one : isBlankString "order_no" = false := by decide
  have ascii : ∀ c ∈ "order_no".toList, c.toNat < 0x80 := by simp
  have two : isBlankString "order no" = false := by decide
  refine ⟨one, (scan_agrees_with_renaming one (by decide) (by decide)).2.mpr
    (steady_of_ascii ascii (by decide) (by decide)), two, fun agree => ?_⟩
  have steady := (scan_agrees_with_renaming two (by decide) (by decide)).2.mp agree
  exact steady.lines.1 (by decide)

end

end SqlColumns
