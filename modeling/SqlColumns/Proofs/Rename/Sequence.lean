import Mathlib
import SqlColumns.Proofs.Rename.Steps
import SqlColumns.Proofs.TextFile

/-!
# Renamings in sequence

A real run chains renamings through the files. Whatever the paths are called, each file ends up with
the composition of exactly those renamings that reach it, and nothing else changes.
-/

set_option autoImplicit false

namespace SqlColumns

namespace Rename

/-!
## What renamings make of texts
-/

section

variable [PatternLibrary]

def replaced (mapping : Renaming) (text : List Char) : List Char :=
  match Identifier.compile mapping.old.toList with
  | .error _ => text
  | .ok identifier => identifier.replaceAll text mapping.new.toList

def composed (renamings : List Renaming) (text : List Char) : List Char :=
  renamings.foldl (fun made mapping => replaced mapping made) text

theorem composed_append (before behind : List Renaming) (text : List Char) :
    composed (before ++ behind) text = composed behind (composed before text) :=
  List.foldl_append

end

def reaching (files : FileSystem) (location : Location) (renamings : List Renaming) :
    List Renaming :=
  renamings.filter fun mapping => (files.locate mapping.file).toOption == some location

theorem reaching_append (files : FileSystem) (location : Location)
    (before behind : List Renaming) :
    reaching files location (before ++ behind) =
      reaching files location before ++ reaching files location behind :=
  List.filter_append before behind

theorem reaching_single_of_eq {files : FileSystem} {location : Location} {mapping : Renaming}
    (located : files.locate mapping.file = .ok location) :
    reaching files location [mapping] = [mapping] := by
  simp [reaching, located, Except.toOption]

theorem reaching_single_of_ne {files : FileSystem} {location other : Location}
    {mapping : Renaming} (located : files.locate mapping.file = .ok other)
    (apart : location ≠ other) : reaching files location [mapping] = [] := by
  simp [reaching, located, Except.toOption, apart.symm]

section

variable [PatternLibrary]

/-!
## One real step
-/

/-- A real step finds the text of a file, and puts the replaced text there. -/
theorem real_step {now : FileSystem} (plain : now.IsPlain) {mapping : Renaming}
    {outcome : RenameOutcome} {next : Draft} :
    step false ⟨now, []⟩ mapping = .ok (outcome, next) →
      ∃ identifier location text, Identifier.compile mapping.old.toList = .ok identifier ∧
        now.HoldsText mapping.file location text ∧ outcome = outcomeOf mapping identifier text ∧
        next.pending = [] ∧ now.SameShape next.files ∧ next.files.modes = now.modes ∧
        next.files.entryAt? location = some (.file (Text.encode (replaced mapping text))) ∧
        ∀ other, other ≠ location → next.files.entryAt? other = now.entryAt? other := by
  intro result
  obtain ⟨identifier, text, built, current, rfl, after⟩ := step_eq_ok_iff.mp result
  obtain ⟨location, holds⟩ := (TextFile.read_eq_ok_iff plain).mp current
  have replacement : replaced mapping text = identifier.replaceAll text mapping.new.toList := by
    simp only [replaced, built]
  refine ⟨identifier, location, text, built, holds, rfl, ?_⟩
  unfold Draft.after at after
  split at after
  · next unchanged =>
      cases after
      refine ⟨rfl, .refl now, rfl, ?_, fun other apart => rfl⟩
      rw [replacement, unchanged]
      exact holds.holds
  · simp only [Draft.store, Bool.false_eq_true, if_false, TextFile.write_of_holdsText holds,
      Except.ok.injEq] at after
    subst after
    refine ⟨rfl, FileSystem.sameShape_set holds.below_root holds.holds _, rfl, ?_, ?_⟩
    · rw [replacement, FileSystem.entryAt?_set_self holds.below_root]
    · exact fun other apart => FileSystem.entryAt?_set_of_ne apart

/-- A real step fails for want of an identifier or for what reading its file fails for. -/
theorem real_step_error {now : FileSystem} (plain : now.IsPlain) {mapping : Renaming}
    {failure : Failure} :
    step false ⟨now, []⟩ mapping = .error failure ↔
      Identifier.Uncompiled mapping.old.toList failure ∨
      (∃ identifier, Identifier.compile mapping.old.toList = .ok identifier ∧
        TextFile.read now mapping.file = .error failure) := by
  rw [step_eq_error_iff]
  constructor
  · rintro (unbuilt | unreadable | ⟨identifier, text, built, current, after⟩)
    · exact .inl unbuilt
    · exact .inr unreadable
    · obtain ⟨location, holds⟩ := (TextFile.read_eq_ok_iff plain).mp current
      unfold Draft.after at after
      split at after
      · cases after
      · simp [Draft.store, TextFile.write_of_holdsText holds] at after
  · rintro (unbuilt | unreadable)
    · exact .inl unbuilt
    · exact .inr (.inl unreadable)

/-!
## Real steps in a row
-/

/-- The files that renamings have gone through: each one holds the composition of those that reach
it, and all else is untouched. -/
structure Rewritten (files : FileSystem) (renamings : List Renaming) (after : FileSystem) :
    Prop where
  shape : files.SameShape after
  modes : after.modes = files.modes
  reached : ∀ mapping ∈ renamings,
    (∃ identifier, Identifier.compile mapping.old.toList = .ok identifier) ∧
      ∃ location text, files.HoldsText mapping.file location text
  text : ∀ location text, files.entryAt? location = some (.file (Text.encode text)) →
    after.entryAt? location =
      some (.file (Text.encode (composed (reaching files location renamings) text)))
  rest : ∀ location, reaching files location renamings = [] →
    after.entryAt? location = files.entryAt? location

namespace Rewritten

variable {files now after : FileSystem} {renamings : List Renaming}

theorem none (files : FileSystem) : Rewritten files [] files where
  shape := .refl files
  modes := rfl
  reached := by simp
  text _ _ holds := holds
  rest _ _ := rfl

theorem text_before (rewritten : Rewritten files renamings after) {location : Location}
    {text : List Char} (holds : after.entryAt? location = some (.file (Text.encode text))) :
    ∃ first, files.entryAt? location = some (.file (Text.encode first)) ∧
      text = composed (reaching files location renamings) first := by
  have found : ∃ first, files.entryAt? location = some (.file (Text.encode first)) := by
    cases through : reaching files location renamings with
    | nil => exact ⟨text, (rewritten.rest location through).symm.trans holds⟩
    | cons mapping others =>
        have member : mapping ∈ reaching files location renamings := by simp [through]
        obtain ⟨inside, leads⟩ := List.mem_filter.mp member
        obtain ⟨-, other, first, located, content⟩ := rewritten.reached mapping inside
        simp only [located, Except.toOption, beq_iff_eq, Option.some.injEq] at leads
        exact ⟨first, leads ▸ content⟩
  obtain ⟨first, content⟩ := found
  have same := rewritten.text location first content
  rw [holds] at same
  exact ⟨first, content, Text.encode_inj (by simpa using same)⟩

theorem snoc (rewritten : Rewritten files renamings now) (plain : files.IsPlain)
    {mapping : Renaming} {outcome : RenameOutcome} {next : Draft}
    (first : step false ⟨now, []⟩ mapping = .ok (outcome, next)) :
    Rewritten files (renamings ++ [mapping]) next.files := by
  obtain ⟨identifier, location, text, built, holds, -, -, shape, modes, there, elsewhere⟩ :=
    real_step (plain.of_sameShape rewritten.shape) first
  obtain ⟨initial, content, rfl⟩ := rewritten.text_before holds.holds
  have located : files.locate mapping.file = .ok location :=
    (rewritten.shape.locate_eq mapping.file).trans holds.located
  constructor
  · exact rewritten.shape.trans shape
  · exact modes.trans rewritten.modes
  · intro one member
    rcases List.mem_append.mp member with earlier | last
    · exact rewritten.reached one earlier
    · obtain rfl := List.mem_singleton.mp last
      exact ⟨⟨identifier, built⟩, location, initial, located, content⟩
  · intro other before holding
    -- The last renaming is composed behind the others at its own location, and at no other one.
    rw [reaching_append, composed_append]
    by_cases same : other = location
    · subst same
      rw [content] at holding
      obtain rfl := Text.encode_inj (Entry.file.inj (Option.some.inj holding))
      rw [reaching_single_of_eq located, there]
      rfl
    · rw [reaching_single_of_ne located same, elsewhere other same]
      exact rewritten.text other before holding
  · intro other untouched
    rw [reaching_append, List.append_eq_nil_iff] at untouched
    by_cases same : other = location
    · rw [same, reaching_single_of_eq located] at untouched
      cases untouched.2
    · rw [elsewhere other same]
      exact rewritten.rest other untouched.1

end Rewritten

/-- Real steps leave every file with the composition of the renamings that reach it. -/
theorem Steps.rewritten {files : FileSystem} (plain : files.IsPlain) {done renamings : List Renaming}
    {draft last : Draft} {outcomes : List RenameOutcome}
    (steps : Steps false draft renamings outcomes last) (real : draft.pending = [])
    (earlier : Rewritten files done draft.files) :
    last.pending = [] ∧ Rewritten files (done ++ renamings) last.files := by
  induction steps generalizing done with
  | done => simpa using ⟨real, earlier⟩
  | @step draft next last mapping rest outcome outcomes first _ ih =>
      obtain ⟨now, pending⟩ := draft
      obtain rfl : pending = [] := real
      obtain ⟨_, _, _, _, _, _, empty, _⟩ := real_step (plain.of_sameShape earlier.shape) first
      have whole := ih empty (earlier.snoc plain first)
      simpa only [List.append_assoc, List.singleton_append] using whole

/-- What a real run reports of a renaming: the number of matches in the text that its file holds
just before it, whether this text changes, and the digest of what the file holds right after it. -/
structure Reported (mapping : Renaming) (before after : FileSystem) (outcome : RenameOutcome) :
    Prop where
  same : outcome.mapping = mapping
  found : ∃ identifier text, Identifier.compile mapping.old.toList = .ok identifier ∧
    TextFile.read before mapping.file = .ok text ∧
    TextFile.read after mapping.file = .ok (identifier.replaceAll text mapping.new.toList) ∧
    outcome.replacements = identifier.count text ∧
    (outcome.changed = true ↔ identifier.replaceAll text mapping.new.toList ≠ text)
  digest : ∃ bytes, after.read mapping.file = .ok bytes ∧ outcome.digest = Text.Digest.text bytes

theorem real_step_reported {now : FileSystem} (plain : now.IsPlain) {mapping : Renaming}
    {outcome : RenameOutcome} {next : Draft}
    (first : step false ⟨now, []⟩ mapping = .ok (outcome, next)) :
    Reported mapping now next.files outcome := by
  obtain ⟨identifier, location, text, built, holds, rfl, -, shape, -, there, -⟩ :=
    real_step plain first
  have made : replaced mapping text = identifier.replaceAll text mapping.new.toList := by
    simp only [replaced, built]
  rw [made] at there
  have leads : next.files.HoldsText mapping.file location
      (identifier.replaceAll text mapping.new.toList) :=
    ⟨(shape.locate_eq mapping.file).symm.trans holds.located, there⟩
  constructor
  · rfl
  · exact ⟨identifier, text, built, TextFile.read_of_holdsText holds,
      TextFile.read_of_holdsText leads, rfl, by simp [outcomeOf]⟩
  · exact ⟨_, (FileSystem.read_eq_ok_iff (plain.of_sameShape shape)).mpr ⟨location, leads⟩, rfl⟩

end

end Rename

/-- A real run that goes through leaves each file with the composition, in order, of the renamings
whose path leads to it, leaves everything else as it was, and reports each renaming by the texts of
its file just before and right after it. A real run fails with the first renaming that has no
identifier, because it has no spelling or the library refuses its pattern, or whose file cannot be read
as a text, and leaves what the renamings before it make. -/
theorem applyRenamings_real_spec [PatternLibrary] {files : FileSystem} (plain : files.IsPlain)
    (renamings : List Renaming) :
    (∀ report after, applyRenamings files renamings false = (.ok report, after) →
      Rename.Rewritten files renamings after ∧ report.outcomes.length = renamings.length ∧
      ∀ before mapping behind, renamings = before ++ mapping :: behind →
        ∃ earlier soFar upToHere right outcome,
          applyRenamings files before false = (.ok earlier, soFar) ∧
          applyRenamings files (before ++ [mapping]) false = (.ok upToHere, right) ∧
          report.outcomes[before.length]? = some outcome ∧
          Rename.Reported mapping soFar right outcome) ∧
    (∀ failure after, applyRenamings files renamings false = (.error failure, after) ↔
      ∃ before mapping behind report, renamings = before ++ mapping :: behind ∧
        applyRenamings files before false = (.ok report, after) ∧
        (Identifier.Uncompiled mapping.old.toList failure ∨
          ∃ identifier, Identifier.compile mapping.old.toList = .ok identifier ∧
            TextFile.read after mapping.file = .error failure)) := by
  constructor
  · intro report after result
    obtain ⟨last, steps, rfl, -⟩ := applyRenamings_eq_ok_iff.mp result
    refine ⟨(steps.rewritten plain rfl (.none files)).2, steps.length_eq, ?_⟩
    rintro before mapping behind rfl
    obtain ⟨early, late, middle, outcomes, chain, others⟩ := steps.split
    obtain ⟨real, rewritten⟩ := chain.rewritten plain rfl (.none files)
    cases others with
    | @step _ next _ _ _ outcome later first rest =>
        obtain ⟨now, pending⟩ := middle
        obtain rfl : pending = [] := real
        refine ⟨⟨early, false⟩, now, ⟨early ++ [outcome], false⟩, next.files, outcome, ?_, ?_, ?_, ?_⟩
        · exact applyRenamings_eq_ok_iff.mpr ⟨_, chain, rfl, rfl⟩
        · exact applyRenamings_eq_ok_iff.mpr ⟨_, chain.append (.single first), rfl, rfl⟩
        · rw [outcomes, ← chain.length_eq]
          simp
        · exact Rename.real_step_reported (plain.of_sameShape rewritten.shape) first
  · intro failure after
    rw [applyRenamings_eq_error_iff]
    constructor
    · rintro ⟨before, mapping, behind, outcomes, last, rfl, steps, fails, rfl⟩
      obtain ⟨real, rewritten⟩ := steps.rewritten plain rfl (.none files)
      obtain ⟨now, pending⟩ := last
      obtain rfl : pending = [] := real
      exact ⟨before, mapping, behind, ⟨outcomes, false⟩, rfl,
        applyRenamings_eq_ok_iff.mpr ⟨_, steps, rfl, rfl⟩,
        (Rename.real_step_error (plain.of_sameShape rewritten.shape)).mp fails⟩
    · rintro ⟨before, mapping, behind, report, rfl, earlier, cause⟩
      obtain ⟨last, steps, rfl, -⟩ := applyRenamings_eq_ok_iff.mp earlier
      obtain ⟨real, rewritten⟩ := steps.rewritten plain rfl (.none files)
      obtain ⟨now, pending⟩ := last
      obtain rfl : pending = [] := real
      exact ⟨before, mapping, behind, _, _, rfl, steps,
        (Rename.real_step_error (plain.of_sameShape rewritten.shape)).mpr cause, rfl⟩

def linkedFiles : FileSystem :=
  ⟨[(["a"], .file (Text.encode "id x".toList)), (["b"], .link "a")], [], [], by decide⟩

theorem linkedFiles_isPlain : linkedFiles.IsPlain :=
  FileSystem.isPlain_of_entries (by simp [linkedFiles])

section

attribute [local instance] PatternLibrary.sizeLimited

private theorem linkedFiles_through :
    applyRenamings linkedFiles [⟨"id", "k", ⟨"a"⟩⟩, ⟨"k", "n", ⟨"b"⟩⟩] false =
      (.ok ⟨[⟨⟨"id", "k", ⟨"a"⟩⟩, 1, true, Text.Digest.text (Text.encode "k x".toList)⟩,
        ⟨⟨"k", "n", ⟨"b"⟩⟩, 1, true, Text.Digest.text (Text.encode "n x".toList)⟩], false⟩,
        (applyRenamings linkedFiles [⟨"id", "k", ⟨"a"⟩⟩, ⟨"k", "n", ⟨"b"⟩⟩] false).2) := by
  refine Prod.ext ?_ rfl
  cbv

private theorem linkedFiles_composed :
    Rename.composed (Rename.reaching linkedFiles ["a"]
      [⟨"id", "k", ⟨"a"⟩⟩, ⟨"k", "n", ⟨"b"⟩⟩]) "id x".toList = "n x".toList := by
  cbv

private theorem linkedFiles_before :
    applyRenamings linkedFiles [⟨"id", "k", ⟨"a"⟩⟩] false =
      (.ok ⟨[⟨⟨"id", "k", ⟨"a"⟩⟩, 1, true, Text.Digest.text (Text.encode "k x".toList)⟩], false⟩,
        (applyRenamings linkedFiles [⟨"id", "k", ⟨"a"⟩⟩] false).2) := by
  refine Prod.ext ?_ rfl
  cbv

private theorem linkedFiles_unread :
    TextFile.read (applyRenamings linkedFiles [⟨"id", "k", ⟨"a"⟩⟩] false).2 ⟨"c"⟩ =
      .error (.unreadable ⟨"c"⟩ .notFound) := by
  cbv

private theorem linkedFiles_left :
    (applyRenamings linkedFiles [⟨"id", "k", ⟨"a"⟩⟩] false).2.entryAt? ["a"] =
      some (.file (Text.encode "k x".toList)) := by
  cbv

/-- Renamings through the file and through its link are composed, and one that cannot read its file
leaves what they have made. -/
theorem applyRenamings_real_linkedFiles :
    linkedFiles.IsPlain ∧
    (∃ report after,
      applyRenamings linkedFiles [⟨"id", "k", ⟨"a"⟩⟩, ⟨"k", "n", ⟨"b"⟩⟩] false =
        (.ok report, after) ∧
      Rename.Rewritten linkedFiles [⟨"id", "k", ⟨"a"⟩⟩, ⟨"k", "n", ⟨"b"⟩⟩] after ∧
      after.entryAt? ["a"] = some (.file (Text.encode "n x".toList))) ∧
    ∃ after,
      applyRenamings linkedFiles [⟨"id", "k", ⟨"a"⟩⟩, ⟨"k", "n", ⟨"c"⟩⟩] false =
        (.error (.unreadable ⟨"c"⟩ .notFound), after) ∧
      after.entryAt? ["a"] = some (.file (Text.encode "k x".toList)) := by
  refine ⟨linkedFiles_isPlain, ?_, ?_⟩
  · have spec := (applyRenamings_real_spec linkedFiles_isPlain
      [⟨"id", "k", ⟨"a"⟩⟩, ⟨"k", "n", ⟨"b"⟩⟩]).1
    obtain ⟨rewritten, -⟩ := spec _ _ linkedFiles_through
    refine ⟨_, _, linkedFiles_through, rewritten, ?_⟩
    rw [rewritten.text ["a"] "id x".toList rfl, linkedFiles_composed]
  · have spec := (applyRenamings_real_spec linkedFiles_isPlain
      [⟨"id", "k", ⟨"a"⟩⟩, ⟨"k", "n", ⟨"c"⟩⟩]).2
    exact ⟨_, (spec _ _).mpr
      ⟨[_], _, [], _, rfl, linkedFiles_before, .inr ⟨_, rfl, linkedFiles_unread⟩⟩,
      linkedFiles_left⟩

end

end SqlColumns
