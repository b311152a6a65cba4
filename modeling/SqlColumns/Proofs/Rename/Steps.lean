import SqlColumns.Proofs.TextFile
import SqlColumns.Rename

/-!
# Steps of a run

A run takes one step for each renaming until one fails. What a single step does is said once here;
a run is then a chain of steps, and a failing run is a chain followed by a step that fails.
-/

set_option autoImplicit false

namespace SqlColumns

namespace Rename

/-!
## One step
-/

def outcomeOf (mapping : Renaming) (identifier : Identifier) (text : List Char) : RenameOutcome :=
  let replaced := identifier.replaceAll text mapping.new.toList
  { mapping := mapping
    replacements := identifier.count text
    changed := replaced != text
    digest := Text.Digest.text (Text.encode replaced) }

def Draft.after (draft : Draft) (dryRun : Bool) (mapping : Renaming) (identifier : Identifier)
    (text : List Char) : Except Failure Draft :=
  if identifier.replaceAll text mapping.new.toList = text then .ok draft
  else draft.store dryRun mapping.file (identifier.replaceAll text mapping.new.toList)

variable [PatternLibrary] {dryRun : Bool} {draft next last : Draft} {mapping : Renaming}
  {outcome : RenameOutcome} {failure : Failure}

theorem step_of_current {identifier : Identifier} {text : List Char}
    (built : Identifier.compile mapping.old.toList = .ok identifier)
    (current : draft.current mapping.file = .ok text) :
    step dryRun draft mapping =
      (draft.after dryRun mapping identifier text).map
        fun next => (outcomeOf mapping identifier text, next) := by
  simp only [step, built, current, Draft.after, outcomeOf]
  by_cases same : identifier.replaceAll text mapping.new.toList = text
  · simp [same, Except.map]
  · cases draft.store dryRun mapping.file (identifier.replaceAll text mapping.new.toList) with
    | error failure => simp [same, Except.map]
    | ok next => simp [same, Except.map]

theorem step_eq_ok_iff :
    step dryRun draft mapping = .ok (outcome, next) ↔
      ∃ identifier text, Identifier.compile mapping.old.toList = .ok identifier ∧
        draft.current mapping.file = .ok text ∧ outcome = outcomeOf mapping identifier text ∧
        draft.after dryRun mapping identifier text = .ok next := by
  constructor
  · intro result
    cases built : Identifier.compile mapping.old.toList with
    | error failure => simp [step, built] at result
    | ok identifier =>
        cases current : draft.current mapping.file with
        | error failure => simp [step, built, current] at result
        | ok text =>
            rw [step_of_current built current] at result
            cases after : draft.after dryRun mapping identifier text with
            | error failure => simp [after, Except.map] at result
            | ok behind =>
                simp only [after, Except.map, Except.ok.injEq, Prod.mk.injEq] at result
                obtain ⟨rfl, rfl⟩ := result
                exact ⟨identifier, text, rfl, rfl, rfl, after⟩
  · rintro ⟨identifier, text, built, current, rfl, after⟩
    rw [step_of_current built current, after, Except.map]

theorem step_eq_error_iff :
    step dryRun draft mapping = .error failure ↔
      Identifier.Uncompiled mapping.old.toList failure ∨
      (∃ identifier, Identifier.compile mapping.old.toList = .ok identifier ∧
        draft.current mapping.file = .error failure) ∨
      ∃ identifier text, Identifier.compile mapping.old.toList = .ok identifier ∧
        draft.current mapping.file = .ok text ∧
        draft.after dryRun mapping identifier text = .error failure := by
  rw [← Identifier.compile_eq_error_iff]
  cases built : Identifier.compile mapping.old.toList with
  | error cause => simp [step, built]
  | ok identifier =>
      cases current : draft.current mapping.file with
      | error cause => simp [step, built, current]
      | ok text =>
          rw [step_of_current built current]
          cases after : draft.after dryRun mapping identifier text with
          | error cause => simp [after, Except.map]
          | ok behind => simp [after, Except.map]

/-!
## Chains of steps
-/

inductive Steps (dryRun : Bool) : Draft → List Renaming → List RenameOutcome → Draft → Prop where
  | done {draft : Draft} : Steps dryRun draft [] [] draft
  | step {draft next last : Draft} {mapping : Renaming} {rest : List Renaming}
      {outcome : RenameOutcome} {outcomes : List RenameOutcome} :
      Rename.step dryRun draft mapping = .ok (outcome, next) →
      Steps dryRun next rest outcomes last →
      Steps dryRun draft (mapping :: rest) (outcome :: outcomes) last

namespace Steps

variable {before behind : List Renaming} {outcomes : List RenameOutcome}

theorem length_eq {renamings : List Renaming} (steps : Steps dryRun draft renamings outcomes last) :
    outcomes.length = renamings.length := by
  induction steps with
  | done => rfl
  | step _ _ ih => simp [ih]

theorem split (steps : Steps dryRun draft (before ++ behind) outcomes last) :
    ∃ earlier later middle, outcomes = earlier ++ later ∧ Steps dryRun draft before earlier middle ∧
      Steps dryRun middle behind later last := by
  induction before generalizing draft outcomes with
  | nil => exact ⟨[], outcomes, draft, rfl, .done, steps⟩
  | cons mapping before ih =>
      cases steps with
      | step first rest =>
          obtain ⟨earlier, later, middle, rfl, chain, others⟩ := ih rest
          exact ⟨_ :: earlier, later, middle, rfl, .step first chain, others⟩

theorem append {earlier later : List RenameOutcome} {middle : Draft}
    (chain : Steps dryRun draft before earlier middle)
    (others : Steps dryRun middle behind later last) :
    Steps dryRun draft (before ++ behind) (earlier ++ later) last := by
  induction chain with
  | done => exact others
  | step first _ ih => exact .step first (ih others)

theorem single (first : Rename.step dryRun draft mapping = .ok (outcome, next)) :
    Steps dryRun draft [mapping] [outcome] next :=
  .step first .done

/-- A renaming among others has the outcome of the text that those before it leave for it. -/
theorem outcome_at (steps : Steps dryRun draft (before ++ mapping :: behind) outcomes last) :
    ∃ earlier middle identifier text, Steps dryRun draft before earlier middle ∧
      Identifier.compile mapping.old.toList = .ok identifier ∧
      middle.current mapping.file = .ok text ∧
      outcomes[before.length]? = some (outcomeOf mapping identifier text) := by
  obtain ⟨earlier, later, middle, rfl, chain, others⟩ := steps.split
  cases others with
  | step first rest =>
      obtain ⟨identifier, text, built, current, rfl, -⟩ := step_eq_ok_iff.mp first
      refine ⟨earlier, middle, identifier, text, chain, built, current, ?_⟩
      rw [← chain.length_eq]
      simp

end Steps

variable {renamings : List Renaming} {outcomes : List RenameOutcome} {files : FileSystem}

/-- A run that goes through is a chain of steps. -/
theorem run_eq_ok_iff :
    run dryRun draft renamings = (.ok outcomes, files) ↔
      ∃ last, Steps dryRun draft renamings outcomes last ∧ last.files = files := by
  induction renamings generalizing draft outcomes with
  | nil =>
      constructor
      · intro result
        simp only [run, Prod.mk.injEq, Except.ok.injEq] at result
        obtain ⟨rfl, rfl⟩ := result
        exact ⟨draft, .done, rfl⟩
      · rintro ⟨last, steps, rfl⟩
        cases steps
        rfl
  | cons mapping rest ih =>
      constructor
      · intro result
        cases first : step dryRun draft mapping with
        | error failure => simp [run, first] at result
        | ok pair =>
            obtain ⟨outcome, next⟩ := pair
            cases others : run dryRun next rest with
            | mk produced after =>
                cases produced with
                | error failure => simp [run, first, others] at result
                | ok later =>
                    simp only [run, first, others, Prod.mk.injEq, Except.ok.injEq] at result
                    obtain ⟨rfl, rfl⟩ := result
                    obtain ⟨last, steps, same⟩ := ih.mp others
                    exact ⟨last, .step first steps, same⟩
      · rintro ⟨last, steps, rfl⟩
        cases steps with
        | step first others =>
            simp only [run, first, ih.mpr ⟨last, others, rfl⟩]

/-- A run that fails is a chain of steps before one that fails, and leaves what the chain left. -/
theorem run_eq_error_iff :
    run dryRun draft renamings = (.error failure, files) ↔
      ∃ before mapping behind outcomes last, renamings = before ++ mapping :: behind ∧
        Steps dryRun draft before outcomes last ∧ step dryRun last mapping = .error failure ∧
        last.files = files := by
  induction renamings generalizing draft with
  | nil => simp [run]
  | cons head rest ih =>
      constructor
      · intro result
        cases first : step dryRun draft head with
        | error cause =>
            simp only [run, first, Prod.mk.injEq, Except.error.injEq] at result
            obtain ⟨rfl, rfl⟩ := result
            exact ⟨[], head, rest, [], draft, rfl, .done, first, rfl⟩
        | ok pair =>
            obtain ⟨outcome, next⟩ := pair
            cases others : run dryRun next rest with
            | mk produced after =>
                cases produced with
                | ok later => simp [run, first, others] at result
                | error cause =>
                    simp only [run, first, others, Prod.mk.injEq, Except.error.injEq] at result
                    obtain ⟨rfl, rfl⟩ := result
                    obtain ⟨before, mapping, behind, outcomes, last, rfl, steps, fails, same⟩ :=
                      ih.mp others
                    exact ⟨head :: before, mapping, behind, outcome :: outcomes, last, rfl,
                      .step first steps, fails, same⟩
      · rintro ⟨before, mapping, behind, outcomes, last, split, steps, fails, same⟩
        cases steps with
        | done =>
            obtain ⟨rfl, rfl⟩ := List.cons.inj split
            simp only [run, fails, same]
        | step first others =>
            obtain ⟨rfl, rfl⟩ := List.cons.inj split
            simp only [run, first, ih.mpr ⟨_, mapping, behind, _, last, rfl, others, fails, same⟩]

end Rename

variable [PatternLibrary] {files after : FileSystem} {renamings : List Renaming} {dryRun : Bool}

/-- A report is made of a chain of steps through all renamings. -/
theorem applyRenamings_eq_ok_iff {report : RenameReport} :
    applyRenamings files renamings dryRun = (.ok report, after) ↔
      ∃ last, Rename.Steps dryRun ⟨files, []⟩ renamings report.outcomes last ∧
        last.files = after ∧ report.dryRun = dryRun := by
  obtain ⟨outcomes, kind⟩ := report
  unfold applyRenamings
  constructor
  · intro result
    split at result
    · simp at result
    · next kept left chain =>
        simp only [Prod.mk.injEq, Except.ok.injEq, RenameReport.mk.injEq] at result
        obtain ⟨⟨rfl, rfl⟩, rfl⟩ := result
        obtain ⟨last, steps, same⟩ := Rename.run_eq_ok_iff.mp chain
        exact ⟨last, steps, same, rfl⟩
  · rintro ⟨last, steps, rfl, rfl⟩
    rw [Rename.run_eq_ok_iff.mpr ⟨last, steps, rfl⟩]

/-- A failure comes from the step behind a chain of steps, and what this chain left stays. -/
theorem applyRenamings_eq_error_iff {failure : Failure} :
    applyRenamings files renamings dryRun = (.error failure, after) ↔
      ∃ before mapping behind outcomes last, renamings = before ++ mapping :: behind ∧
        Rename.Steps dryRun ⟨files, []⟩ before outcomes last ∧
        Rename.step dryRun last mapping = .error failure ∧ last.files = after := by
  rw [← Rename.run_eq_error_iff]
  unfold applyRenamings
  cases chain : Rename.run dryRun ⟨files, []⟩ renamings with
  | mk produced left =>
      cases produced with
      | error cause => simp
      | ok outcomes => simp

/-- One renaming of a file with a text goes through, dry or not. -/
theorem applyRenamings_single {path : Path} {location : Location} {text : List Char}
    (holds : files.HoldsText path location text) {spelling : String} {identifier : Identifier}
    (built : Identifier.compile spelling.toList = .ok identifier) (new : String) (dryRun : Bool) :
    ∃ after, applyRenamings files [⟨spelling, new, path⟩] dryRun =
      (.ok ⟨[Rename.outcomeOf ⟨spelling, new, path⟩ identifier text], dryRun⟩, after) := by
  have current : Rename.Draft.current ⟨files, []⟩ path = .ok text :=
    TextFile.read_of_holdsText holds
  have stored : ∃ next, Rename.Draft.after ⟨files, []⟩ dryRun ⟨spelling, new, path⟩ identifier text =
      .ok next := by
    unfold Rename.Draft.after
    split
    · exact ⟨_, rfl⟩
    · cases dryRun with
      | true => exact ⟨_, rfl⟩
      | false => simp [Rename.Draft.store, TextFile.write_of_holdsText holds]
  obtain ⟨next, after⟩ := stored
  have step : Rename.step dryRun ⟨files, []⟩ ⟨spelling, new, path⟩ = _ :=
    Rename.step_eq_ok_iff.mpr ⟨identifier, text, built, current, rfl, after⟩
  exact ⟨next.files, applyRenamings_eq_ok_iff.mpr ⟨next, .single step, rfl, rfl⟩⟩

end SqlColumns
