import SqlColumns.Proofs.FileSystem.Names
import SqlColumns.Proofs.Identifier.Crowd
import SqlColumns.Proofs.Rename.Sequence

/-!
# Dry runs

A dry run keeps changed texts aside under the key of their path. It tells what the real run will do
as long as keys tell files apart in which there is something to rename: a path has the key of such a
file exactly when it leads to this file.
Where a path has the key of a file that it does not lead to, or leads to a file that has another
key, there are renamings for which the dry run tells something else.
-/

set_option autoImplicit false

namespace SqlColumns

section

variable [PatternLibrary]

namespace Rename

/-!
## The files of a dry run
-/

theorem step_dry_files {draft next : Draft} {mapping : Renaming} {outcome : RenameOutcome}
    (result : step true draft mapping = .ok (outcome, next)) : next.files = draft.files := by
  obtain ⟨identifier, text, -, -, -, after⟩ := step_eq_ok_iff.mp result
  unfold Draft.after at after
  split at after
  · cases after
    rfl
  · simp only [Draft.store, if_true, Except.ok.injEq] at after
    rw [← after]

theorem Steps.dry_files {draft last : Draft} {renamings : List Renaming}
    {outcomes : List RenameOutcome} (steps : Steps true draft renamings outcomes last) :
    last.files = draft.files := by
  induction steps with
  | done => rfl
  | step first _ ih => rw [ih, step_dry_files first]

end Rename

/-- A dry run leaves every file as it was, also when it fails. -/
theorem applyRenamings_dry_files (files : FileSystem) (renamings : List Renaming) :
    (applyRenamings files renamings true).2 = files := by
  cases result : applyRenamings files renamings true with
  | mk produced after =>
      cases produced with
      | error failure =>
          obtain ⟨_, _, _, _, last, -, steps, -, rfl⟩ := applyRenamings_eq_error_iff.mp result
          exact steps.dry_files
      | ok report =>
          obtain ⟨last, steps, rfl, -⟩ := applyRenamings_eq_ok_iff.mp result
          exact steps.dry_files

namespace FileSystem.SameShape

omit [PatternLibrary]

variable {left right : FileSystem}

theorem key_eq (same : left.SameShape right) (path : Path) : left.key path = right.key path := by
  simp only [key, same.canonical?_eq]

theorem filesChanged_eq (same : left.SameShape right) (report : RenameReport) :
    report.filesChanged left = report.filesChanged right := by
  simp only [RenameReport.filesChanged, RenameReport.changedFiles, same.key_eq]

end FileSystem.SameShape

namespace Rename

/-!
## Dry and real steps side by side
-/

/-- Some identifier occurs in a text and has a pattern that the library takes. -/
def Findable (text : List Char) : Prop :=
  ∃ identifier : Identifier, PatternLibrary.refusal? identifier.chars = none ∧
    0 < identifier.count text

/-- Among some paths, those that have the key of a file with a text are those that lead to it. A file
in whose text nothing is found is never changed, so its key does not matter. -/
def KeysTellFiles (files : FileSystem) (paths : Path → Prop) : Prop :=
  ∀ path other location text, paths path → paths other → files.HoldsText path location text →
    Findable text → (files.key other = files.key path ↔ files.locate other = .ok location)

/-- A text whose own pattern is taken has something to be found in it unless it is empty. -/
theorem findable_iff_ne_nil {text : List Char} (taken : PatternLibrary.refusal? text = none) :
    Findable text ↔ text ≠ [] := by
  constructor
  · rintro ⟨identifier, -, occurs⟩ rfl
    have none : identifier.count [] = 0 :=
      Identifier.count_eq_zero_of_length_lt identifier.length_pos
    exact absurd none (Nat.ne_of_gt occurs)
  · intro spelled
    exact ⟨⟨text, spelled⟩, taken, by rw [Identifier.count_of_alike rfl]; exact Nat.one_pos⟩

/-- The draft of a dry run shows every path the text that the real run has left for it. -/
structure Shows (files : FileSystem) (paths : Path → Prop) (done : List Renaming)
    (dry real : Draft) : Prop where
  untouched : dry.files = files
  written : real.pending = []
  rewritten : Rewritten files done real.files
  current : ∀ path, paths path → dry.current path = TextFile.read real.files path

theorem findable_of_replaced_ne (mapping : Renaming) {text : List Char}
    (changed : replaced mapping text ≠ text) : Findable text := by
  unfold replaced at changed
  split at changed
  · exact absurd rfl changed
  · next identifier built =>
      obtain ⟨same, taken⟩ := Identifier.compile_eq_ok_iff.mp built
      refine ⟨identifier, same ▸ taken, Nat.pos_of_ne_zero fun none => changed ?_⟩
      exact Identifier.replaceAll_of_count_eq_zero none

theorem composed_of_not_findable (renamings : List Renaming) {text : List Char}
    (lost : ¬ Findable text) : composed renamings text = text := by
  induction renamings with
  | nil => rfl
  | cons mapping rest ih =>
      have same : replaced mapping text = text :=
        Classical.byContradiction fun changed => lost (findable_of_replaced_ne mapping changed)
      have first : composed (mapping :: rest) text = composed rest (replaced mapping text) := rfl
      rw [first, same, ih]

omit [PatternLibrary] in
/-- What a text kept aside changes is what is read from paths with its key. -/
theorem Draft.current_store {draft : Draft} {path other : Path} {text : List Char} :
    Draft.current { draft with pending := (draft.files.key path, text) :: draft.pending } other =
      if draft.files.key other = draft.files.key path then .ok text else draft.current other := by
  unfold Draft.current
  by_cases same : draft.files.key other = draft.files.key path
  · simp [same]
  · simp [same, Ne.symm same]

end Rename

namespace TextFile

omit [PatternLibrary]

open FileSystem

variable {files : FileSystem} {path other : Path} {location : Location} {text : List Char}

theorem read_set_of_located (holds : files.HoldsText path location text) (behind : List Char)
    (located : files.locate other = .ok location) :
    read (files.set location (.file (Text.encode behind))) other = .ok behind := by
  have shape := sameShape_set holds.below_root holds.holds (Text.encode behind)
  exact read_of_holdsText
    ⟨(shape.locate_eq other).symm.trans located, entryAt?_set_self holds.below_root⟩

theorem read_set_of_not_located (holds : files.HoldsText path location text) (behind : List Char)
    (elsewhere : files.locate other ≠ .ok location) :
    read (files.set location (.file (Text.encode behind))) other = read files other := by
  have shape := sameShape_set holds.below_root holds.holds (Text.encode behind)
  refine (read_congr shape fun found located => ?_).symm
  have apart : found ≠ location := fun same => elsewhere (same ▸ located)
  exact (entryAt?_set_of_ne apart).symm

end TextFile

namespace Rename

variable {files : FileSystem} {paths : Path → Prop} {done : List Renaming} {dry real : Draft}

/-- Where keys tell files, a dry and a real step fail alike or report the same and stay side by
side. -/
theorem Shows.step (shows : Shows files paths done dry real) (plain : files.IsPlain)
    (tell : KeysTellFiles files paths) {mapping : Renaming} (among : paths mapping.file) :
    (∃ failure, Rename.step true dry mapping = .error failure ∧
      Rename.step false real mapping = .error failure) ∨
    ∃ outcome dryNext realNext, Rename.step true dry mapping = .ok (outcome, dryNext) ∧
      Rename.step false real mapping = .ok (outcome, realNext) ∧
      Shows files paths (done ++ [mapping]) dryNext realNext := by
  obtain ⟨now, pending⟩ := real
  obtain rfl : pending = [] := shows.written
  have nowPlain : now.IsPlain := plain.of_sameShape shows.rewritten.shape
  have current := shows.current mapping.file among
  cases built : Identifier.compile mapping.old.toList with
  | error failure =>
      refine .inl ⟨failure, ?_, ?_⟩
      · simp [Rename.step, built]
      · simp [Rename.step, built]
  | ok identifier =>
      cases found : TextFile.read now mapping.file with
      | error failure =>
          refine .inl ⟨failure, ?_, ?_⟩
          · simp [Rename.step, built, current.trans found]
          · simp [Rename.step, built, Draft.current, found]
      | ok text =>
          have dryStep : Rename.step true dry mapping = _ :=
            step_of_current built (current.trans found)
          have realStep : Rename.step false ⟨now, []⟩ mapping = _ := step_of_current built found
          obtain ⟨location, holds⟩ := (TextFile.read_eq_ok_iff nowPlain).mp found
          by_cases unchanged : identifier.replaceAll text mapping.new.toList = text
          · simp only [Draft.after, unchanged, if_true, Except.map] at dryStep realStep
            exact .inr ⟨_, _, _, dryStep, realStep, shows.untouched, rfl,
              shows.rewritten.snoc plain realStep, shows.current⟩
          · simp only [Draft.after, unchanged, if_false, Draft.store, if_true, Bool.false_eq_true,
              TextFile.write_of_holdsText holds, Except.map] at dryStep realStep
            refine .inr ⟨_, _, _, dryStep, realStep, shows.untouched, rfl,
              shows.rewritten.snoc plain realStep, fun path member => ?_⟩
            -- Something is found in what is changed here or was changed before, so keys tell who
            -- leads to it.
            obtain ⟨initial, content, same⟩ := shows.rewritten.text_before holds.holds
            have found : Findable initial := by
              refine Classical.byContradiction fun lost => unchanged ?_
              rw [composed_of_not_findable _ lost] at same
              subst same
              refine Classical.byContradiction fun changed => lost ?_
              refine findable_of_replaced_ne mapping ?_
              simpa only [replaced, built] using changed
            have located : files.locate mapping.file = .ok location :=
              (shows.rewritten.shape.locate_eq mapping.file).trans holds.located
            have leads := tell mapping.file path location initial among member
              ⟨located, content⟩ found
            rw [shows.rewritten.shape.locate_eq path] at leads
            -- The dry run shows the new text by its key, the real run by where the path leads.
            rw [Draft.current_store, shows.untouched]
            split
            · next key => exact (TextFile.read_set_of_located holds _ (leads.mp key)).symm
            · next key =>
                rw [TextFile.read_set_of_not_located holds _ (fun there => key (leads.mpr there))]
                exact shows.current path member

theorem Shows.run (shows : Shows files paths done dry real) (plain : files.IsPlain)
    (tell : KeysTellFiles files paths) {renamings : List Renaming}
    (among : ∀ mapping ∈ renamings, paths mapping.file) :
    (∃ failure, (Rename.run true dry renamings).1 = .error failure ∧
      (Rename.run false real renamings).1 = .error failure) ∨
    ∃ outcomes dryLast realLast, Steps true dry renamings outcomes dryLast ∧
      Steps false real renamings outcomes realLast ∧
      Shows files paths (done ++ renamings) dryLast realLast := by
  induction renamings generalizing done dry real with
  | nil => exact .inr ⟨[], dry, real, .done, .done, by simpa using shows⟩
  | cons mapping rest ih =>
      rcases shows.step plain tell (among mapping List.mem_cons_self) with
        ⟨failure, dryFails, realFails⟩ | ⟨outcome, dryNext, realNext, dryStep, realStep, next⟩
      · exact .inl ⟨failure, by simp only [Rename.run, dryFails], by simp only [Rename.run, realFails]⟩
      · rcases ih next (fun one member => among one (List.mem_cons_of_mem _ member)) with
          ⟨failure, dryFails, realFails⟩ | ⟨outcomes, dryLast, realLast, drySteps, realSteps, last⟩
        · refine .inl ⟨failure, ?_, ?_⟩
          · cases others : Rename.run true dryNext rest with
            | mk produced after =>
                rw [others] at dryFails
                cases dryFails
                simp only [Rename.run, dryStep, others]
          · cases others : Rename.run false realNext rest with
            | mk produced after =>
                rw [others] at realFails
                cases realFails
                simp only [Rename.run, realStep, others]
        · refine .inr ⟨outcome :: outcomes, dryLast, realLast, .step dryStep drySteps,
            .step realStep realSteps, ?_⟩
          simpa only [List.append_assoc, List.singleton_append] using last

/-- The dry run tells what the real run does: the same failure, or the same outcomes and the same
numbers made of them. -/
def Predicted (files : FileSystem) (renamings : List Renaming) : Prop :=
  (∃ failure, (applyRenamings files renamings true).1 = .error failure ∧
    (applyRenamings files renamings false).1 = .error failure) ∨
  ∃ dryReport realReport, (applyRenamings files renamings true).1 = .ok dryReport ∧
    (applyRenamings files renamings false).1 = .ok realReport ∧
    dryReport.outcomes = realReport.outcomes ∧
    dryReport.totalReplacements = realReport.totalReplacements ∧
    dryReport.filesChanged (applyRenamings files renamings true).2 =
      realReport.filesChanged (applyRenamings files renamings false).2

theorem applyRenamings_fst_of_run {files : FileSystem} {renamings : List Renaming} {dryRun : Bool}
    {failure : Failure} (fails : (Rename.run dryRun ⟨files, []⟩ renamings).1 = .error failure) :
    (applyRenamings files renamings dryRun).1 = .error failure := by
  unfold applyRenamings
  cases result : Rename.run dryRun ⟨files, []⟩ renamings with
  | mk produced after =>
      rw [result] at fails
      cases fails
      rfl

theorem KeysTellFiles.predicted (tell : KeysTellFiles files paths) (plain : files.IsPlain)
    {renamings : List Renaming} (among : ∀ mapping ∈ renamings, paths mapping.file) :
    Predicted files renamings := by
  have start : Shows files paths [] ⟨files, []⟩ ⟨files, []⟩ :=
    ⟨rfl, rfl, .none files, fun _ _ => rfl⟩
  rcases start.run plain tell among with
    ⟨failure, dryFails, realFails⟩ | ⟨outcomes, dryLast, realLast, drySteps, realSteps, last⟩
  · exact .inl ⟨failure, applyRenamings_fst_of_run dryFails, applyRenamings_fst_of_run realFails⟩
  · have dryResult : applyRenamings files renamings true = (.ok ⟨outcomes, true⟩, dryLast.files) :=
      applyRenamings_eq_ok_iff.mpr ⟨dryLast, drySteps, rfl, rfl⟩
    have realResult : applyRenamings files renamings false =
        (.ok ⟨outcomes, false⟩, realLast.files) :=
      applyRenamings_eq_ok_iff.mpr ⟨realLast, realSteps, rfl, rfl⟩
    refine .inr ⟨⟨outcomes, true⟩, ⟨outcomes, false⟩, ?_, ?_, rfl, rfl, ?_⟩
    · rw [dryResult]
    · rw [realResult]
    · rw [dryResult, realResult, last.untouched]
      exact last.rewritten.shape.filesChanged_eq _

theorem keysTellFiles_of_resolves (proper : FileSystem.IsProper files.current)
    (resolves : ∀ path, paths path → files.Resolves path) : KeysTellFiles files paths := by
  intro path other location text member otherMember holds _
  obtain ⟨here, located, hereProper, canonical⟩ :=
    FileSystem.canonical?_of_resolves proper (resolves path member)
  obtain ⟨there, otherLocated, thereProper, otherCanonical⟩ :=
    FileSystem.canonical?_of_resolves proper (resolves other otherMember)
  obtain rfl : here = location := Except.ok.inj (located.symm.trans holds.located)
  simp only [FileSystem.key, canonical, otherCanonical, Option.getD_some, otherLocated]
  constructor
  · intro same
    rw [FileSystem.eq_of_components_pathTo thereProper hereProper same]
  · intro same
    rw [Except.ok.inj same]

/-- A dry run tells what the real run does where every path resolves, however it is spelled. -/
theorem predicted_of_resolves (plain : files.IsPlain) (proper : FileSystem.IsProper files.current)
    {renamings : List Renaming} (resolves : ∀ mapping ∈ renamings, files.Resolves mapping.file) :
    Predicted files renamings := by
  have tell : KeysTellFiles files fun path => ∃ mapping ∈ renamings, mapping.file = path :=
    keysTellFiles_of_resolves proper fun path ⟨mapping, member, same⟩ =>
      same ▸ resolves mapping member
  exact tell.predicted plain fun mapping member => ⟨mapping, member, rfl⟩

/-!
## Renamings that tell keys from files

An identifier in a file is given a crowd of copies of itself; a second renaming of it, through another
path, counts more of them where it sees the crowd than elsewhere.
-/

def probes (identifier : Identifier) (number : Nat) (path other : Path) : List Renaming :=
  [⟨String.ofList identifier.chars, String.ofList (identifier.crowd number), path⟩,
    ⟨String.ofList identifier.chars, "", other⟩]

section

variable {identifier : Identifier} {number : Nat} {text seen : List Char} {dryRun : Bool}
  {draft next : Draft} {path other : Path}

theorem compile_ofList (taken : PatternLibrary.refusal? identifier.chars = none) :
    Identifier.compile (String.ofList identifier.chars).toList = .ok identifier := by
  rw [String.toList_ofList]
  exact Identifier.compile_chars taken

omit [PatternLibrary] in
theorem replaceAll_crowd_ne (some : 0 < identifier.count text) (more : identifier.count text < number) :
    identifier.replaceAll text (identifier.crowd number) ≠ text := by
  intro same
  have crowded := Identifier.le_count_replaceAll_crowd some number
  rw [same] at crowded
  omega

/-- The first probe puts crowds in the place of the occurrences. -/
theorem step_first_probe (taken : PatternLibrary.refusal? identifier.chars = none)
    (some : 0 < identifier.count text) (more : identifier.count text < number)
    (current : draft.current path = .ok text)
    (stored : draft.store dryRun path (identifier.replaceAll text (identifier.crowd number)) =
      .ok next) :
    step dryRun draft
        ⟨String.ofList identifier.chars, String.ofList (identifier.crowd number), path⟩ =
      .ok (outcomeOf ⟨String.ofList identifier.chars, String.ofList (identifier.crowd number), path⟩
        identifier text, next) := by
  refine step_eq_ok_iff.mpr ⟨_, _, compile_ofList taken, current, rfl, ?_⟩
  have changed := replaceAll_crowd_ne some more
  simp only [Draft.after, String.toList_ofList, changed, if_false, stored]

/-- The second probe goes through wherever it reads something. -/
theorem step_second_probe (taken : PatternLibrary.refusal? identifier.chars = none)
    (current : draft.current other = .ok seen)
    (writable : ∀ behind, ∃ next, draft.store dryRun other behind = .ok next) :
    ∃ next, step dryRun draft ⟨String.ofList identifier.chars, "", other⟩ =
      .ok (outcomeOf ⟨String.ofList identifier.chars, "", other⟩ identifier seen, next) := by
  have stored : ∃ next,
      draft.after dryRun ⟨String.ofList identifier.chars, "", other⟩ identifier seen = .ok next := by
    unfold Draft.after
    split
    · exact ⟨draft, rfl⟩
    · exact writable _
  obtain ⟨next, after⟩ := stored
  exact ⟨next, step_eq_ok_iff.mpr ⟨_, _, compile_ofList taken, current, rfl, after⟩⟩

theorem replacements_second_probe {outcome : RenameOutcome}
    (taken : PatternLibrary.refusal? identifier.chars = none)
    (current : draft.current other = .ok seen)
    (result : step dryRun draft ⟨String.ofList identifier.chars, "", other⟩ = .ok (outcome, next)) :
    outcome.replacements = identifier.count seen := by
  obtain ⟨found, text, built, read, rfl, -⟩ := step_eq_ok_iff.mp result
  rw [compile_ofList taken] at built
  cases built
  rw [current] at read
  cases read
  rfl

theorem second_probe_of_outcomes {files : FileSystem} {last : Draft} {first second : RenameOutcome}
    (steps : Steps dryRun ⟨files, []⟩ (probes identifier number path other) [first, second] last)
    (begun : step dryRun ⟨files, []⟩
        ⟨String.ofList identifier.chars, String.ofList (identifier.crowd number), path⟩ =
      .ok (first, draft)) :
    step dryRun draft ⟨String.ofList identifier.chars, "", other⟩ = .ok (second, last) := by
  cases steps with
  | step one rest =>
      rw [begun] at one
      cases one
      cases rest with
      | step two done =>
          cases done
          exact two

end

/-- The outcomes of a run that goes through are those of the other one. -/
theorem Predicted.steps {files : FileSystem} {renamings : List Renaming}
    (predicted : Predicted files renamings) {dryRun : Bool} {outcomes : List RenameOutcome}
    {last : Draft} (steps : Steps dryRun ⟨files, []⟩ renamings outcomes last) :
    ∃ otherLast, Steps (!dryRun) ⟨files, []⟩ renamings outcomes otherLast := by
  have result : applyRenamings files renamings dryRun = (.ok ⟨outcomes, dryRun⟩, last.files) :=
    applyRenamings_eq_ok_iff.mpr ⟨last, steps, rfl, rfl⟩
  have through : ∀ {kind report}, (applyRenamings files renamings kind).1 = .ok report →
      ∃ otherLast, Steps kind ⟨files, []⟩ renamings report.outcomes otherLast := by
    intro kind report first
    have whole : applyRenamings files renamings kind =
        (.ok report, (applyRenamings files renamings kind).2) := Prod.ext first rfl
    obtain ⟨otherLast, others, -⟩ := applyRenamings_eq_ok_iff.mp whole
    exact ⟨otherLast, others⟩
  rcases predicted with ⟨failure, dryFails, realFails⟩ | ⟨dryReport, realReport, dry, real, same, -⟩
  · cases dryRun with
    | true => simp [result] at dryFails
    | false => simp [result] at realFails
  · cases dryRun with
    | true =>
        rw [result] at dry
        cases dry
        obtain rfl : outcomes = realReport.outcomes := same
        exact through real
    | false =>
        rw [result] at real
        cases real
        obtain rfl : dryReport.outcomes = outcomes := same
        exact through dry

section Probes

variable {path other : Path} {location : Location} {text : List Char} {identifier : Identifier}

/-- The dry run keeps the crowds under the key of the path, the real run puts them where the path
leads. -/
theorem step_first_probes (holds : files.HoldsText path location text)
    (taken : PatternLibrary.refusal? identifier.chars = none) (some : 0 < identifier.count text)
    {number : Nat} (more : identifier.count text < number) :
    let crowded := identifier.replaceAll text (identifier.crowd number)
    ∃ outcome,
      step true ⟨files, []⟩
          ⟨String.ofList identifier.chars, String.ofList (identifier.crowd number), path⟩ =
        .ok (outcome, ⟨files, [(files.key path, crowded)]⟩) ∧
      step false ⟨files, []⟩
          ⟨String.ofList identifier.chars, String.ofList (identifier.crowd number), path⟩ =
        .ok (outcome, ⟨files.set location (.file (Text.encode crowded)), []⟩) := by
  have current : TextFile.read files path = .ok text := TextFile.read_of_holdsText holds
  refine ⟨_, step_first_probe taken some more current rfl,
    step_first_probe taken some more current ?_⟩
  simp [Draft.store, TextFile.write_of_holdsText holds]

/-- A path with the key of a file leads to it, or else the dry run alone finds the crowd. -/
theorem located_of_key_eq (holds : files.HoldsText path location text)
    (taken : PatternLibrary.refusal? identifier.chars = none) (some : 0 < identifier.count text)
    (predicted : ∀ number, Predicted files (probes identifier number path other))
    (key : files.key other = files.key path) : files.locate other = .ok location := by
  refine Classical.byContradiction fun elsewhere => ?_
  -- What the second probe reads in the real run decides how large the crowd has to be.
  have most : ∃ number, identifier.count text < number ∧
      ∀ found, TextFile.read files other = .ok found → identifier.count found < number := by
    cases TextFile.read files other with
    | error failure => exact ⟨_, Nat.lt_succ_self _, by simp⟩
    | ok found =>
        refine ⟨identifier.count text + identifier.count found + 1, by omega, ?_⟩
        rintro _ ⟨⟩
        omega
  obtain ⟨number, more, unseen⟩ := most
  obtain ⟨first, dryFirst, realFirst⟩ := step_first_probes holds taken some more
  have shown : Draft.current ⟨files, [(files.key path,
      identifier.replaceAll text (identifier.crowd number))]⟩ other =
        .ok (identifier.replaceAll text (identifier.crowd number)) := by
    simp [Draft.current, key]
  have storable : ∀ behind, ∃ next, Draft.store ⟨files, [(files.key path,
      identifier.replaceAll text (identifier.crowd number))]⟩ true other behind = .ok next :=
    fun behind => ⟨_, rfl⟩
  obtain ⟨dryLast, drySecond⟩ := step_second_probe taken shown storable
  obtain ⟨realLast, realSteps⟩ := (predicted number).steps (.step dryFirst (.single drySecond))
  have realSecond := second_probe_of_outcomes realSteps realFirst
  obtain ⟨_, found, _, read, _, _⟩ := step_eq_ok_iff.mp realSecond
  have counted := replacements_second_probe taken read realSecond
  have few := unseen found ((TextFile.read_set_of_not_located holds _ elsewhere).symm.trans read)
  have many := Identifier.le_count_replaceAll_crowd some number
  simp only [outcomeOf] at counted
  omega

/-- A path that leads to a file has its key, or else the real run alone finds the crowd. -/
theorem key_eq_of_located (holds : files.HoldsText path location text)
    (taken : PatternLibrary.refusal? identifier.chars = none) (some : 0 < identifier.count text)
    (predicted : ∀ number, Predicted files (probes identifier number path other))
    (located : files.locate other = .ok location) : files.key other = files.key path := by
  refine Classical.byContradiction fun apartKeys => ?_
  have more := Nat.lt_succ_self (identifier.count text)
  obtain ⟨first, dryFirst, realFirst⟩ := step_first_probes holds taken some more
  generalize crowd : identifier.replaceAll text _ = crowded at dryFirst realFirst
  have shape := FileSystem.sameShape_set holds.below_root holds.holds (Text.encode crowded)
  have shown : FileSystem.HoldsText (files.set location (.file (Text.encode crowded)))
      other location crowded :=
    ⟨(shape.locate_eq other).symm.trans located, FileSystem.entryAt?_set_self holds.below_root⟩
  have storable : ∀ behind, ∃ next,
      Draft.store ⟨files.set location (.file (Text.encode crowded)), []⟩ false other behind =
        .ok next := by
    intro behind
    simp [Draft.store, TextFile.write_of_holdsText shown]
  have marked : Draft.current ⟨files.set location (.file (Text.encode crowded)), []⟩ other =
      .ok crowded :=
    TextFile.read_of_holdsText shown
  obtain ⟨realLast, realSecond⟩ := step_second_probe taken marked storable
  obtain ⟨dryLast, drySteps⟩ := (predicted _).steps (.step realFirst (.single realSecond))
  have drySecond := second_probe_of_outcomes drySteps dryFirst
  have hidden : Draft.current ⟨files, [(files.key path, crowded)]⟩ other = .ok text := by
    have read : TextFile.read files other = .ok text :=
      TextFile.read_of_holdsText ⟨located, holds.holds⟩
    simp [Draft.current, Ne.symm apartKeys, read]
  have counted := replacements_second_probe taken hidden drySecond
  have many := Identifier.le_count_replaceAll_crowd some (identifier.count text + 1)
  rw [crowd] at many
  simp only [outcomeOf] at counted
  omega

end Probes

end Rename

/-- Over any paths, a dry run tells what the real run does for all renamings exactly when, among
these paths, those that have the key of a file with a text in which something is found are those that
lead to it; and a dry run leaves every file as it was. -/
theorem dryRun_predicts_iff_keysTellFiles {files : FileSystem} (plain : files.IsPlain)
    (paths : Path → Prop) :
    ((∀ renamings, (∀ mapping ∈ renamings, paths mapping.file) →
        Rename.Predicted files renamings) ↔ Rename.KeysTellFiles files paths) ∧
      ∀ renamings, (applyRenamings files renamings true).2 = files := by
  refine ⟨⟨?_, ?_⟩, applyRenamings_dry_files files⟩
  · rintro predicted path other location text member otherMember holds ⟨identifier, taken, occurs⟩
    have probed : ∀ number, Rename.Predicted files
        (Rename.probes identifier number path other) := by
      intro number
      refine predicted _ fun mapping among => ?_
      simp only [Rename.probes, List.mem_cons, List.not_mem_nil, or_false] at among
      rcases among with rfl | rfl
      · exact member
      · exact otherMember
    exact ⟨Rename.located_of_key_eq holds taken occurs probed,
      Rename.key_eq_of_located holds taken occurs probed⟩
  · intro tell renamings among
    exact tell.predicted plain among

end

section

attribute [local instance] PatternLibrary.sizeLimited

private theorem linkedFiles_key_slash :
    linkedFiles.key ⟨"/a/"⟩ = linkedFiles.key ⟨"/a"⟩ := by
  cbv

private theorem linkedFiles_locate_slash :
    linkedFiles.locate ⟨"/a/"⟩ = .error .notDirectory := by
  cbv

private theorem linkedFiles_holdsText :
    linkedFiles.HoldsText ⟨"/a"⟩ ["a"] "id x".toList where
  located := by cbv
  holds := by rfl

/-- A slash behind the name of a file leads nowhere and does not change the key, so there are
renamings of a file with and without it that a dry run tells wrongly. -/
theorem dryRun_misleads_behind_slash :
    linkedFiles.IsPlain ∧
    ¬ ∀ renamings, (∀ mapping ∈ renamings, mapping.file ∈ [Path.mk "/a", Path.mk "/a/"]) →
      Rename.Predicted linkedFiles renamings := by
  refine ⟨linkedFiles_isPlain, fun predicted => ?_⟩
  have spec := (dryRun_predicts_iff_keysTellFiles linkedFiles_isPlain
    fun path => path ∈ [Path.mk "/a", Path.mk "/a/"]).1
  have leads := (spec.mp predicted ⟨"/a"⟩ ⟨"/a/"⟩ ["a"] "id x".toList (by simp) (by simp)
    linkedFiles_holdsText ((Rename.findable_iff_ne_nil (by decide)).mpr (by simp))).mp
      linkedFiles_key_slash
  rw [linkedFiles_locate_slash] at leads
  cases leads

end

end SqlColumns
