import SqlColumns.Proofs.Git.History
import SqlColumns.Proofs.Task.Collected
import SqlColumns.Proofs.Task.Validation

/-!
# What a renaming reports

A renaming that succeeds reports one item for each marked row of its sheets, in the order of the rows,
behind the items of the commands that make the branch ready and before those of the commands that
publish it.
-/

set_option autoImplicit false

namespace SqlColumns

namespace RenameRequest

variable {request : RenameRequest} {runner : CommandRunner} {files : FileSystem}
  {workbook : Workbook}

/-!
## The steps of git
-/

def commandsBefore (request : RenameRequest) : List (List String) :=
  match request.push with
  | none => []
  | some push => GitFlow.prepareCommands push.defaultBranch push.branch

def commandsAfter (request : RenameRequest) (changed : Bool) : List (List String) :=
  match request.push with
  | none => []
  | some push => if changed then GitFlow.publishCommands push.branch push.message else []

theorem Ready.runs {flow : GitFlow} (ready : request.Ready runner files flow) :
    GitFlow.Runs runner files (.start request.root) request.commandsBefore flow := by
  rw [commandsBefore]
  rw [Ready] at ready
  cases pushes : request.push with
  | none =>
      rw [pushes] at ready
      exact ready ▸ .done
  | some push =>
      rw [pushes] at ready
      exact ready.2.2

theorem Published.runs {after : FileSystem} {report : RenameReport} {flow last : GitFlow}
    (published : request.Published runner after report flow last) :
    GitFlow.Runs runner after flow
      (request.commandsAfter (report.outcomes.any RenameOutcome.changed)) last := by
  unfold commandsAfter
  rcases published with ⟨none | same, rfl⟩ | ⟨push, pushes, changed, runs⟩
  · rw [none]
    exact .done
  · have unchanged : report.outcomes.any RenameOutcome.changed = false := by simpa using same
    rw [unchanged]
    cases request.push <;> exact .done
  · have some : report.outcomes.any RenameOutcome.changed = true := by simpa using changed
    rw [pushes, some]
    exact runs

/-- A renaming that succeeds has applied what it collected between the commands before and behind. -/
theorem runRename_eq_ok [PatternLibrary] {items : List ReportItem}
    (success : (runRename request runner files workbook).result = .ok items) :
    ∃ collected ready report last,
      (request.collect files workbook).1 = .ok collected ∧
      applyRenamings files (collected.map LabelledRenaming.mapping) request.dryRun =
        (.ok report, (runRename request runner files workbook).files) ∧
      request.Ready runner files ready ∧
      request.Published runner (runRename request runner files workbook).files report ready last ∧
      last.calls = (runRename request runner files workbook).calls ∧
      items = request.items ready.steps.length last.steps
        (collected.map LabelledRenaming.label) report.outcomes := by
  unfold runRename at success ⊢
  by_cases both : (request.dryRun && request.push.isSome) = true
  · rw [if_pos both] at success
    cases success
  · rw [if_neg both] at success ⊢
    have wet : request.push.isSome = true → request.dryRun = false := fun pushes => by
      simpa [pushes] using both
    cases found : request.collect files workbook with
    | mk produced notices =>
        cases produced with
        | error failure =>
            rw [found] at success
            cases success
        | ok collected =>
            simp only [found] at success ⊢
            unfold apply at success ⊢
            split at success
            · cases success
            · next answer ready told prepared =>
                split at success
                · cases success
                · next report after applied =>
                    simp only at success ⊢
                    split at success
                    · cases success
                    · next done last notices published =>
                        cases success
                        exact ⟨collected, ready, report, last, rfl, applied,
                          ready_of_prepare wet prepared, published_of_publish published, rfl, rfl⟩

/-!
## The items of the rows
-/

variable {rows : List MarkedRow} {outcomes : List RenameOutcome} {draft : Rename.Draft}

structure Reports (request : RenameRequest) (row : MarkedRow) (outcome : RenameOutcome)
    (item : ReportItem) : Prop where
  kind : item.kind = .rename
  label : item.label = some row.label
  path : item.path = some (request.root.display (request.root.resolveUnder row.file))
  data : item.data = some (.object [("dry_run", .bool request.dryRun), ("new", .string row.new),
    ("old", .string row.old), ("replacements", .number outcome.replacements)])
  digest : item.metadata.digest = some outcome.digest
  changed : item.metadata.changed = outcome.changed

/-- What the renaming of a row does to the text that is in its file behind those of other rows. -/
def OutcomeBehind [PatternLibrary] (request : RenameRequest) (files : FileSystem)
    (before : List MarkedRow) (row : MarkedRow) (outcome : RenameOutcome) : Prop :=
  ∃ earlier draft identifier text,
    Rename.Steps request.dryRun ⟨files, []⟩ (before.map (MarkedRow.mapping request.root)) earlier
      draft ∧
    Identifier.compile row.old.toList = .ok identifier ∧
    draft.current (request.root.resolveUnder row.file) = .ok text ∧
    outcome = Rename.outcomeOf (row.mapping request.root) identifier text

/-- Items report rows one by one: an item for each row at the same place, and no other one. -/
structure ReportsAll [PatternLibrary] (request : RenameRequest) (files : FileSystem)
    (rows : List MarkedRow) (items : List ReportItem) : Prop where
  length : items.length = rows.length
  each : ∀ before row behind, rows = before ++ row :: behind → ∃ item outcome,
    items[before.length]? = some item ∧ request.Reports row outcome item ∧
      request.OutcomeBehind files before row outcome

theorem reports_outcomeItem {row : MarkedRow} {outcome : RenameOutcome}
    (same : outcome.mapping = row.mapping request.root) :
    request.Reports row outcome (request.outcomeItem row.label outcome) where
  kind := rfl
  label := rfl
  path := by simp only [outcomeItem, same, MarkedRow.mapping]
  data := by
    have order : "dry_run" < "new" ∧ "new" < "old" ∧ ¬ "replacements" < "new" ∧
        "replacements" ≠ "new" ∧ ¬ "replacements" < "old" ∧ "replacements" ≠ "old" := by decide
    simp only [outcomeItem, same, MarkedRow.mapping, Json.sorted, List.foldl_cons, List.foldl_nil,
      Json.insertMember, order, if_true, if_false]
  digest := rfl
  changed := rfl

theorem reportsAll_of_steps [PatternLibrary] (steps : Rename.Steps request.dryRun ⟨files, []⟩
      (rows.map (MarkedRow.mapping request.root)) outcomes draft) :
    request.ReportsAll files rows
      (List.zipWith request.outcomeItem (rows.map MarkedRow.label) outcomes) where
  length := by
    have lengths := steps.length_eq
    simp only [List.length_map] at lengths
    simp [lengths]
  each before row behind split := by
    rw [split, List.map_append, List.map_cons] at steps
    obtain ⟨earlier, middle, identifier, text, chain, built, current, here⟩ := steps.outcome_at
    rw [List.length_map] at here
    simp only [MarkedRow.mapping] at built current
    refine ⟨_, _, ?_, reports_outcomeItem rfl,
      earlier, middle, identifier, text, chain, built, current, rfl⟩
    simp [List.getElem?_zipWith, split, here]

theorem ReportsAll.kind [PatternLibrary] {items : List ReportItem}
    (reports : request.ReportsAll files rows items)
    {item : ReportItem} (member : item ∈ items) : item.kind = .rename := by
  obtain ⟨number, bound, rfl⟩ := List.mem_iff_getElem.mp member
  have inside : number < rows.length := reports.length ▸ bound
  have split : rows = rows.take number ++ rows[number] :: rows.drop (number + 1) := by
    rw [← List.drop_eq_getElem_cons inside, List.take_append_drop]
  obtain ⟨other, outcome, here, reported, -⟩ := reports.each _ _ _ split
  rw [List.length_take_of_le (Nat.le_of_lt inside), List.getElem?_eq_getElem bound] at here
  exact Option.some.inj here ▸ reported.kind

theorem any_changed_outcomeItems {labels : List String} (same : outcomes.length = labels.length) :
    (List.zipWith request.outcomeItem labels outcomes).any (fun item => item.metadata.changed) =
      outcomes.any RenameOutcome.changed := by
  have pairs : outcomes = (labels.zip outcomes).map Prod.snd :=
    (List.map_snd_zip (Nat.le_of_eq same)).symm
  rw [← List.map_uncurry_zip_eq_zipWith, List.any_map]
  conv => rhs; rw [pairs, List.any_map]
  rfl

theorem items_eq (prepared published : List GitStep) (labels : List String) :
    request.items prepared.length (prepared ++ published) labels outcomes =
      prepared.map stepItem ++ List.zipWith request.outcomeItem labels outcomes ++
        published.map stepItem := by
  simp [items]

/-- Only the items of renamings are of their kind. -/
theorem filter_kind_eq {renamed : List ReportItem} (prepared published : List GitStep)
    (all : ∀ item ∈ renamed, item.kind = .rename) :
    (prepared.map stepItem ++ renamed ++ published.map stepItem).filter
      (fun item => item.kind = .rename) = renamed := by
  have none : ∀ steps : List GitStep,
      (steps.map stepItem).filter (fun item => item.kind = .rename) = [] := by
    intro steps
    simp [List.filter_map, stepItem]
  rw [List.filter_append, List.filter_append, none, none, List.nil_append, List.append_nil,
    List.filter_eq_self.mpr (by simpa using all)]

end RenameRequest

open RenameRequest in
/-- A renaming that succeeds applies each marked row of its sheets once, in order, and reports it once:
the item of a row says what the row's own renaming did behind those of the rows before it. The items of
the commands that made the branch ready stand before all of them, and those of the commands that
published it behind all of them. Of the runner it is assumed that it has no file effect. -/
theorem runRename_reports_rows [PatternLibrary] {request : RenameRequest} {runner : CommandRunner}
    {files : FileSystem} {workbook : Workbook} {names : List String} {items : List ReportItem}
    (listed : workbook.sheetNames files = .ok names) (distinct : names.Nodup)
    (success : (runRename request runner files workbook).result = .ok items) :
    ∃ labels renamed prepared published,
      request.GoesThrough files workbook names labels ∧
      ((request.rowsOf files workbook labels).map fun row => (row.label, row.place)).Nodup ∧
      (∃ outcomes draft, Rename.Steps request.dryRun ⟨files, []⟩
        ((request.rowsOf files workbook labels).map (MarkedRow.mapping request.root)) outcomes draft ∧
        draft.files = (runRename request runner files workbook).files) ∧
      request.ReportsAll files (request.rowsOf files workbook labels) renamed ∧
      items = prepared.map stepItem ++ renamed ++ published.map stepItem ∧
      items.filter (fun item => item.kind = .rename) = renamed ∧
      prepared.map GitStep.command = request.commandsBefore.map (Command.mk "git") ∧
      published.map GitStep.command =
        (request.commandsAfter (renamed.any fun item => item.metadata.changed)).map
          (Command.mk "git") ∧
      prepared ++ published =
        (answered runner (runRename request runner files workbook).calls).map
          fun one => ⟨one.1.command, one.2⟩ := by
  obtain ⟨collected, ready, report, last, found, applied, before, behind, calls, parts⟩ :=
    runRename_eq_ok success
  obtain ⟨labels, selected, accepted, rfl, -⟩ := collect_eq_ok (Prod.ext found rfl)
  have goes := goesThrough_of_selectSheets listed distinct selected accepted
  obtain ⟨draft, steps, after, -⟩ := applyRenamings_eq_ok_iff.mp applied
  have faithful := ((GitFlow.Faithful.start runner request.root).runs before.runs).runs behind.runs
  -- The items are split where the first part of the steps ended.
  obtain ⟨prepared, preparedCommands, stepsBefore⟩ := before.runs.steps_eq
  obtain ⟨published, publishedCommands, stepsAfter⟩ := behind.runs.steps_eq
  rw [GitFlow.start, List.nil_append] at stepsBefore
  rw [stepsBefore] at stepsAfter
  rw [List.map_map] at steps parts
  have steps : Rename.Steps request.dryRun ⟨files, []⟩
      ((request.rowsOf files workbook labels).map (MarkedRow.mapping request.root)) report.outcomes
      draft := steps
  have parts : items = request.items ready.steps.length last.steps
      ((request.rowsOf files workbook labels).map MarkedRow.label) report.outcomes := parts
  rw [stepsBefore, stepsAfter, items_eq] at parts
  have lengths : report.outcomes.length =
      ((request.rowsOf files workbook labels).map MarkedRow.label).length := by
    simpa using steps.length_eq
  have reports := reportsAll_of_steps steps
  refine ⟨labels, _, prepared, published, goes, Workbook.nodup_marked goes.distinct,
    ⟨_, draft, steps, after⟩, reports, parts, ?_, preparedCommands, ?_, ?_⟩
  · rw [parts, filter_kind_eq prepared published fun _ => reports.kind]
  · rw [publishedCommands, any_changed_outcomeItems lengths]
  · rw [← calls, ← stepsAfter, faithful.steps]

section

attribute [local instance] PatternLibrary.sizeLimited

def pushTwice : RenameRequest :=
  ⟨⟨"/"⟩, ["s", "s"], {}, "result", false, some ⟨"main", "b", "m"⟩⟩

theorem runRename_pushTwice : ∃ items,
    (runRename pushTwice everyCommandSucceeds (singleScript "id".toList) idToKey).result =
      .ok items := by
  have found := collect_idToKey pushTwice "id".toList rfl rfl rfl
  have built : Identifier.compile "id".toList = .ok ⟨['i', 'd'], by decide⟩ := rfl
  obtain ⟨after, applied⟩ :=
    applyRenamings_single (singleScript_holdsText "id".toList) built "key" false
  obtain ⟨flow, told, prepared⟩ : ∃ flow told,
      pushTwice.prepare everyCommandSucceeds (singleScript "id".toList) = (.ok (), flow, told) :=
    ⟨_, _, rfl⟩
  have published : ∀ changed, ∃ last notices,
      pushTwice.publish everyCommandSucceeds after flow changed = (.ok (), last, notices) := by
    intro changed
    unfold RenameRequest.publish
    cases changed <;> exact ⟨_, _, rfl⟩
  unfold runRename
  rw [if_neg (by decide), found]
  simp only [RenameRequest.apply, prepared, List.map_cons, List.map_nil]
  rw [show pushTwice.dryRun = false from rfl]
  simp only [applied]
  generalize RenameReport.filesChanged _ after = changed
  obtain ⟨last, notices, pushed⟩ := published changed
  simp only [pushed]
  exact ⟨_, rfl⟩

/-- The sheet is asked for twice and its only row reported once. -/
theorem runRename_reports_rows_pushTwice :
    let files := singleScript "id".toList
    idToKey.sheetNames files = .ok ["s"] ∧ ["s"].Nodup ∧
      ∃ items item, (runRename pushTwice everyCommandSucceeds files idToKey).result = .ok items ∧
        items.filter (fun item => item.kind = .rename) = [item] ∧
        pushTwice.ReportsAll files [⟨"s", 0, "id", "key", "a.sql"⟩] [item] := by
  intro files
  obtain ⟨items, success⟩ := runRename_pushTwice
  have listed : idToKey.sheetNames files = .ok ["s"] := rfl
  have distinct : ["s"].Nodup := by decide
  obtain ⟨labels, renamed, prepared, published, goes, -, -, reports, -, only, -, -, -⟩ :=
    runRename_reports_rows listed distinct success
  have order : FirstAppearances (· = ·) ["s", "s"] labels := goes.order
  obtain rfl : labels = ["s"] := by
    refine List.perm_singleton.mp ((List.perm_ext_iff_of_nodup goes.distinct distinct).mpr ?_)
    intro name
    constructor
    · intro member
      simpa using order.mem member
    · intro same
      obtain ⟨first, member, rfl⟩ := order.covers name (by simpa using same)
      exact member
  have rows : pushTwice.rowsOf files idToKey ["s"] = [⟨"s", 0, "id", "key", "a.sql"⟩] :=
    rfl
  rw [rows] at reports
  obtain ⟨item, rfl⟩ := List.length_eq_one_iff.mp reports.length
  exact ⟨listed, distinct, items, item, success, only, reports⟩

end

end SqlColumns
