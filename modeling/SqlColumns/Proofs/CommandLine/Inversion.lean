import SqlColumns.Proofs.CommandLine.Settings
import SqlColumns.Proofs.CommandLine.Words
import SqlColumns.Proofs.Keyed
import SqlColumns.Proofs.Text.Split

/-!
# Reading what was written

An invocation can be written in many ways: its settings in any order, those that every command knows on
either side of the word for the command, the names of sheets one by one or several in one word. Each of
these command lines is read as the invocation, when no environment variable stands in for a setting.
-/

set_option autoImplicit false

namespace SqlColumns

namespace CommandLine

def isPlain (one : Setting × String) : Bool :=
  one.1 != .sheet

def Environment.IsSilent (environment : Environment) : Prop :=
  ∀ setting : Setting, ∀ name ∈ setting.environmentName?, environment.value? name = none

end CommandLine

namespace Invocation

open CommandLine

def settings (invocation : Invocation) : List (Setting × String) :=
  invocation.commonSettings ++ invocation.action.settings

/-- The settings of an invocation in front of the word for its command and behind it: those that are no
sheets once each in any order, and the sheets in their order, some of them together. -/
structure Arranges (invocation : Invocation) (outer inner : List (Setting × String)) : Prop where
  common : ∀ one ∈ outer, one.1 ∈ Setting.common
  plain : ((outer ++ inner).filter isPlain).Perm (invocation.settings.filter isPlain)
  sheets : ∃ groups : List (List String), [] ∉ groups ∧
    groups.flatten = invocation.action.sheetNames ∧
    inner.filter (fun one => one.1 == .sheet) =
      groups.map fun group => (.sheet, ",".intercalate group)

inductive Writes (invocation : Invocation) : List String → Prop where
  | line {outer inner : List (Setting × String)} {front behind : List String} :
      invocation.Arranges outer inner → Spelled outer front → Spelled inner behind →
      Writes invocation (front ++ invocation.action.name.word :: behind)

end Invocation

namespace CommandLine

/-!
## What counts of an arrangement
-/

theorem filter_counted (entries : List (Setting × String)) :
    (entries.flatMap Given.counted).filter isPlain = entries.filter isPlain := by
  induction entries with
  | nil => rfl
  | cons one rest ih =>
      obtain ⟨setting, value⟩ := one
      rw [List.flatMap_cons, List.filter_append, ih]
      by_cases sheet : setting = .sheet
      · subst sheet
        simp [Given.counted, isPlain]
      · have single : setting.repeats = false := by cases setting <;> simp_all [Setting.repeats]
        have plain : isPlain (setting, value) = true := by simp [isPlain, sheet]
        simp [Given.counted, Given.pieces, single, plain]

/-- Settings that are no sheets are looked up among each other. -/
theorem Given.value?_of_plain (values : List (Setting × String)) {setting : Setting}
    (plain : setting ≠ .sheet) :
    (Given.mk values none).value? setting =
      (Given.mk (values.filter isPlain) none).value? setting := by
  have same : ∀ one : Setting × String,
      (one.1 == setting) = decide (isPlain one = true ∧ (one.1 == setting) = true) := by
    intro one
    by_cases own : one.1 = setting <;> simp [isPlain, own, plain]
  simp only [Given.value?, List.find?_filter, ← same]

theorem sheets_counted (entries : List (Setting × String)) :
    ((entries.flatMap Given.counted).filter fun one => one.1 == .sheet).map Prod.snd =
      (entries.filter fun one => one.1 == .sheet).flatMap fun one => Text.splitString ',' one.2 := by
  induction entries with
  | nil => rfl
  | cons one rest ih =>
      obtain ⟨setting, value⟩ := one
      rw [List.flatMap_cons, List.filter_append, List.map_append, ih]
      by_cases sheet : setting = .sheet
      · subst sheet
        simp [Given.counted, Given.pieces, Setting.repeats, List.filter_map, Function.comp_def]
      · simp [Given.counted, sheet]

theorem splitString_intercalate {group : List String} (some : group ≠ [])
    (plain : ∀ name ∈ group, ',' ∉ name.toList) :
    Text.splitString ',' (",".intercalate group) = group := by
  have pieces : ∀ piece ∈ group.map String.toList, ',' ∉ piece := by simpa using plain
  have cut := Text.split_intercalate (by simpa using some) pieces
  have written : (",".intercalate group).toList = [','].intercalate (group.map String.toList) := by
    simp [String.toList_intercalate]
  rw [Text.splitString, written, cut, List.map_map]
  simp [Function.comp_def]

/-!
## Settings that come once
-/

theorem keys_flagIf (setting : Setting) (isSet : Bool) :
    ((flagIf setting isSet).map Prod.fst).Sublist [setting] := by
  cases isSet <;> simp [flagIf]

theorem keys_optionIf (setting : Setting) (value : Option String) :
    ((optionIf setting value).map Prod.fst).Sublist [setting] := by
  cases value <;> simp [optionIf]

theorem keys_filter {entries : List (Setting × String)} {known : List Setting}
    (keys : (entries.map Prod.fst).Sublist known) :
    ((entries.filter isPlain).map Prod.fst).Sublist known :=
  (List.filter_sublist.map Prod.fst).trans keys

theorem keys_book (book : BookOptions) :
    ((book.settings.filter isPlain).map Prod.fst).Sublist Setting.ofBook := by
  have sheets : (book.sheets.map fun name => (Setting.sheet, name)).filter isPlain = [] := by
    simp [isPlain]
  have keys : (book.settings.filter isPlain).map Prod.fst = [.workbook, .resultSheet] := by
    rw [BookOptions.settings, List.filter_append, List.filter_append, sheets]
    rfl
  rw [keys]
  decide

theorem keys_layout (layout : Layout) :
    (((layoutSettings layout).filter isPlain).map Prod.fst).Sublist Setting.ofLayout :=
  .refl _

/-- The settings of an action, but for its sheets, come once each. -/
theorem keys_action (action : Action) :
    ((action.settings.filter isPlain).map Prod.fst).Sublist action.name.own := by
  cases action with
  | sheets workbook => exact .refl _
  | scan options =>
      have shared := (keys_book options.book).append (keys_layout options.layout)
      have noWrite := keys_filter (keys_flagIf .noWrite options.noWrite)
      have skipHidden := keys_filter (keys_flagIf .skipHidden options.skipHidden)
      have respectIgnore := keys_filter (keys_flagIf .respectIgnore options.respectIgnore)
      simp only [Action.settings, List.filter_append, List.map_append]
      exact ((shared.append noWrite).append skipHidden).append respectIgnore
  | rename options =>
      have shared := (keys_book options.book).append (keys_layout options.layout)
      have dryRun := keys_filter (keys_flagIf .dryRun options.dryRun)
      have push := keys_filter (keys_flagIf .push options.push)
      have start := keys_filter (keys_optionIf .defaultBranch options.defaultBranch)
      have branch := keys_filter (keys_optionIf .branch options.branch)
      have message := keys_filter (keys_optionIf .message options.message)
      simp only [Action.settings, List.filter_append, List.map_append]
      exact ((((shared.append dryRun).append push).append start).append branch).append message
  | doctor => exact .refl _

theorem ne_sheet_of_common {setting : Setting} (common : setting ∈ Setting.common) :
    setting ≠ .sheet := by
  rintro rfl
  revert common
  decide

theorem sheet_known {action : Action} (named : action.sheetNames ≠ []) :
    .sheet ∈ action.name.own := by
  cases action with
  | sheets workbook => exact absurd rfl named
  | scan options => exact (by decide : Setting.sheet ∈ CommandName.scan.own)
  | rename options => exact (by decide : Setting.sheet ∈ CommandName.rename.own)
  | doctor => exact absurd rfl named

theorem nodup_known (name : CommandName) : (Setting.common ++ name.own).Nodup := by
  cases name <;> decide

end CommandLine

namespace Invocation

open CommandLine

variable {invocation : Invocation}

theorem keys_common (invocation : Invocation) :
    (invocation.commonSettings.map Prod.fst).Sublist Setting.common := by
  simp only [commonSettings, List.map_append]
  exact ((((List.Sublist.refl [Setting.root, .format]).append (keys_flagIf _ _)).append
    (keys_flagIf _ _)).append (keys_flagIf _ _)).append (keys_flagIf _ _)

theorem keys_settings (invocation : Invocation) :
    ((invocation.settings.filter isPlain).map Prod.fst).Sublist
      (Setting.common ++ invocation.action.name.own) := by
  rw [settings, List.filter_append, List.map_append]
  exact (keys_filter (keys_common invocation)).append (keys_action _)

theorem nodup_settings (invocation : Invocation) :
    ((invocation.settings.filter isPlain).map Prod.fst).Nodup :=
  (keys_settings invocation).nodup (nodup_known _)

structure IsWritable (invocation : Invocation) : Prop where
  root : invocation.root.text ≠ ""
  action : invocation.action.IsWritable

/-- A setting that every command knows is looked up among those in common. -/
theorem value?_settings_common {setting : Setting} (common : setting ∈ Setting.common) :
    (Given.mk invocation.settings none).value? setting =
      (Given.mk invocation.commonSettings none).value? setting := by
  have plain := ne_sheet_of_common common
  have absent : (Given.mk invocation.action.settings none).value? setting = none := by
    rw [Given.value?_of_plain _ plain]
    refine Given.value?_eq_none fun one member same => ?_
    have own := (keys_action invocation.action).subset (List.mem_map_of_mem member)
    rw [same] at own
    exact (List.nodup_append.mp (nodup_known invocation.action.name)).2.2 _ common _ own rfl
  rw [settings, Given.value?_append, absent, Option.or_none]

/-- Any other setting is looked up among those of the action. -/
theorem value?_settings_own {setting : Setting} (own : setting ∉ Setting.common) :
    (Given.mk invocation.settings none).value? setting =
      (Given.mk invocation.action.settings none).value? setting := by
  have absent : (Given.mk invocation.commonSettings none).value? setting = none := by
    refine Given.value?_eq_none fun one member same => own ?_
    exact same ▸ (keys_common invocation).subset (List.mem_map_of_mem member)
  rw [settings, Given.value?_append, absent, Option.none_or]

theorem value?_of_mem {one : Setting × String} (member : one ∈ invocation.settings)
    (plain : isPlain one = true) :
    (Given.mk invocation.settings none).value? one.1 = some one.2 := by
  have apart : one.1 ≠ .sheet := by simpa [isPlain] using plain
  rw [Given.value?_of_plain _ apart]
  exact (Keyed.find?_eq_some_iff (nodup_settings invocation)).mpr
    (List.mem_filter.mpr ⟨member, plain⟩)

theorem IsWritable.filled (writable : invocation.IsWritable) :
    ∀ one ∈ invocation.settings, one.1.isPath = true → one.2 ≠ "" := by
  rintro ⟨setting, value⟩ member path
  cases setting with
  | root =>
      have found : (Given.mk invocation.settings none).value? .root = some value :=
        value?_of_mem member rfl
      rw [value?_settings_common (by decide)] at found
      simp only [commonSettings, List.append_assoc, List.cons_append, Given.value?_cons, if_true,
        Option.some.injEq] at found
      exact found ▸ writable.root
  | workbook =>
      have found : (Given.mk invocation.settings none).value? .workbook = some value :=
        value?_of_mem member rfl
      rw [value?_settings_own (by decide)] at found
      exact writable.action.workbook found
  | _ => cases path

namespace Arranges

variable {outer inner : List (Setting × String)}

theorem mem_settings (arranges : invocation.Arranges outer inner) {one : Setting × String}
    (member : one ∈ outer ++ inner) (plain : isPlain one = true) : one ∈ invocation.settings := by
  have inside := arranges.plain.mem_iff.mp (List.mem_filter.mpr ⟨member, plain⟩)
  exact (List.mem_filter.mp inside).1

/-- No setting comes twice, but for sheets. -/
theorem once (arranges : invocation.Arranges outer inner) :
    (outer ++ inner).Pairwise fun left right => left.1 = right.1 → left.1.repeats = true := by
  have keys : (((outer ++ inner).filter isPlain).map Prod.fst).Nodup :=
    ((arranges.plain.map Prod.fst).nodup_iff).mpr (nodup_settings invocation)
  have apart := List.pairwise_filter.mp (List.pairwise_map.mp keys)
  refine apart.imp fun {left right} different same => ?_
  by_cases sheet : left.1 = .sheet
  · rw [sheet]
    rfl
  · have plain : isPlain left = true := by simpa [isPlain] using sheet
    have otherPlain : isPlain right = true := by simpa [isPlain, ← same] using sheet
    exact absurd same (different plain otherPlain)

theorem filled (arranges : invocation.Arranges outer inner) (writable : invocation.IsWritable) :
    ∀ one ∈ outer ++ inner, one.1.isPath = true → one.2 ≠ "" := by
  intro one member path
  have plain : isPlain one = true := by
    simp only [isPlain, bne_iff_ne]
    intro sheet
    rw [sheet] at path
    cases path
  exact writable.filled one (arranges.mem_settings member plain) path

theorem takes_outer (arranges : invocation.Arranges outer inner)
    (writable : invocation.IsWritable) : Level.outer.Takes outer where
  known := arranges.common
  filled one member := arranges.filled writable one (List.mem_append_left _ member)
  once := (List.pairwise_append.mp arranges.once).1

theorem known_inner (arranges : invocation.Arranges outer inner) :
    ∀ one ∈ inner, one.1 ∈ (Level.inner invocation.action.name).settings := by
  intro one member
  cases plain : isPlain one with
  | true =>
      have inside := arranges.mem_settings (List.mem_append_right _ member) plain
      exact (keys_settings invocation).subset
        (List.mem_map_of_mem (List.mem_filter.mpr ⟨inside, plain⟩))
  | false =>
      -- A sheet is written, so the action is one that has sheets.
      have sheet : one.1 = .sheet := by simpa [isPlain] using plain
      obtain ⟨groups, some, names, written⟩ := arranges.sheets
      have inside : one ∈ inner.filter fun one => one.1 == .sheet := by simp [member, sheet]
      rw [written] at inside
      obtain ⟨group, own, -⟩ := List.mem_map.mp inside
      have named : invocation.action.sheetNames ≠ [] := by
        rw [← names]
        intro empty
        exact some (List.flatten_eq_nil_iff.mp empty group own ▸ own)
      rw [sheet]
      exact List.mem_append_right _ (sheet_known named)

theorem takes_inner (arranges : invocation.Arranges outer inner)
    (writable : invocation.IsWritable) :
    (Level.inner invocation.action.name).Takes inner where
  known := arranges.known_inner
  filled one member := arranges.filled writable one (List.mem_append_right _ member)
  once := (List.pairwise_append.mp arranges.once).2.1

/-!
## What an arrangement is read as
-/

/-- What counts behind the word for the command and in front of it, together, is what was written. -/
theorem value?_or (arranges : invocation.Arranges outer inner) {setting : Setting}
    (plain : setting ≠ .sheet) :
    ((Given.mk (inner.flatMap Given.counted) none).value? setting).or
        ((Given.mk (outer.flatMap Given.counted) none).value? setting) =
      (Given.mk invocation.settings none).value? setting := by
  have same : ((inner ++ outer).filter isPlain).Perm (invocation.settings.filter isPlain) :=
    (List.perm_append_comm.filter isPlain).trans arranges.plain
  rw [Given.value?_of_plain _ plain, Given.value?_of_plain (outer.flatMap _) plain, filter_counted,
    filter_counted, ← Given.value?_append, ← List.filter_append,
    Given.value?_of_plain invocation.settings plain]
  exact (Keyed.find?_of_perm same.symm (nodup_settings invocation)).symm

/-- Settings of the command alone are found behind its word. -/
theorem value?_inner (arranges : invocation.Arranges outer inner) {setting : Setting}
    (own : setting ∉ Setting.common) (plain : setting ≠ .sheet) :
    (Given.mk (inner.flatMap Given.counted) none).value? setting =
      (Given.mk invocation.action.settings none).value? setting := by
  have absent : (Given.mk (outer.flatMap Given.counted) none).value? setting = none := by
    rw [Given.value?_of_plain _ plain, filter_counted]
    refine Given.value?_eq_none fun one member same => own ?_
    exact same ▸ arranges.common one (List.mem_filter.mp member).1
  have whole := arranges.value?_or plain
  rwa [absent, Option.or_none, value?_settings_own own] at whole

theorem sheets_inner (arranges : invocation.Arranges outer inner)
    (plain : ∀ name ∈ invocation.action.sheetNames, ',' ∉ name.toList) :
    (Given.mk (inner.flatMap Given.counted) none).allValues .sheet = invocation.action.sheetNames := by
  obtain ⟨groups, some, names, written⟩ := arranges.sheets
  have cut : ∀ group ∈ groups, Text.splitString ',' (",".intercalate group) = group := by
    intro group member
    refine splitString_intercalate (fun empty => some (empty ▸ member)) fun name inside => ?_
    exact plain name (names ▸ List.mem_flatten_of_mem member inside)
  simp only [Given.allValues, sheets_counted, written, List.flatMap_map]
  rw [List.flatMap_congr cut, ← names]
  simp

theorem action_inner (arranges : invocation.Arranges outer inner)
    (writable : invocation.IsWritable) :
    (Given.mk (inner.flatMap Given.counted) none).action invocation.action.name = invocation.action ∧
      validate invocation.action.name (Given.mk (inner.flatMap Given.counted) none) = .ok () := by
  have sheets := arranges.sheets_inner writable.action.plain
  rw [← allValues_settings] at sheets
  obtain ⟨action, valid⟩ := Given.action_congr (fun setting => arranges.value?_inner) sheets
    invocation.action.name
  rw [action, valid]
  exact ⟨action_settings _, validate_settings writable.action⟩

theorem invocation_eq (arranges : invocation.Arranges outer inner)
    (writable : invocation.IsWritable) :
    CommandLine.invocation (Given.mk (outer.flatMap Given.counted) none)
      (Given.mk (inner.flatMap Given.counted) none) invocation.action.name = invocation := by
  have found : ∀ setting ∈ Setting.common,
      ((Given.mk (inner.flatMap Given.counted) none).value? setting).or
          ((Given.mk (outer.flatMap Given.counted) none).value? setting) =
        (Given.mk invocation.commonSettings none).value? setting := by
    intro setting common
    rw [arranges.value?_or (ne_sheet_of_common common), value?_settings_common common]
  have text : ∀ setting ∈ Setting.common, ∀ default,
      (Given.mk (inner.flatMap Given.counted) none).text setting
          ((Given.mk (outer.flatMap Given.counted) none).text setting default) =
        ((Given.mk invocation.commonSettings none).value? setting).getD default := by
    intro setting common default
    rw [← found setting common, Option.getD_or]
    rfl
  have flag : ∀ setting ∈ Setting.common,
      ((Given.mk (inner.flatMap Given.counted) none).has setting ||
          (Given.mk (outer.flatMap Given.counted) none).has setting) =
        ((Given.mk invocation.commonSettings none).value? setting).isSome := by
    intro setting common
    rw [← found setting common, Option.isSome_or, Given.has_eq_isSome, Given.has_eq_isSome]
  have action := (arranges.action_inner writable).1
  simp (disch := decide) only [CommandLine.invocation, action, text, flag]
  simp [commonSettings, isSome_flag]

end Arranges

end Invocation

namespace CommandLine

/-!
## Command lines
-/

theorem empty_of_flag_common (invocation : Invocation) :
    ∀ one ∈ invocation.commonSettings, one.1.isFlag = true → one.2 = "" := by
  simp [Invocation.commonSettings, flagIf, Setting.isFlag, or_imp, forall_and]

theorem empty_of_flag_action (action : Action) :
    ∀ one ∈ action.settings, one.1.isFlag = true → one.2 = "" := by
  cases action <;>
    simp [Action.settings, BookOptions.settings, layoutSettings, flagIf, optionIf, Setting.isFlag,
      or_imp, forall_and]

end CommandLine

namespace Invocation

open CommandLine

/-- In the order in which they are printed, the settings are an arrangement, each sheet on its own. -/
theorem arranges_settings (invocation : Invocation) :
    invocation.Arranges invocation.commonSettings invocation.action.settings where
  common one member := (keys_common invocation).subset (List.mem_map_of_mem member)
  plain := .refl _
  sheets := by
    refine ⟨invocation.action.sheetNames.map fun name => [name], by simp, ?_, ?_⟩
    · rw [← List.flatMap_def, List.flatMap_singleton']
    · rw [sheets_settings, List.map_map]
      simp [Function.comp_def]

/-- What an invocation is printed as is a command line for it. -/
theorem writes_words (invocation : Invocation) : invocation.Writes invocation.words := by
  have front := spelled_words (empty_of_flag_common invocation)
  have behind := spelled_words (empty_of_flag_action invocation.action)
  have written := Writes.line (arranges_settings invocation) front behind
  simpa [words] using written

end Invocation

namespace CommandLine

theorem consult_silent {environment : Environment} (silent : environment.IsSilent) (given : Given)
    (settings : List Setting) : consult environment given settings = .ok given := by
  induction settings with
  | nil => rfl
  | cons setting rest ih =>
      have unset : setting.environmentName?.bind environment.value? = none := by
        cases named : setting.environmentName? with
        | none => rfl
        | some name => exact silent setting name named
      simp only [consult, unset, ite_self, ih]

theorem readCommand_arranged {environment : Environment} (silent : environment.IsSilent)
    {invocation : Invocation} (writable : invocation.IsWritable)
    {outer inner : List (Setting × String)} (arranges : invocation.Arranges outer inner)
    {words : List String} (spelled : Spelled inner words) :
    readCommand environment invocation.action.name words =
      .ok ⟨inner.flatMap Given.counted, none⟩ := by
  have read := (arranges.takes_inner writable).readLevel_nothing spelled []
  rw [List.append_nil, readLevel] at read
  have valid := (arranges.action_inner writable).2
  simp only [readCommand, read, Given.settle, consult_silent silent, valid, bind, Except.bind, pure,
    Except.pure]

/-- Every command line that writes an invocation is read as this invocation, where no environment
variable stands in for a setting, and what the invocation is printed as is such a line. -/
theorem parse_written {environment : Environment} (silent : environment.IsSilent)
    {invocation : Invocation} (writable : invocation.IsWritable) :
    (∀ line, invocation.Writes line → parse environment line = .ok invocation) ∧
      invocation.Writes invocation.words := by
  refine ⟨fun line written => ?_, invocation.writes_words⟩
  cases written with
  | @line outer inner front behind arranges before after =>
      have first := (arranges.takes_outer writable).readLevel_nothing before
        (invocation.action.name.word :: behind)
      rw [readLevel_command _ rfl] at first
      have second := readCommand_arranged silent writable arranges after
      simp only [parse, first, second, Given.settle, bind, Except.bind, pure, Except.pure]
      rw [arranges.invocation_eq writable]

/-- A renaming with a root that starts with a hyphen, a sign of equality as its format, a blank in the
name of a sheet, an empty branch, and a message that is spelled as a flag. -/
def pushInvocation : Invocation where
  root := ⟨"-r"⟩
  format := "="
  noColour := false
  quiet := true
  verbose := false
  pretty := false
  action := .rename {
    book := ⟨⟨"w"⟩, ["a", "b c", "-d"], ""⟩
    layout := { columnHeader := "x=y" }
    dryRun := false
    push := true
    defaultBranch := some "main"
    branch := some ""
    message := some "--push" }

def pushLine : List String :=
  ["-q", "--root=-r", "rename", "--message=--push", "--push", "--sheet=a,b c", "--format==",
    "--workbook=w", "--file-header=File", "--sheet=-d", "--new-header=Renamed objects",
    "--old-header=Search Key", "--rename-marker=COL RENAME", "--change-type-header=Change Type",
    "--column-header=x=y", "--branch=", "--default-branch=main", "--result-sheet="]

/-- No value is taken for a word of its own, and the sheets keep their order over both of their words. -/
theorem parse_written_push :
    Environment.IsSilent [("LANG", "C")] ∧ pushInvocation.IsWritable ∧
      pushInvocation.Writes pushLine ∧ parse [("LANG", "C")] pushLine = .ok pushInvocation := by
  have silent : Environment.IsSilent [("LANG", "C")] := by
    intro setting
    cases setting <;> decide
  have complete : pushInvocation.IsWritable := by
    refine ⟨by decide, .rename (by decide) (by decide) ?_⟩
    exact fun _ => ⟨rfl, rfl, rfl, rfl⟩
  have arranges : pushInvocation.Arranges [(.quiet, ""), (.root, "-r")]
      [(.message, "--push"), (.push, ""), (.sheet, "a,b c"), (.format, "="), (.workbook, "w"),
        (.fileHeader, "File"), (.sheet, "-d"), (.newHeader, "Renamed objects"),
        (.oldHeader, "Search Key"), (.renameMarker, "COL RENAME"),
        (.changeTypeHeader, "Change Type"), (.columnHeader, "x=y"), (.branch, ""),
        (.defaultBranch, "main"), (.resultSheet, "")] := by
    refine ⟨by decide, by decide, [["a", "b c"], ["-d"]], by decide, rfl, ?_⟩
    decide
  have front : Spelled [(.quiet, ""), (.root, "-r")] ["-q", "--root=-r"] :=
    .cons (.letter rfl rfl rfl) (spelled_words (by decide))
  have written : pushInvocation.Writes pushLine := .line arranges front (spelled_words (by decide))
  have reads := (parse_written silent complete).1
  exact ⟨silent, complete, written, reads pushLine written⟩

end CommandLine

end SqlColumns
