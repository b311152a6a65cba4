import SqlColumns.CommandLine.Parser
import SqlColumns.CommandLine.Printer

/-!
# Settings of an action

The settings that an action is written with, looked up one by one, give the action back. What a level
has read is looked up in the same way, so only what is found matters, and not in which order it was
given.
-/

set_option autoImplicit false

namespace SqlColumns.CommandLine

namespace Given

variable {setting : Setting}

theorem has_eq_isSome (given : Given) (setting : Setting) :
    given.has setting = (given.value? setting).isSome := by
  simp only [has, value?, Option.isSome_map, List.isSome_find?]

@[simp] theorem value?_append (left right : List (Setting × String)) :
    (mk (left ++ right) none).value? setting =
      ((mk left none).value? setting).or ((mk right none).value? setting) := by
  simp only [value?, List.find?_append, Option.map_or]

theorem value?_eq_none {values : List (Setting × String)}
    (absent : ∀ one ∈ values, one.1 ≠ setting) : (mk values none).value? setting = none := by
  simpa [value?] using absent

@[simp] theorem value?_nil : (mk [] none).value? setting = none :=
  rfl

@[simp] theorem value?_cons (other : Setting) (value : String) (rest : List (Setting × String)) :
    (mk ((other, value) :: rest) none).value? setting =
      if other = setting then some value else (mk rest none).value? setting := by
  by_cases same : other = setting <;> simp [value?, same]

@[simp] theorem value?_flagIf (other : Setting) (isSet : Bool) :
    (mk (flagIf other isSet) none).value? setting =
      if other = setting ∧ isSet = true then some "" else none := by
  cases isSet <;> simp [flagIf, value?_nil, value?_cons]

@[simp] theorem value?_optionIf (other : Setting) (value : Option String) :
    (mk (optionIf other value) none).value? setting = if other = setting then value else none := by
  cases value <;> simp [optionIf, value?_nil, value?_cons]

@[simp] theorem value?_sheets (names : List String) (plain : setting ≠ .sheet) :
    (mk (names.map fun name => (Setting.sheet, name)) none).value? setting = none := by
  refine value?_eq_none fun one member => ?_
  obtain ⟨name, -, rfl⟩ := List.mem_map.mp member
  exact plain.symm

end Given

def Action.sheetNames : Action → List String
  | .sheets _ => []
  | .scan options => options.book.sheets
  | .rename options => options.book.sheets
  | .doctor => []

/-- What can be asked for: a workbook whose path is not empty, sheets whose names have no comma, and a
push only with its branches and message and not in a dry run. -/
inductive Action.IsWritable : Action → Prop where
  | sheets {workbook : Path} : workbook.text ≠ "" → IsWritable (.sheets workbook)
  | scan {options : ScanOptions} : options.book.workbook.text ≠ "" →
      (∀ name ∈ options.book.sheets, ',' ∉ name.toList) → IsWritable (.scan options)
  | rename {options : RenameOptions} : options.book.workbook.text ≠ "" →
      (∀ name ∈ options.book.sheets, ',' ∉ name.toList) →
      (options.push = true → options.dryRun = false ∧ options.defaultBranch.isSome = true ∧
        options.branch.isSome = true ∧ options.message.isSome = true) →
      IsWritable (.rename options)
  | doctor : IsWritable .doctor

theorem Action.IsWritable.plain {action : Action} (writable : action.IsWritable) :
    ∀ name ∈ action.sheetNames, ',' ∉ name.toList := by
  cases writable with
  | sheets some => simp [sheetNames]
  | scan some names => exact names
  | rename some names complete => exact names
  | doctor => simp [sheetNames]

theorem Action.IsWritable.workbook {action : Action} (writable : action.IsWritable) {value : String}
    (found : (Given.mk action.settings none).value? .workbook = some value) : value ≠ "" := by
  cases writable with
  | sheets some =>
      simp only [Action.settings, Given.value?_cons, if_true, Option.some.injEq] at found
      exact found ▸ some
  | scan some names =>
      simp only [Action.settings, BookOptions.settings, List.append_assoc, List.cons_append,
        Given.value?_cons, if_true, Option.some.injEq] at found
      exact found ▸ some
  | rename some names complete =>
      simp only [Action.settings, BookOptions.settings, List.append_assoc, List.cons_append,
        Given.value?_cons, if_true, Option.some.injEq] at found
      exact found ▸ some
  | doctor => cases found

theorem isSome_flag (isSet : Bool) : (if isSet = true then some "" else none).isSome = isSet := by
  cases isSet <;> rfl

theorem filter_flagIf {setting other : Setting} (apart : other ≠ setting) (isSet : Bool) :
    (flagIf other isSet).filter (fun one => one.1 == setting) = [] := by
  cases isSet <;> simp [flagIf, apart]

theorem filter_optionIf {setting other : Setting} (apart : other ≠ setting) (value : Option String) :
    (optionIf other value).filter (fun one => one.1 == setting) = [] := by
  cases value <;> simp [optionIf, apart]

theorem sheets_settings (action : Action) :
    action.settings.filter (fun one => one.1 == .sheet) =
      action.sheetNames.map fun name => (.sheet, name) := by
  cases action with
  | sheets workbook => rfl
  | scan options =>
      simp [Action.settings, Action.sheetNames, BookOptions.settings, layoutSettings, filter_flagIf]
  | rename options =>
      simp [Action.settings, Action.sheetNames, BookOptions.settings, layoutSettings, filter_flagIf,
        filter_optionIf]
  | doctor => rfl

theorem allValues_settings (action : Action) :
    (Given.mk action.settings none).allValues .sheet = action.sheetNames := by
  rw [Given.allValues, sheets_settings, List.map_map]
  exact List.map_id _

theorem action_settings (action : Action) :
    (Given.mk action.settings none).action action.name = action := by
  cases action with
  | sheets workbook =>
      simp [Action.settings, Action.name, Given.action, Given.workbook, Given.text]
  | scan options =>
      have sheets := allValues_settings (.scan options)
      simp only [Action.name, Given.action, Given.book, sheets]
      simp [Action.settings, Action.sheetNames, Given.workbook, Given.text, Given.layout,
        Given.has_eq_isSome, BookOptions.settings, layoutSettings, isSome_flag]
  | rename options =>
      have sheets := allValues_settings (.rename options)
      simp only [Action.name, Given.action, Given.book, sheets]
      simp [Action.settings, Action.sheetNames, Given.workbook, Given.text, Given.layout,
        Given.has_eq_isSome, BookOptions.settings, layoutSettings, isSome_flag]
  | doctor => rfl

theorem validate_settings {action : Action} (writable : action.IsWritable) :
    validate action.name (Given.mk action.settings none) = .ok () := by
  cases writable with
  | sheets path => simp [Action.settings, Action.name, validate, Given.has_eq_isSome]
  | scan path names =>
      simp [Action.settings, Action.name, validate, Given.has_eq_isSome, BookOptions.settings,
        layoutSettings]
  | @rename options path names complete =>
      simp only [Action.settings, Action.name, validate, Given.has_eq_isSome, BookOptions.settings,
        layoutSettings]
      cases push : options.push with
      | false => simp
      | true =>
          obtain ⟨dry, start, branch, message⟩ := complete push
          simp [dry, start, branch, message]
  | doctor => rfl

/-- An action comes from what is found of its own settings, and so does what it needs. -/
theorem Given.action_congr {left right : Given}
    (same : ∀ setting ∉ Setting.common, setting ≠ .sheet → left.value? setting = right.value? setting)
    (sheets : left.allValues .sheet = right.allValues .sheet) (name : CommandName) :
    left.action name = right.action name ∧ validate name left = validate name right := by
  cases name <;>
    simp (disch := decide) only [action, workbook, text, book, layout, validate, has_eq_isSome, same,
      sheets, and_self]

end SqlColumns.CommandLine
