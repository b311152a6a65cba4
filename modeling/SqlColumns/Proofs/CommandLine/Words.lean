import Mathlib.Data.List.Forall2
import Mathlib.Data.List.TakeWhile
import SqlColumns.CommandLine.Parser
import SqlColumns.CommandLine.Printer

/-!
# Reading the words of settings

A word that spells a setting with its value is read as this setting, whichever word stands beside it.
A level so reads its words into the list of what they spell, and ends at the word for a command.
-/

set_option autoImplicit false

namespace SqlColumns.CommandLine

/-!
## Single words
-/

/-- The words for a setting with a value. A flag has no value, and may be given by its letter. -/
inductive Setting.Spells (setting : Setting) (value : String) : String → Prop where
  | name : (setting.isFlag = true → value = "") → Spells setting value (setting.word value)
  | letter {c : Char} : setting.isFlag = true → value = "" → setting.short? = some c →
      Spells setting value (String.ofList ['-', c])

theorem Level.long?_long (level : Level) :
    ∀ setting ∈ level.settings, level.long? setting.long = some (.setting setting) := by
  cases level with
  | outer => decide
  | inner name => cases name <;> decide

theorem Level.short?_flag (level : Level) {setting : Setting} (flag : setting.isFlag = true) {c : Char}
    (letter : setting.short? = some c) : level.short? c = some (.setting setting) := by
  cases setting with
  | quiet | verbose =>
      cases letter
      cases level with
      | outer => rfl
      | inner name => cases name <;> rfl
  | _ => cases flag <;> cases letter

theorem Setting.long_ne_nil (setting : Setting) : setting.long.toList ≠ [] := by
  cases setting <;> decide

theorem Setting.ne_sign_of_mem_long (setting : Setting) :
    ∀ c ∈ setting.long.toList, (c != '=') = true := by
  have checked : setting.long.toList.all (· != '=') = true := by cases setting <;> decide
  exact List.all_eq_true.mp checked

theorem Setting.ne_hyphen_of_short? {setting : Setting} {c : Char}
    (known : setting.short? = some c) : c ≠ '-' := by
  rintro rfl
  revert known
  cases setting <;> decide

/-- A word that starts with a hyphen is none of those that stand for commands. -/
theorem not_command_of_hyphen {word : String} {rest : List Char}
    (written : word.toList = '-' :: rest) :
    word ≠ helpWord ∧ CommandName.ofWord? word = none := by
  have apart : ∀ other : String, other.toList.head? ≠ some '-' → word ≠ other := by
    rintro other first rfl
    simp [written] at first
  refine ⟨apart helpWord (by decide), List.find?_eq_none.mpr fun name _ => ?_⟩
  have other : word ≠ name.word := apart name.word (by cases name <;> decide)
  simpa using Ne.symm other

theorem wordAt_long (level : Level) {word : String} {rest : List Char} (some : rest ≠ [])
    (written : word.toList = '-' :: '-' :: rest) : wordAt level false false word = .long rest := by
  obtain ⟨help, command⟩ := not_command_of_hyphen written
  cases rest with
  | nil => exact absurd rfl some
  | cons c rest => simp [wordAt, help, command, written]

theorem wordAt_letter (level : Level) {word : String} {c : Char} (apart : c ≠ '-')
    (written : word.toList = ['-', c]) : wordAt level false false word = .letters [c] := by
  obtain ⟨help, command⟩ := not_command_of_hyphen written
  simp [wordAt, help, command, written, apart]

theorem wordAt_command (name : CommandName) :
    wordAt .outer false false name.word = .command name := by
  cases name <;> decide

theorem Setting.toList_word_flag {setting : Setting} (flag : setting.isFlag = true)
    (value : String) : (setting.word value).toList = '-' :: '-' :: setting.long.toList := by
  simp [word, flag]

theorem Setting.toList_word_option {setting : Setting} (option : setting.isFlag = false)
    (value : String) :
    (setting.word value).toList = '-' :: '-' :: (setting.long.toList ++ '=' :: value.toList) := by
  simp [word, option]

section

variable {level : Level} {setting : Setting} {given : Given}

theorem readName_flag (known : setting ∈ level.settings) :
    readName level given setting.long.toList = given.obey (.setting setting) none := by
  have plain := setting.ne_sign_of_mem_long
  rw [readName, List.takeWhile_eq_self_iff.mpr plain, List.dropWhile_eq_nil_iff.mpr plain,
    String.ofList_toList, level.long?_long setting known]

theorem readName_option (known : setting ∈ level.settings) (value : String) :
    readName level given (setting.long.toList ++ '=' :: value.toList) =
      given.obey (.setting setting) (some value) := by
  have plain := setting.ne_sign_of_mem_long
  have name : (setting.long.toList ++ '=' :: value.toList).takeWhile (· != '=') =
      setting.long.toList := by
    simp [List.takeWhile_append_of_pos plain]
  have rest : (setting.long.toList ++ '=' :: value.toList).dropWhile (· != '=') =
      '=' :: value.toList := by
    simp [List.dropWhile_append_of_pos plain]
  rw [readName, name, rest, String.ofList_toList, level.long?_long setting known]
  simp only [String.ofList_toList]

theorem Given.obey_flag (closed : given.pending = none) (flag : setting.isFlag = true) :
    given.obey (.setting setting) none = given.put setting "" := by
  simp [obey, settle, closed, flag, bind, Except.bind]

theorem Given.obey_option (closed : given.pending = none) (option : setting.isFlag = false)
    (value : String) : given.obey (.setting setting) (some value) = given.put setting value := by
  simp [obey, settle, closed, option, bind, Except.bind]

/-- A word for a setting lets the setting count. -/
theorem readLevel_spelled {value word : String} {next : Given} (known : setting ∈ level.settings)
    (spells : setting.Spells value word) (closed : given.pending = none)
    (counts : given.put setting value = .ok next) (words : List String) :
    readLevel level given false (word :: words) = readLevel level next false words := by
  have settled : given.waits = false := by simp [Given.waits, closed]
  cases spells with
  | name plain =>
      cases kind : setting.isFlag with
      | true =>
          obtain rfl := plain kind
          have place := wordAt_long level setting.long_ne_nil (Setting.toList_word_flag kind "")
          simp only [readLevel, settled, place, readName_flag known, Given.obey_flag closed kind, counts]
      | false =>
          have place := wordAt_long level (by simp) (Setting.toList_word_option kind value)
          simp only [readLevel, settled, place, readName_option known, Given.obey_option closed kind,
            counts]
  | letter flag plain letter =>
      subst plain
      have place := wordAt_letter level (Setting.ne_hyphen_of_short? letter) (String.toList_ofList)
      have meaning := level.short?_flag flag letter
      simp only [readLevel, settled, place, readLetters, meaning, flag, if_true,
        Given.obey_flag closed flag, counts]

end

/-!
## The words of a level
-/

def Given.counted (one : Setting × String) : List (Setting × String) :=
  (pieces one.1 one.2).map fun piece => (one.1, piece)

/-- Settings that a level knows, none of them twice unless it may be repeated, and no empty path. -/
structure Level.Takes (level : Level) (entries : List (Setting × String)) : Prop where
  known : ∀ one ∈ entries, one.1 ∈ level.settings
  filled : ∀ one ∈ entries, one.1.isPath = true → one.2 ≠ ""
  once : entries.Pairwise fun left right => left.1 = right.1 → left.1.repeats = true

def Spelled (entries : List (Setting × String)) (words : List String) : Prop :=
  List.Forall₂ (fun one word => one.1.Spells one.2 word) entries words

theorem spelled_words {entries : List (Setting × String)}
    (plain : ∀ one ∈ entries, one.1.isFlag = true → one.2 = "") :
    Spelled entries (entries.map fun one => one.1.word one.2) := by
  refine List.forall₂_map_right_iff.mpr (List.forall₂_same.mpr fun one member => ?_)
  exact .name (plain one member)

variable {level : Level} {entries values : List (Setting × String)} {words : List String}

theorem Given.put_of_new {setting : Setting} {value : String}
    (new : setting.repeats = false → ∀ one ∈ values, one.1 ≠ setting)
    (filled : setting.isPath = true → value ≠ "") :
    (Given.mk values none).put setting value =
      .ok ⟨values ++ counted (setting, value), none⟩ := by
  have first : ((Given.mk values none).has setting && !setting.repeats) = false := by
    cases repeats : setting.repeats with
    | true => simp
    | false => simpa [has] using fun other text member same => new repeats _ member same
  have path : (setting.isPath && value.isEmpty) = false := by
    cases isPath : setting.isPath with
    | false => rfl
    | true => simpa using filled isPath
  simp only [put, first, path, Bool.false_eq_true, if_false, counted]

/-- A level reads the words for settings that it takes into what counts of them. -/
theorem Level.Takes.readLevel (takes : level.Takes entries) (spelled : Spelled entries words)
    (new : ∀ one ∈ entries, one.1.repeats = false → ∀ other ∈ values, other.1 ≠ one.1)
    (rest : List String) :
    readLevel level ⟨values, none⟩ false (words ++ rest) =
      CommandLine.readLevel level ⟨values ++ entries.flatMap Given.counted, none⟩ false rest := by
  induction spelled generalizing values with
  | nil => simp
  | @cons one word entries words spells _ ih =>
      obtain ⟨known, knownRest⟩ := List.forall_mem_cons.mp takes.known
      obtain ⟨filled, filledRest⟩ := List.forall_mem_cons.mp takes.filled
      obtain ⟨apart, onceRest⟩ := List.pairwise_cons.mp takes.once
      obtain ⟨newOne, newRest⟩ := List.forall_mem_cons.mp new
      have counts := Given.put_of_new newOne filled
      rw [List.cons_append, readLevel_spelled known spells rfl counts,
        ih ⟨knownRest, filledRest, onceRest⟩, List.append_assoc, List.flatMap_cons]
      -- What has just counted is no setting of the rest but one that may be repeated.
      intro later member single other inside same
      rcases List.mem_append.mp inside with earlier | own
      · exact newRest later member single other earlier same
      · obtain ⟨piece, -, rfl⟩ := List.mem_map.mp own
        have repeated := apart later member same
        rw [same, single] at repeated
        cases repeated

theorem Level.Takes.readLevel_nothing (takes : level.Takes entries) (spelled : Spelled entries words)
    (rest : List String) :
    CommandLine.readLevel level .nothing false (words ++ rest) =
      CommandLine.readLevel level ⟨entries.flatMap Given.counted, none⟩ false rest :=
  takes.readLevel spelled (by simp) rest

theorem readLevel_command (given : Given) (closed : given.pending = none) (name : CommandName)
    (words : List String) :
    readLevel .outer given false (name.word :: words) = .ok (given, some (name, words)) := by
  have settled : given.waits = false := by simp [Given.waits, closed]
  simp only [readLevel, settled, wordAt_command]

end SqlColumns.CommandLine
