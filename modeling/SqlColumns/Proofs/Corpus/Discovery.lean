import SqlColumns.Proofs.FileSystem.Listing

/-!
# Discovered files

A discovery opens the root, reads the rules and goes down; it succeeds when nothing on this way fails.
A corpus is made of entries of a file system, each seen from the root. Entries differ in their names,
so a corpus does not hold one file twice.
-/

set_option autoImplicit false

namespace SqlColumns

/-- Entries have names that files can have: neither empty nor dots, and without slashes. -/
def FileSystem.HasNames (files : FileSystem) : Prop :=
  ∀ one ∈ files.entries, FileSystem.IsProper one.1

instance : DecidablePred FileSystem.HasNames :=
  fun files => inferInstanceAs (Decidable (∀ one ∈ files.entries, FileSystem.IsProper one.1))

theorem FileSystem.hasNames_of_single {files : FileSystem} {location : Location} {entry : Entry}
    (only : files.entries = [(location, entry)]) (proper : FileSystem.IsProper location) :
    files.HasNames := by
  intro one member
  rw [only] at member
  obtain rfl := List.mem_singleton.mp member
  exact proper

namespace Corpus

variable {files : FileSystem} {root : Path} {location : Location} {filter : Filter}
  {paths : List Path}

theorem append_of_sqlFile? {one : Location × Entry} {names : List String}
    (found : sqlFile? location one = some names) : location ++ names = one.1 := by
  unfold sqlFile? at found
  split at found
  · next content file =>
      simp only [Option.ite_none_right_eq_some, Bool.and_eq_true, Option.some.injEq] at found
      obtain ⟨⟨below, -⟩, rfl⟩ := found
      exact List.prefix_iff_eq_append.mp (List.isPrefixOf_iff_prefix.mp below)
  · cases found

theorem nodup_sqlFiles (files : FileSystem) (location : Location) :
    (sqlFiles files location).Nodup := by
  have distinct : files.entries.Pairwise fun left right => left.1 ≠ right.1 :=
    List.pairwise_map.mp files.distinct
  refine distinct.filterMap _ fun left right apart names first others second same => ?_
  subst same
  rw [← append_of_sqlFile? first, ← append_of_sqlFile? second] at apart
  exact apart rfl

theorem isProper_of_mem_sqlFiles (named : files.HasNames) {names : List String}
    (member : names ∈ sqlFiles files location) : FileSystem.IsProper names := by
  obtain ⟨one, inside, found⟩ := List.mem_filterMap.mp member
  intro name listed
  refine named one inside name ?_
  rw [← append_of_sqlFile? found]
  exact List.mem_append_right location listed

def shownFiles (files : FileSystem) (root : Path) (location : Location) (book : Option Rulebook)
    (skipHidden : Bool) : List Path :=
  (((sqlFiles files location).filter (letsThrough book skipHidden)).map
    (pathBelow root)).mergeSort Path.le

theorem mem_shownFiles_iff {book : Option Rulebook} {skipHidden : Bool} {path : Path} :
    path ∈ shownFiles files root location book skipHidden ↔
      ∃ names ∈ sqlFiles files location, letsThrough book skipHidden names = true ∧
        pathBelow root names = path := by
  simp only [shownFiles, List.mem_mergeSort, List.mem_map, List.mem_filter, and_assoc]

/-- A rulebook without faults is respected, or there is none. -/
theorem rulebook?_eq_ok_iff [UserRules] {book : Option Rulebook} :
    filter.rulebook? files root location = .ok book ↔
      (filter.respectIgnore = true ∧ (Rulebook.load files root location).2 = [] ∧
        book = some (Rulebook.load files root location).1) ∨
      (filter.respectIgnore = false ∧ book = none) := by
  unfold Filter.rulebook?
  cases respects : filter.respectIgnore with
  | false =>
      simp only [Bool.false_eq_true, if_false, Except.ok.injEq, false_and, false_or, true_and]
      exact eq_comm
  | true =>
      cases Rulebook.load files root location with
      | mk own faults =>
          cases faults with
          | nil =>
              simp only [if_true, Except.ok.injEq, true_and, Bool.true_eq_false, false_and, or_false]
              exact eq_comm
          | cons fault faults => simp

/-- The directories that are entered can be followed. -/
theorem unreached?_eq_none_iff {book : Option Rulebook} {skipHidden : Bool} :
    unreached? files root location book skipHidden = none ↔
      ∀ names ∈ foldersBelow files location, enters book skipHidden names = true →
        ∃ found, files.locate (pathBelow root names) = .ok found := by
  simp only [unreached?, List.findSome?_eq_none_iff, List.forall_mem_map]
  refine forall_congr' fun names => imp_congr_right fun member => ?_
  cases located : files.locate (pathBelow root names) with
  | ok found => simp
  | error cause => simp

/-- In a directory, a discovery reads the rules and then goes down, unless the directory is called as
the standard input is. -/
theorem discover_of_isFolder [UserRules] (opened : files.IsFolder root location)
    (own : isStandardInput root = false) : discover files root filter =
      (filter.rulebook? files root location).bind fun book =>
        match unreached? files root location book filter.skipHidden with
        | some (folder, cause) => .error (.unreached root folder cause)
        | none => .ok (shownFiles files root location book filter.skipHidden) := by
  have directory : files.isDirectory root = true := FileSystem.isDirectory_iff.mpr ⟨_, opened⟩
  simp only [discover, directory, opened.located, own, Bool.false_eq_true, if_false]
  cases filter.rulebook? files root location <;> rfl

theorem discover_of_isStandardInput [UserRules] (opened : files.IsFolder root location)
    (standard : isStandardInput root = true) : discover files root filter = .ok [] := by
  have directory : files.isDirectory root = true := FileSystem.isDirectory_iff.mpr ⟨_, opened⟩
  simp only [discover, directory, opened.located, standard, if_true]

/-- A discovery succeeds when the rules have no faults and the directories that it enters can be
followed. -/
inductive Discovers [UserRules] (files : FileSystem) (root : Path) (filter : Filter) :
    List Path → Prop where
  | standardInput {location : Location} (opened : files.IsFolder root location)
      (standard : isStandardInput root = true) : Discovers files root filter []
  | below {location : Location} {book : Option Rulebook} (opened : files.IsFolder root location)
      (own : isStandardInput root = false)
      (rules : filter.rulebook? files root location = .ok book)
      (reached : unreached? files root location book filter.skipHidden = none) :
      Discovers files root filter (shownFiles files root location book filter.skipHidden)

theorem discover_eq_ok_iff [UserRules] :
    discover files root filter = .ok paths ↔ Discovers files root filter paths := by
  constructor
  · intro success
    have directory : files.isDirectory root = true := by
      unfold discover at success
      split at success
      · assumption
      · cases success
    obtain ⟨location, opened⟩ := FileSystem.isDirectory_iff.mp directory
    cases standard : isStandardInput root with
    | true =>
        rw [discover_of_isStandardInput opened standard] at success
        cases success
        exact .standardInput opened standard
    | false =>
        rw [discover_of_isFolder opened standard] at success
        cases rules : filter.rulebook? files root location with
        | error failure => simp [rules, Except.bind] at success
        | ok book =>
            simp only [rules, Except.bind] at success
            split at success
            · cases success
            · next reached =>
                cases success
                exact .below opened standard rules reached
  · rintro (⟨opened, standard⟩ | ⟨opened, own, rules, reached⟩)
    · exact discover_of_isStandardInput opened standard
    · simp only [discover_of_isFolder opened own, rules, Except.bind, reached]

theorem distinct_shownFiles (named : files.HasNames) {book : Option Rulebook} {skipHidden : Bool} :
    Path.Distinct (((sqlFiles files location).filter (letsThrough book skipHidden)).map
      (pathBelow root)) := by
  rw [Path.Distinct, List.pairwise_map]
  refine (nodup_sqlFiles files location).filter _ |>.imp_of_mem fun left right apart same => ?_
  have proper : ∀ names ∈ (sqlFiles files location).filter (letsThrough book skipHidden),
      FileSystem.IsProper names :=
    fun names member => isProper_of_mem_sqlFiles named (List.mem_filter.mp member).1
  exact apart (pathBelow_inj (proper _ left) (proper _ right) same)

/-- No two of the discovered paths are those of one file. -/
theorem discover_distinct [UserRules] (named : files.HasNames)
    (result : discover files root filter = .ok paths) :
    Path.Distinct paths := by
  cases discover_eq_ok_iff.mp result with
  | standardInput opened standard => exact .nil
  | below opened own rules reached =>
      -- Sorting moves the paths only, and that two are apart does not depend on their order.
      rw [Path.Distinct, shownFiles,
        (List.mergeSort_perm _ _).pairwise_iff fun apart same => apart same.symm]
      exact distinct_shownFiles named

end Corpus

end SqlColumns
