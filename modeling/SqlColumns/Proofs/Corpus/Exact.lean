import SqlColumns.Proofs.Corpus.Change
import SqlColumns.Proofs.Path.Order

/-!
# What a discovery finds

A discovery goes down from the root, and leaves out a name together with everything below it. So it
finds the SQL files on whose way no name is left out, at any depth, each once and in order. It fails
only for a directory on such a way whose path is too long to be followed.
-/

set_option autoImplicit false

namespace SqlColumns

/-- Names that a system takes: they have no NUL and are not too long. -/
def FileSystem.HasUsableNames (files : FileSystem) : Prop :=
  ∀ one ∈ files.entries, ∀ name ∈ one.1,
    '\x00' ∉ name.toList ∧ (Text.encodeString name).length ≤ 255

namespace Corpus

open FileSystem

variable {files : FileSystem} {root : Path} {location : Location} {names : List String}

/-!
## SQL files
-/

structure IsSqlFile (files : FileSystem) (location : Location) (names : List String) : Prop where
  file : ∃ content, files.entryAt? (location ++ names) = some (.file content)
  extension : ∃ stem ending, names.getLast? = some (stem ++ "." ++ ending) ∧ stem ≠ "" ∧
    ending.toList.map Char.toLower = "sql".toList

theorem isSqlName_iff {name : String} (proper : IsName name) :
    isSqlName name = true ↔ ∃ stem ending, name = stem ++ "." ++ ending ∧ stem ≠ "" ∧
      ending.toList.map Char.toLower = "sql".toList := by
  have single : (Path.mk name).extension? = (Path.splitName name).2 := by
    rw [Path.extension?, Path.fileName?, Path.components_of_isName proper]
    rfl
  have small : "sql".toList.map Char.toLower = "sql".toList := by decide
  rw [isSqlName, Path.hasExtension_eq, single, small]
  constructor
  · intro ends
    obtain ⟨ending, own, same⟩ := (Option.any_eq_true _ _).mp ends
    obtain ⟨written, parts⟩ := Path.eq_of_splitName (Prod.ext rfl own)
    refine ⟨_, ending, String.toList_inj.mp ?_, written, beq_iff_eq.mp same⟩
    simp [parts]
  · rintro ⟨stem, ending, rfl, written, same⟩
    have single : '.' ∉ ending.toList := by
      intro dot
      have lowered : '.'.toLower ∈ ending.toList.map Char.toLower := List.mem_map_of_mem dot
      rw [same] at lowered
      exact absurd lowered (by decide)
    rw [Path.splitName_append written single, Option.any_some, same]
    exact beq_self_eq_true _

theorem mem_sqlFiles_iff (named : files.HasNames) :
    names ∈ sqlFiles files location ↔ IsSqlFile files location names := by
  have below : ∀ {name : String}, names.getLast? = some name → location ++ names ≠ [] := by
    intro name ends none
    rw [(List.append_eq_nil_iff.mp none).2] at ends
    cases ends
  constructor
  · intro member
    have proper := isProper_of_mem_sqlFiles named member
    obtain ⟨⟨place, entry⟩, inside, found⟩ := List.mem_filterMap.mp member
    obtain ⟨⟨content, rfl⟩, last⟩ := file_of_sqlFile? found
    obtain rfl : location ++ names = place := append_of_sqlFile? found
    obtain ⟨name, ends, sql⟩ := (Option.any_eq_true _ _).mp last
    obtain ⟨stem, ending, rfl, written, same⟩ :=
      (isSqlName_iff (proper name (List.mem_of_getLast? ends))).mp sql
    exact ⟨⟨content, entryAt?_of_mem (below ends) inside⟩, stem, ending, ends, written, same⟩
  · rintro ⟨⟨content, holds⟩, stem, ending, ends, written, same⟩
    have inside := mem_of_entryAt? (below ends) holds
    have own : IsName (stem ++ "." ++ ending) :=
      named _ inside _ (List.mem_append_right _ (List.mem_of_getLast? ends))
    have sql := (isSqlName_iff own).mpr ⟨stem, ending, rfl, written, same⟩
    refine List.mem_filterMap.mpr ⟨_, inside, ?_⟩
    simp [sqlFile?, ends, sql, List.isPrefixOf_iff_prefix]

/-!
## The way down
-/

/-- Neither what the names lead to nor a directory on the way is left out. What `leaves` says depends
on whether it is asked about a directory, as all but the last on the way are. -/
def Passes (leaves : Bool → List String → Prop) (isDirectory : Bool) (names : List String) : Prop :=
  ∀ ahead, ahead ≠ [] → ahead <+: names →
    ¬ leaves (isDirectory || decide (ahead ≠ names)) ahead

variable {leaves : Bool → List String → Prop} {book : Option Rulebook} {skipHidden : Bool}

theorem Passes.imp {others : Bool → List String → Prop} {isDirectory : Bool}
    (fewer : ∀ isDirectory ahead, others isDirectory ahead → leaves isDirectory ahead)
    (passes : Passes leaves isDirectory names) : Passes others isDirectory names := by
  intro ahead some before left
  exact passes ahead some before (fewer _ ahead left)

theorem passes_iff (some : names ≠ []) :
    Passes leaves false names ↔ ¬ leaves false names ∧ Passes leaves true names.dropLast := by
  obtain ⟨front, last, rfl⟩ := List.eq_nil_or_concat' names |>.resolve_left some
  have longer : ∀ {ahead : List String}, ahead <+: front → ahead ≠ front ++ [last] := by
    rintro ahead before rfl
    exact absurd before.length_le (by simp)
  rw [List.dropLast_concat]
  constructor
  · intro passes
    constructor
    · have own := passes (front ++ [last]) some List.prefix_rfl
      simpa using own
    · intro ahead written before left
      refine passes ahead written (before.trans (List.prefix_append _ _)) ?_
      rw [decide_eq_true (longer before), Bool.or_true]
      exact left
  · rintro ⟨own, above⟩ ahead written before
    rcases List.prefix_concat_iff.mp before with rfl | inside
    · simpa using own
    · rw [decide_eq_true (longer inside), Bool.or_true]
      exact above ahead written inside

def LeavesOut (book : Option Rulebook) (skipHidden isDirectory : Bool) (names : List String) :
    Prop :=
  leavesOut book skipHidden isDirectory names = true

theorem enters_iff : enters book skipHidden names = true ↔
    Passes (LeavesOut book skipHidden) true names := by
  simp only [enters, List.all_eq_true, List.mem_range, Passes, LeavesOut, Bool.true_or,
    Bool.not_eq_eq_eq_not, Bool.not_true, Bool.not_eq_true]
  constructor
  · intro all ahead some before
    have length := before.length_le
    obtain ⟨count, size⟩ := Nat.exists_eq_succ_of_ne_zero (mt List.length_eq_zero_iff.mp some)
    have own := all count (by omega)
    rw [← Nat.succ_eq_add_one, ← size, ← List.prefix_iff_eq_take.mp before] at own
    exact own
  · intro passes count less
    refine passes _ (fun none => ?_) (List.take_prefix _ _)
    have length := congrArg List.length none
    rw [List.length_take, List.length_nil] at length
    omega

theorem letsThrough_iff (some : names ≠ []) : letsThrough book skipHidden names = true ↔
    Passes (LeavesOut book skipHidden) false names := by
  rw [passes_iff some, ← enters_iff, letsThrough, Bool.and_eq_true, Bool.not_eq_true', LeavesOut,
    Bool.not_eq_true]

/-- Names are hidden when they start with a dot; without rules, this alone leaves them out. -/
theorem passes_hidden_iff {isDirectory : Bool} :
    Passes (LeavesOut none skipHidden) isDirectory names ↔
      (skipHidden = true → ∀ name ∈ names, Path.hiddenName name = false) := by
  simp only [Passes, LeavesOut, leavesOut, Option.bind_none, Bool.and_eq_true, not_and,
    Bool.not_eq_true]
  constructor
  · intro passes skips name member
    obtain ⟨before, behind, rfl⟩ := List.append_of_mem member
    have ahead : before ++ [name] <+: before ++ name :: behind := ⟨behind, by simp⟩
    have own := passes (before ++ [name]) (by simp) ahead skips
    simpa [endsHidden] using own
  · intro shown ahead some before skips
    obtain ⟨front, last, rfl⟩ := List.eq_nil_or_concat' ahead |>.resolve_left some
    have inside : last ∈ names := before.subset (List.mem_append_right _ (List.mem_singleton_self _))
    simpa [endsHidden] using shown skips last inside

/-!
## Directories on the way
-/

theorem mem_foldersBelow_iff : names ∈ foldersBelow files location ↔
    names ≠ [] ∧ files.entryAt? (location ++ names) = some .directory := by
  constructor
  · intro member
    obtain ⟨⟨place, entry⟩, inside, found⟩ := List.mem_filterMap.mp member
    simp only [Option.ite_none_right_eq_some, Option.some.injEq] at found
    obtain ⟨⟨rfl, below, some⟩, rfl⟩ := found
    have whole := List.prefix_iff_eq_append.mp (List.isPrefixOf_iff_prefix.mp below)
    have written : place ≠ [] := by
      rintro rfl
      exact some (List.drop_nil)
    rw [whole]
    exact ⟨some, entryAt?_of_mem written inside⟩
  · rintro ⟨some, holds⟩
    have written : location ++ names ≠ [] := fun none => some (List.append_eq_nil_iff.mp none).2
    refine List.mem_filterMap.mpr ⟨_, mem_of_entryAt? written holds, ?_⟩
    simp [some, List.isPrefixOf_iff_prefix]

theorem mem_text_pathBelow {c : Char} (member : c ∈ (pathBelow root names).text.toList) :
    c ∈ root.text.toList ∨ c = '/' ∨ ∃ name ∈ names, c ∈ name.toList := by
  induction names using List.reverseRecOn with
  | nil => exact .inl member
  | append_singleton names name ih =>
      have parts : c ∈ (pathBelow root names).text.toList ∨ c = '/' ∨ c ∈ name.toList := by
        rw [pathBelow_concat, Path.append] at member
        split at member
        · exact .inr (.inr member)
        · split at member
          · exact (List.mem_append.mp (by simpa using member)).imp_right .inr
          · simpa using member
      rcases parts with above | slash | own
      · rcases ih above with first | slash | ⟨one, inside, own⟩
        · exact .inl first
        · exact .inr (.inl slash)
        · exact .inr (.inr ⟨one, List.mem_append_left _ inside, own⟩)
      · exact .inr (.inl slash)
      · exact .inr (.inr ⟨name, List.mem_append_right _ (List.mem_singleton_self _), own⟩)

/-- Names lead from a root down to a directory, unless the path that they make is too long. -/
theorem locate_pathBelow (tree : files.IsTree) (named : files.HasNames)
    (usable : files.HasUsableNames) (opened : files.IsFolder root location)
    (member : names ∈ foldersBelow files location) :
    files.locate (pathBelow root names) =
      if isTooLong (pathBelow root names) then .error .nameTooLong
      else .ok (location ++ names) := by
  obtain ⟨some, there⟩ := mem_foldersBelow_iff.mp member
  have written : location ++ names ≠ [] := fun none => some (List.append_eq_nil_iff.mp none).2
  have inside := mem_of_entryAt? written there
  have proper : IsProper names := fun name among =>
    named _ inside name (List.mem_append_right _ among)
  have taken : ∀ name ∈ names, '\x00' ∉ name.toList ∧ (Text.encodeString name).length ≤ 255 :=
    fun name among => usable _ inside name (List.mem_append_right _ among)
  obtain ⟨fine, short, walked⟩ := locate_eq_ok_iff.mp opened.located
  obtain ⟨spelled, between, from_⟩ :=
    steps_pathBelow files (written_of_locate opened.located) proper
  have refusal : refusal? (pathBelow root names) = none := by
    have noNul : '\x00' ∉ (pathBelow root names).text.toList := by
      intro nul
      rcases mem_text_pathBelow nul with above | slash | ⟨name, among, own⟩
      · simp [refusal?, above] at fine
      · exact absurd slash (by decide)
      · exact (taken name among).1 own
    simp [refusal?, noNul, spelled]
  -- The walk leads through the root first, and from there it meets directories only.
  obtain ⟨remaining, rest⟩ := walk_through .entry some rfl walked
  have down : walk files ⟨.entry, false, false⟩ remaining location names =
      .ok (.taken (location ++ names)) :=
    tree.walk_down proper (fun name among => (taken name among).2) there
  simp only [locate, find, refusal, between, from_, endsInSlash_pathBelow proper some, rest, down]
  by_cases long : isTooLong (pathBelow root names) = true
  · simp only [long, if_true]
  · simp only [long, Bool.false_eq_true, if_false]

/-!
## What is found
-/

/-- A directory below a location that is entered, although its path is too long to be followed. -/
structure IsOutOfReach (files : FileSystem) (root : Path) (location : Location)
    (passes : Bool → List String → Prop) (names : List String) : Prop where
  directory : names ≠ [] ∧ files.entryAt? (location ++ names) = some .directory
  entered : passes true names
  long : isTooLong (pathBelow root names) = true

/-- What a discovery answers when names pass: the SQL files that pass, each once and in order, unless
a directory is out of reach. -/
inductive Finds (files : FileSystem) (root : Path) (location : Location)
    (passes : Bool → List String → Prop) : Except Failure (List Path) → Prop where
  | found {paths : List Path} (reached : ∀ names, ¬ IsOutOfReach files root location passes names)
      (ordered : paths.Pairwise Path.Before)
      (exact : ∀ path, path ∈ paths ↔ ∃ names, IsSqlFile files location names ∧
        passes false names ∧ path = pathBelow root names) :
      Finds files root location passes (.ok paths)
  | unreached {names : List String} (beyond : IsOutOfReach files root location passes names) :
      Finds files root location passes
        (.error (.unreached root (pathBelow root names) .nameTooLong))

theorem IsSqlFile.written (script : IsSqlFile files location names) : names ≠ [] := by
  obtain ⟨stem, ending, last, -⟩ := script.extension
  rintro rfl
  cases last

theorem IsSqlFile.isProper (named : files.HasNames) (script : IsSqlFile files location names) :
    IsProper names :=
  isProper_of_mem_sqlFiles named ((mem_sqlFiles_iff named).mpr script)

/-- Below one root, different files have different paths. -/
theorem IsSqlFile.eq_of_pathBelow {others : List String} (named : files.HasNames)
    (script : IsSqlFile files location names) (other : IsSqlFile files location others)
    (same : pathBelow root names = pathBelow root others) : names = others :=
  pathBelow_inj (script.isProper named) (other.isProper named) (congrArg Path.components same)

theorem unreached?_eq_some {folder : Path} {cause : OsError} (tree : files.IsTree)
    (named : files.HasNames) (usable : files.HasUsableNames) (opened : files.IsFolder root location)
    (stopped : unreached? files root location book skipHidden = some (folder, cause)) :
    ∃ names, IsOutOfReach files root location (Passes (LeavesOut book skipHidden)) names ∧
      folder = pathBelow root names ∧ cause = .nameTooLong := by
  obtain ⟨⟨names, path⟩, among, failed⟩ := List.exists_of_findSome?_eq_some stopped
  obtain ⟨names, member, same⟩ := List.mem_map.mp among
  cases same
  simp only [locate_pathBelow tree named usable opened member] at failed
  by_cases long : isTooLong (pathBelow root names) = true
  · simp only [long, if_true, Option.ite_none_right_eq_some, Option.some.injEq, Prod.mk.injEq]
      at failed
    obtain ⟨entered, rfl, rfl⟩ := failed
    exact ⟨names, ⟨mem_foldersBelow_iff.mp member, enters_iff.mp entered, long⟩, rfl, rfl⟩
  · simp [long] at failed

theorem not_isOutOfReach (tree : files.IsTree) (named : files.HasNames)
    (usable : files.HasUsableNames) (opened : files.IsFolder root location)
    (reached : unreached? files root location book skipHidden = none) :
    ¬ IsOutOfReach files root location (Passes (LeavesOut book skipHidden)) names := by
  intro beyond
  have member := mem_foldersBelow_iff.mpr beyond.directory
  obtain ⟨found, located⟩ :=
    unreached?_eq_none_iff.mp reached names member (enters_iff.mpr beyond.entered)
  rw [locate_pathBelow tree named usable opened member, if_pos beyond.long] at located
  cases located

theorem mem_shownFiles_iff_passes (named : files.HasNames) {path : Path} :
    path ∈ shownFiles files root location book skipHidden ↔
      ∃ names, IsSqlFile files location names ∧ Passes (LeavesOut book skipHidden) false names ∧
        path = pathBelow root names := by
  rw [mem_shownFiles_iff]
  refine exists_congr fun names => ?_
  rw [mem_sqlFiles_iff named]
  refine and_congr_right fun script => ?_
  rw [letsThrough_iff script.written, eq_comm]

theorem before_shownFiles (named : files.HasNames) :
    (shownFiles files root location book skipHidden).Pairwise Path.Before :=
  Path.before_mergeSort (distinct_shownFiles named)

/-- Below a root, a discovery finds the SQL files of which neither the names nor those of a directory
on the way are left out. -/
theorem finds_discover [UserRules] {filter : Filter} (tree : files.IsTree) (named : files.HasNames)
    (usable : files.HasUsableNames) (opened : files.IsFolder root location)
    (own : isStandardInput root = false)
    (rules : filter.rulebook? files root location = .ok book) :
    Finds files root location (Passes (LeavesOut book filter.skipHidden))
      (discover files root filter) := by
  rw [discover_of_isFolder opened own, rules]
  simp only [Except.bind]
  split
  · next folder cause stopped =>
      obtain ⟨names, beyond, rfl, rfl⟩ := unreached?_eq_some tree named usable opened stopped
      exact .unreached beyond
  · next reached =>
      exact .found (fun names => not_isOutOfReach tree named usable opened reached)
        (before_shownFiles named) fun path => mem_shownFiles_iff_passes named

/-- Rules leave out what they ignore; what is hidden is left out only where they have no verdict. -/
theorem leavesOut_iff {book : Rulebook} {isDirectory : Bool} :
    LeavesOut (some book) skipHidden isDirectory names ↔
      book.verdict? isDirectory names = some .ignored ∨
        book.verdict? isDirectory names = none ∧ skipHidden = true ∧ endsHidden names = true := by
  rw [LeavesOut, leavesOut, Option.bind_some]
  cases book.verdict? isDirectory names with
  | none => simp
  | some verdict => cases verdict <;> simp

theorem Finds.congr {passes others : Bool → List String → Prop}
    {result : Except Failure (List Path)}
    (same : ∀ isDirectory names, passes isDirectory names ↔ others isDirectory names)
    (finds : Finds files root location passes result) :
    Finds files root location others result := by
  obtain rfl : passes = others :=
    funext fun isDirectory => funext fun names => propext (same isDirectory names)
  exact finds

theorem Finds.exists_eq_ok {passes : Bool → List String → Prop}
    {result : Except Failure (List Path)} (finds : Finds files root location passes result)
    (reached : ∀ names, ¬ IsOutOfReach files root location passes names) :
    ∃ paths, result = .ok paths ∧ paths.Pairwise Path.Before ∧
      ∀ path, path ∈ paths ↔ ∃ names, IsSqlFile files location names ∧ passes false names ∧
        path = pathBelow root names := by
  cases finds with
  | found _ ordered exact => exact ⟨_, rfl, ordered, exact⟩
  | unreached beyond => exact absurd beyond (reached _)

/-- Where fewer names pass, a part of the files is found. -/
theorem Finds.sublist {more fewer : Bool → List String → Prop}
    {result : Except Failure (List Path)} {all : List Path}
    (every : Finds files root location more (.ok all))
    (finds : Finds files root location fewer result)
    (narrower : ∀ isDirectory names, fewer isDirectory names → more isDirectory names) :
    ∃ part, result = .ok part ∧ part.Sublist all := by
  cases every with
  | found reached ordered exact =>
      cases finds with
      | unreached beyond =>
          exact absurd ⟨beyond.directory, narrower _ _ beyond.entered, beyond.long⟩ (reached _)
      | @found part _ orderedToo exactToo =>
          refine ⟨part, rfl, Path.sublist_of_before orderedToo ordered fun path member => ?_⟩
          obtain ⟨names, script, passed, same⟩ := (exactToo path).mp member
          exact (exact path).mpr ⟨names, script, narrower _ _ passed, same⟩

/-- What a discovery answers that respects rules, beside what it answers without them. -/
inductive FindsByRules [UserRules] (files : FileSystem) (root : Path) (location : Location)
    (unfiltered : Except Failure (List Path)) : Except Failure (List Path) → Prop where
  | faulty {book : Rulebook} {faults : List RuleFault}
      (loaded : Rulebook.load files root location = (book, faults)) (some : faults ≠ []) :
      FindsByRules files root location unfiltered (.error (.unwalkable root faults))
  | sound {book : Rulebook} {result : Except Failure (List Path)}
      (loaded : Rulebook.load files root location = (book, []))
      (finds : Finds files root location
        (Passes fun isDirectory names => book.verdict? isDirectory names = some .ignored) result)
      (part : ∀ all, unfiltered = .ok all → ∃ kept, result = .ok kept ∧ kept.Sublist all) :
      FindsByRules files root location unfiltered result

/-- Below a root, unless it is called as the standard input is, a discovery finds exactly the SQL
files. When hidden names are left out, it finds those with no hidden name on their way, and when rules
are respected, those that they do not ignore, nor a directory on the way: a part of all files. -/
theorem discover_exact [UserRules] (tree : files.IsTree) (named : files.HasNames)
    (usable : files.HasUsableNames) (opened : files.IsFolder root location)
    (own : isStandardInput root = false) :
    Finds files root location (fun _ _ => True) (discover files root ⟨false, false⟩) ∧
      Finds files root location (fun _ names => ∀ name ∈ names, Path.hiddenName name = false)
        (discover files root ⟨true, false⟩) ∧
      FindsByRules files root location (discover files root ⟨false, false⟩)
        (discover files root ⟨false, true⟩) := by
  have unruled : ∀ skipHidden, Finds files root location (Passes (LeavesOut none skipHidden))
      (discover files root ⟨skipHidden, false⟩) := by
    intro skipHidden
    have rules : Filter.rulebook? ⟨skipHidden, false⟩ files root location = .ok none := rfl
    exact finds_discover tree named usable opened own rules
  have all : Finds files root location (fun _ _ => True) (discover files root ⟨false, false⟩) :=
    (unruled false).congr fun isDirectory names => by simp [passes_hidden_iff]
  have shown : Finds files root location
      (fun _ names => ∀ name ∈ names, Path.hiddenName name = false)
      (discover files root ⟨true, false⟩) :=
    (unruled true).congr fun isDirectory names => by simp [passes_hidden_iff]
  refine ⟨all, shown, ?_⟩
  cases loaded : Rulebook.load files root location with
  | mk book faults =>
      cases faults with
      | cons fault faults =>
          have failed : discover files root ⟨false, true⟩ =
              .error (.unwalkable root (fault :: faults)) := by
            simp only [discover_of_isFolder opened own, Filter.rulebook?, loaded, if_true, Except.bind]
          rw [failed]
          exact .faulty loaded (List.cons_ne_nil _ _)
      | nil =>
          have rules : Filter.rulebook? ⟨false, true⟩ files root location = .ok (some book) := by
            simp only [Filter.rulebook?, loaded, if_true]
          have finds : Finds files root location
              (Passes fun isDirectory names => book.verdict? isDirectory names = some .ignored)
              (discover files root ⟨false, true⟩) := by
            refine (finds_discover tree named usable opened own rules).congr fun _ names => ?_
            simp [Passes, leavesOut_iff]
          refine .sound loaded finds fun whole success => ?_
          rw [success] at all
          exact all.sublist finds fun _ _ _ => trivial

section

attribute [local instance] UserRules.absent

def nestedScripts : FileSystem :=
  ⟨[(["d.sql"], .directory), (["d.sql", ".x.SQL"], .file []), (["d.sql", "x.sql.bak"], .file [])],
    [], [], by simp⟩

theorem discover_exact_nestedScripts :
    ∃ all shown, discover nestedScripts ⟨"/"⟩ ⟨false, false⟩ = .ok all ∧
      discover nestedScripts ⟨"/"⟩ ⟨true, false⟩ = .ok shown ∧
      ⟨"/d.sql/.x.SQL"⟩ ∈ all ∧ ⟨"/d.sql/.x.SQL"⟩ ∉ shown := by
  have tree : nestedScripts.IsTree := isTree_of_entries (by decide)
  have named : nestedScripts.HasNames := by decide
  have usable : nestedScripts.HasUsableNames := by
    unfold HasUsableNames
    decide
  have reached : ∀ {passes : Bool → List String → Prop} (names : List String),
      ¬ IsOutOfReach nestedScripts ⟨"/"⟩ [] passes names := by
    intro passes names beyond
    have folders : foldersBelow nestedScripts [] = [["d.sql"]] := by decide
    have member := mem_foldersBelow_iff.mpr beyond.directory
    rw [folders, List.mem_singleton] at member
    have long := beyond.long
    rw [member] at long
    exact absurd long (by decide)
  obtain ⟨all, shown, -⟩ := discover_exact tree named usable (isFolder_root _) (by decide)
  obtain ⟨paths, success, -, exact⟩ := all.exists_eq_ok reached
  obtain ⟨others, successToo, -, exactToo⟩ := shown.exists_eq_ok reached
  have path : ⟨"/d.sql/.x.SQL"⟩ = pathBelow ⟨"/"⟩ ["d.sql", ".x.SQL"] := by decide
  have script : IsSqlFile nestedScripts [] ["d.sql", ".x.SQL"] :=
    ⟨⟨[], by decide⟩, ".x", "SQL", by decide, by decide, by decide⟩
  refine ⟨paths, others, success, successToo, ?_, fun member => ?_⟩
  · exact (exact _).mpr ⟨_, script, trivial, path⟩
  · obtain ⟨names, other, plain, same⟩ := (exactToo _).mp member
    rw [path] at same
    obtain rfl := other.eq_of_pathBelow named script same.symm
    exact absurd (plain ".x.SQL" (by decide)) (by decide)

def dashFolder : FileSystem :=
  ⟨[(["-"], .directory), (["-", "a.sql"], .file [])], [], [], by simp⟩

/-- A directory that is called as the standard input is not looked into. -/
theorem discover_misses_dashFolder :
    dashFolder.IsFolder ⟨"-"⟩ ["-"] ∧ IsSqlFile dashFolder ["-"] ["a.sql"] ∧
      ∀ filter, discover dashFolder ⟨"-"⟩ filter = .ok [] := by
  have opened : dashFolder.IsFolder ⟨"-"⟩ ["-"] := by
    have proper : IsName "-" := by decide
    have there : dashFolder.entryAt? ["-"] = some .directory := by decide
    have noLink : ∀ target, dashFolder.entryAt? ([] ++ ["-"]) ≠ some (.link target) := by
      intro target link
      rw [List.nil_append, there] at link
      cases link
    have walked : walk dashFolder ⟨.entry, false, false⟩ linkLimit [] ["-"] =
        .ok (.taken ["-"]) :=
      walk_name rfl proper noLink
    exact ⟨locate_eq_ok_iff.mpr ⟨by decide, by decide, walked⟩, there⟩
  refine ⟨opened, ⟨⟨[], by decide⟩, "a", "sql", by decide, by decide, by decide⟩, fun filter => ?_⟩
  exact discover_of_isStandardInput opened (by decide)

end

end Corpus

end SqlColumns
