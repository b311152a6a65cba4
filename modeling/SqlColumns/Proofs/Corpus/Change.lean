import Mathlib.Data.List.Nodup
import SqlColumns.Proofs.Corpus.Discovery
import SqlColumns.Proofs.FileSystem.Tree

/-!
# Discovery after a change

A regular file that is made or replaced changes nothing about a corpus when it is neither an SQL file
nor one in which rules are looked up.
-/

set_option autoImplicit false

namespace SqlColumns

namespace FileSystem

/-- Followed for an entry, no path is refused because it leads to a directory. -/
theorem walk_ne_isDirectory {files : FileSystem} {manner : Manner} {links : Nat} {start : Location}
    {steps : List String} (purpose : manner.purpose = .entry) :
    walk files manner links start steps ≠ .error .isDirectory := by
  intro refused
  fun_induction walk files manner links start steps with
  | case4 manner links start rest fits ih => exact ih purpose refused
  | case5 manner links start rest fits apart ih => exact ih purpose refused
  | case6 manner links start step rest fits notHere notUp slash =>
      rw [purpose] at slash
      cases slash.1
  | case11 manner start step rest fits notHere notUp noSlash short target link links begin slash ih =>
      exact ih purpose refused
  | case13 manner links start step rest fits notHere notUp noSlash short entry noLink at_ near ih =>
      exact ih purpose refused
  | _ => cases refused

theorem locate_ne_isDirectory {files : FileSystem} {path : Path} :
    files.locate path ≠ .error .isDirectory := by
  unfold locate find
  cases refusal : refusal? path with
  | some cause =>
      unfold refusal? at refusal
      split at refusal
      · cases refusal
        cases (Path.bytesOf path.text.toList).contains 0 <;> simp
      · split at refusal <;> cases refusal
        simp
  | none =>
      by_cases long : isTooLong path = true
      · simp [long]
      · cases walked : walk files ⟨.entry, endsInSlash path.text, false⟩ linkLimit
            (files.origin path) (steps path.text) with
        | error cause =>
            intro refused
            simp only [long, Bool.false_eq_true, if_false] at refused
            cases refused
            exact walk_ne_isDirectory rfl walked
        | ok reached => cases reached <;> simp [long]

end FileSystem

namespace Corpus

open FileSystem

variable {files written : FileSystem} {place location : Location} {folder file root : Path}
  {names : List String}

/-!
## Rules
-/

/-- The files in which the rules of a directory are looked up. -/
inductive Consults (files : FileSystem) (folder : Path) : Path → Prop where
  | own : Consults files folder (ownRules folder)
  | versioned : Consults files folder (versionedRules folder)
  | repository : Consults files folder (repositoryPlace folder)
  | pointer {own : Path} : files.isFile (repositoryPlace folder) = true →
      ownFolder? files (repositoryPlace folder) = .ok (some own) →
      Consults files folder (sharedPointer own)
  | excluded {repository : Path} : repositoryFolder? files folder = .ok (some repository) →
      Consults files folder (exclusions repository)

theorem readRules_of_not_located (missing : ∀ found, files.locate file ≠ .ok found) :
    readRules files file = ([], []) := by
  cases located : files.locate file with
  | ok found => exact absurd located (missing found)
  | error cause => simp [readRules, FileSystem.read, lookup, located, bind, Except.bind]

theorem readRules_eq (same : SameBut place files written) (some : written.entryAt? place ≠ none)
    (apart : written.locate file ≠ .ok place) : readRules written file = readRules files file := by
  rcases same.read_alike some apart with read | ⟨cause, other, before, after⟩
  · rw [readRules, readRules, read]
  · rw [readRules_of_not_located (by simp [after]), readRules_of_not_located (by simp [before])]

theorem toOption_read_eq (same : SameBut place files written)
    (some : written.entryAt? place ≠ none) (apart : written.locate file ≠ .ok place) :
    (written.read file).toOption = (files.read file).toOption := by
  rcases same.read_alike some apart with read | ⟨cause, other, before, after⟩
  · rw [read]
  · simp [FileSystem.read, lookup, before, after, bind, Except.bind, Except.toOption]

theorem firstLine?_eq (same : SameBut place files written) (some : written.entryAt? place ≠ none)
    (apart : written.locate file ≠ .ok place) : firstLine? written file = firstLine? files file := by
  rcases same.read_alike some apart with read | ⟨cause, other, before, after⟩
  · rw [firstLine?, firstLine?, read]
  · have failed : ∀ {files : FileSystem} {cause : OsError}, files.locate file = .error cause →
        firstLine? files file = .ok none := by
      intro files cause located
      have read : files.read file = .error cause := by
        simp [FileSystem.read, lookup, located, bind, Except.bind]
      unfold firstLine?
      rw [read]
      cases cause with
      | isDirectory => exact absurd located locate_ne_isDirectory
      | _ => rfl
    rw [failed before, failed after]

theorem readExclusions_eq (same : SameBut place files written)
    (some : written.entryAt? place ≠ none)
    (apart : ∀ file, Consults files folder file → written.locate file ≠ .ok place) :
    readExclusions written folder = readExclusions files folder := by
  have file := same.isFile_eq some (apart _ .repository)
  have repository : repositoryFolder? written folder = repositoryFolder? files folder := by
    simp only [repositoryFolder?, ← file]
    by_cases points : files.isFile (repositoryPlace folder) = true
    · have first : ownFolder? written (repositoryPlace folder) =
          ownFolder? files (repositoryPlace folder) := by
        simp only [ownFolder?, firstLine?_eq same some (apart _ .repository)]
      simp only [points, if_true, first]
      cases own : ownFolder? files (repositoryPlace folder) with
      | error fault => rfl
      | ok target =>
          cases target with
          | none => rfl
          | some target =>
              simp only [bind, Except.bind, sharedFolder?,
                firstLine?_eq same some (apart _ (.pointer points own))]
    · simp only [points, Bool.false_eq_true, if_false]
  rw [readExclusions, readExclusions, repository]
  cases found : repositoryFolder? files folder with
  | error fault => rfl
  | ok target =>
      cases target with
      | none => rfl
      | some target => exact readRules_eq same some (apart _ (.excluded found))

theorem load_eq (same : SameBut place files written) (some : written.entryAt? place ≠ none)
    (apart : ∀ file, Consults files folder file → written.locate file ≠ .ok place) :
    FolderRules.load written folder = FolderRules.load files folder := by
  simp only [FolderRules.load, readRules_eq same some (apart _ .own),
    readRules_eq same some (apart _ .versioned), readExclusions_eq same some apart]

def rulesFolders (files : FileSystem) (root : Path) (location : Location) : List Path :=
  (above location).map pathTo ++ ([] :: foldersBelow files location).map (pathBelow root)

inductive UserRules.Consults [UserRules] (files : FileSystem) : Path → Prop where
  | setting {file : Path} : file ∈ settings → Consults files file
  | rules {file : Path} : file? files = some file → Consults files file

/-- The files in which the rules that count below a root are looked up. -/
inductive ReadsRules [UserRules] (files : FileSystem) (root : Path) (location : Location) :
    Path → Prop where
  | folder {folder file : Path} : folder ∈ rulesFolders files root location →
      Consults files folder file → ReadsRules files root location file
  | user {file : Path} : UserRules.Consults files file → ReadsRules files root location file

theorem UserRules.load_eq [UserRules] (same : SameBut place files written)
    (some : written.entryAt? place ≠ none)
    (apart : ∀ file, UserRules.Consults files file → written.locate file ≠ .ok place) :
    UserRules.load written = UserRules.load files := by
  have contents : settings.map (fun file => (written.read file).toOption) =
      settings.map fun file => (files.read file).toOption :=
    List.map_congr_left fun file member =>
      toOption_read_eq same some (apart file (.setting member))
  have found : file? written = file? files := congrArg place? contents
  rw [load, load, found]
  cases place : file? files with
  | none => rfl
  | some file => exact congrArg Prod.fst (readRules_eq same some (apart file (.rules place)))

/-!
## Entries
-/

/-- What is selected from entries does not change by one that is not selected. -/
theorem filterMap_place {α : Type} {select : Location × Entry → Option α} {entry : Entry}
    (entries : List (Location × Entry))
    (before : ∀ kept, (place, kept) ∈ entries → select (place, kept) = none)
    (after : select (place, entry) = none) :
    (FileSystem.place place entry entries).filterMap select = entries.filterMap select := by
  induction entries with
  | nil => simp [FileSystem.place, after]
  | cons head entries ih =>
      obtain ⟨other, kept⟩ := head
      simp only [FileSystem.place]
      split
      · next same =>
          subst same
          rw [List.filterMap_cons_none after, List.filterMap_cons_none (before kept (by simp))]
      · have rest := ih fun kept member => before kept (List.mem_cons_of_mem _ member)
        simp only [List.filterMap_cons, rest]

structure Replaces (files : FileSystem) (place : Location) (written : FileSystem) : Prop where
  written_eq : ∃ bytes, written = files.set place (.file bytes)
  same : SameBut place files written
  there : written.entryAt? place ≠ none
  below : place ≠ []

theorem entryAt?_of_mem {kept : Entry} (below : place ≠ [])
    (member : (place, kept) ∈ files.entries) : files.entryAt? place = some kept := by
  unfold entryAt?
  split
  · exact absurd rfl below
  · cases found : files.entries.find? fun one => one.1 == place with
    | none => exact absurd (List.find?_eq_none.mp found _ member) (by simp)
    | some one =>
        have same : one.1 = place := by simpa using List.find?_some found
        have whole : one = (place, kept) :=
          List.inj_on_of_nodup_map files.distinct (List.mem_of_find?_eq_some found) member same
        rw [whole]
        rfl

theorem Replaces.entry (replaces : Replaces files place written) {kept : Entry}
    (member : (place, kept) ∈ files.entries) : ∃ content, kept = .file content :=
  replaces.same.before kept (entryAt?_of_mem replaces.below member)

theorem foldersBelow_eq (replaces : Replaces files place written) (location : Location) :
    foldersBelow written location = foldersBelow files location := by
  obtain ⟨bytes, rfl⟩ := replaces.written_eq
  refine filterMap_place _ (fun kept member => ?_) (by simp)
  obtain ⟨content, rfl⟩ := replaces.entry member
  simp

theorem sqlFiles_eq (replaces : Replaces files place written)
    (other : place.getLast?.any isSqlName = false) (location : Location) :
    sqlFiles written location = sqlFiles files location := by
  have none : ∀ content, sqlFile? location (place, .file content) = none := by
    intro content
    have last : (place.drop location.length).getLast?.any isSqlName = false := by
      rw [List.getLast?_drop]
      split
      · rfl
      · exact other
    simp [sqlFile?, last]
  obtain ⟨bytes, rfl⟩ := replaces.written_eq
  refine filterMap_place _ (fun kept member => ?_) (none bytes)
  obtain ⟨content, rfl⟩ := replaces.entry member
  exact none content

theorem Rulebook.load_eq [UserRules] (replaces : Replaces files place written)
    (before : files.locate root = .ok location) (after : written.locate root = .ok location)
    (away : location ≠ place)
    (apart : ∀ file, ReadsRules files root location file → written.locate file ≠ .ok place) :
    Rulebook.load written root location = Rulebook.load files root location := by
  have loaded : ∀ folder ∈ rulesFolders files root location,
      FolderRules.load written folder = FolderRules.load files folder := fun folder counts =>
    Corpus.load_eq replaces.same replaces.there fun file consulted =>
      apart file (.folder counts consulted)
  have outer : (above location).map (fun folder => FolderRules.load written (pathTo folder)) =
      (above location).map fun folder => FolderRules.load files (pathTo folder) :=
    List.map_congr_left fun folder member =>
      loaded _ (List.mem_append_left _ (List.mem_map_of_mem member))
  have inner : (([] :: foldersBelow files location).map fun names =>
        (names, (FolderRules.load written (pathBelow root names)).1)) =
      ([] :: foldersBelow files location).map fun names =>
        (names, (FolderRules.load files (pathBelow root names)).1) :=
    List.map_congr_left fun names member => by
      rw [loaded _ (List.mem_append_right _ (List.mem_map_of_mem member))]
  have user : UserRules.load written = UserRules.load files :=
    UserRules.load_eq replaces.same replaces.there fun file consulted =>
      apart file (.user consulted)
  have current : written.current = files.current := by
    obtain ⟨bytes, rfl⟩ := replaces.written_eq
    rfl
  simp only [Rulebook.load, foldersBelow_eq replaces, inner, outer, user, current,
    replaces.same.isNone_canonical?_eq away before after]

/-!
## The corpus
-/

/-- Folders that are entered can still be reached. -/
theorem unreached?_eq_none (replaces : Replaces files place written) {book : Option Rulebook}
    {skipHidden : Bool} (reached : unreached? files root location book skipHidden = none) :
    unreached? written root location book skipHidden = none := by
  rw [unreached?_eq_none_iff] at reached ⊢
  rw [foldersBelow_eq replaces]
  intro names member entered
  obtain ⟨found, located⟩ := reached names member entered
  exact ⟨found, replaces.same.locate_eq (fun _ => replaces.there) located⟩

/-- The corpus stays the same. -/
theorem discover_eq [UserRules] {filter : Filter} {paths : List Path}
    (replaces : Replaces files place written)
    (other : place.getLast?.any isSqlName = false)
    (apart : filter.respectIgnore = true → ∀ location, files.locate root = .ok location →
      ∀ file, ReadsRules files root location file → written.locate file ≠ .ok place)
    (success : discover files root filter = .ok paths) :
    discover written root filter = .ok paths := by
  cases discover_eq_ok_iff.mp success with
  | standardInput opened standard =>
      have openedToo := replaces.same.isFolder opened
      exact discover_of_isStandardInput openedToo standard
  | @below location book opened own rules reached =>
      have openedToo := replaces.same.isFolder opened
      have away := replaces.same.apart_of_directory opened.directory
      have rulesToo : filter.rulebook? written root location = .ok book := by
        rw [← rules]
        unfold Filter.rulebook?
        split
        · next respected =>
            rw [Rulebook.load_eq replaces opened.located openedToo.located away
              (apart respected location opened.located)]
        · rfl
      rw [shownFiles, ← sqlFiles_eq replaces other]
      exact discover_eq_ok_iff.mpr
        (.below openedToo own rulesToo (unreached?_eq_none replaces reached))

/-!
## Discovered files
-/

theorem steps_pathBelow (files : FileSystem) (written : root.text ≠ "") (proper : IsProper names) :
    (pathBelow root names).text ≠ "" ∧
      steps (pathBelow root names).text = steps root.text ++ names ∧
      files.origin (pathBelow root names) = files.origin root := by
  induction names using List.reverseRecOn with
  | nil => exact ⟨written, (List.append_nil _).symm, rfl⟩
  | append_singleton names name ih =>
      obtain ⟨some, above, from_⟩ := ih fun one member => proper one (List.mem_append_left _ member)
      have own := proper name (List.mem_append_right _ (List.mem_singleton_self _))
      rw [pathBelow_concat, steps_append some own, origin_append some own, above, from_,
        List.append_assoc]
      refine ⟨fun empty => ?_, rfl, rfl⟩
      have walked := steps_append some own
      rw [empty] at walked
      exact absurd walked.symm (by simp [steps, Path.segments, Text.split])

theorem endsInSlash_pathBelow (proper : IsProper names) (below : names ≠ []) :
    endsInSlash (pathBelow root names).text = false := by
  obtain ⟨front, last, rfl⟩ := List.eq_nil_or_concat' names |>.resolve_left below
  rw [pathBelow_concat]
  exact endsInSlash_append (proper last (List.mem_append_right _ (List.mem_singleton_self _)))

/-- The path of a file below a root leads to this file, if it can be followed. -/
theorem location_of_pathBelow (tree : files.IsTree) (opened : files.locate root = .ok location)
    (proper : IsProper names) (below : names ≠ []) {content : List UInt8}
    (holds : files.entryAt? (location ++ names) = some (.file content)) {found : Location}
    (located : files.locate (pathBelow root names) = .ok found) : found = location ++ names := by
  obtain ⟨-, between, from_⟩ := steps_pathBelow files (written_of_locate opened) proper
  obtain ⟨remaining, rest⟩ :=
    walk_through .entry below rfl (locate_eq_ok_iff.mp opened).2.2
  have walked := (locate_eq_ok_iff.mp located).2.2
  rw [between, from_, endsInSlash_pathBelow proper below, rest] at walked
  exact tree.walk_names proper (by simp [holds]) (by simp [holds]) walked

theorem mem_of_discover [UserRules] {filter : Filter} {paths : List Path}
    (success : discover files root filter = .ok paths) {path : Path} (member : path ∈ paths) :
    ∃ location, files.locate root = .ok location ∧ ∃ names ∈ sqlFiles files location,
      path = pathBelow root names := by
  cases discover_eq_ok_iff.mp success with
  | standardInput opened standard => cases member
  | @below location book opened own rules reached =>
      obtain ⟨names, listed, -, rfl⟩ := mem_shownFiles_iff.mp member
      exact ⟨location, opened.located, names, listed, rfl⟩

theorem file_of_sqlFile? {one : Location × Entry} (found : sqlFile? location one = some names) :
    (∃ content, one.2 = .file content) ∧ names.getLast?.any isSqlName = true := by
  unfold sqlFile? at found
  split at found
  · next content file =>
      simp only [Option.ite_none_right_eq_some, Bool.and_eq_true, Option.some.injEq] at found
      obtain ⟨⟨-, last⟩, rfl⟩ := found
      exact ⟨⟨content, file⟩, last⟩
  · cases found

/-- What a discovered file is stays the same. -/
theorem lookup_eq_of_discovered [UserRules] {filter : Filter} {paths : List Path}
    (named : files.HasNames) (tree : files.IsTree) (replaces : Replaces files place written)
    (other : place.getLast?.any isSqlName = false)
    (success : discover files root filter = .ok paths) {path : Path} (member : path ∈ paths)
    {found : Location} (located : files.locate path = .ok found) :
    written.lookup path = files.lookup path := by
  obtain ⟨location, opened, names, listed, rfl⟩ := mem_of_discover success member
  obtain ⟨⟨below, entry⟩, inside, sql⟩ := List.mem_filterMap.mp listed
  obtain ⟨⟨content, rfl⟩, last⟩ := file_of_sqlFile? sql
  obtain rfl : location ++ names = below := append_of_sqlFile? sql
  have some : names ≠ [] := by
    rintro rfl
    cases last
  have holds : files.entryAt? (location ++ names) = .some (.file content) :=
    entryAt?_of_mem (by simp [some]) inside
  obtain rfl := location_of_pathBelow tree opened (isProper_of_mem_sqlFiles named listed) some holds
    located
  have away : location ++ names ≠ place := by
    intro same
    rw [← same, List.getLast?_append_of_ne_nil _ some, last] at other
    cases other
  have after := replaces.same.locate_eq (fun here => absurd here away) located
  exact (replaces.same.lookup_eq away located after).symm

end Corpus

end SqlColumns
