import SqlColumns.Proofs.Scan.Counting
import SqlColumns.Proofs.Scan.Join
import SqlColumns.Proofs.Workbook
import SqlColumns.Proofs.Workbook.Reached
import SqlColumns.Task.Listing
import SqlColumns.Task.Rename
import SqlColumns.Task.Scan

/-!
# Commands over all sheets

A command that is asked for no sheet by name goes through the listed names and reads each sheet under
its name. When every listed file is reached under its name, this is to go through the files themselves,
each of them once; otherwise there are files with one name, or with a backslash in it.
-/

set_option autoImplicit false

namespace SqlColumns

/-!
## Going through sheets
-/

section Gather

variable {α β γ : Type} {load : α → Except Failure β} {one : α} {rest all : List α}

/-- What is loaded for each of several things, in order. One that lacks a column is passed over, and
any other failure is the end. -/
def gather (load : α → Except Failure β) : List α → Except Failure (List β)
  | [] => .ok []
  | one :: rest =>
      match load one with
      | .error (.missingHeader _ _) => gather load rest
      | .error failure => .error failure
      | .ok loaded => (gather load rest).map (loaded :: ·)

theorem gather_missing {sheet header : String}
    (missing : load one = .error (.missingHeader sheet header)) :
    gather load (one :: rest) = gather load rest := by
  simp only [gather, missing]

theorem gather_error {failure : Failure} (failed : load one = .error failure)
    (other : ∀ sheet header, failure ≠ .missingHeader sheet header) :
    gather load (one :: rest) = .error failure := by
  cases failure with
  | missingHeader sheet header => exact absurd rfl (other sheet header)
  | _ => simp only [gather, failed]

theorem gather_ok {loaded : β} (success : load one = .ok loaded) :
    gather load (one :: rest) = (gather load rest).map (loaded :: ·) := by
  simp only [gather, success]

def lacksColumn : Except Failure β → Bool
  | .error (.missingHeader _ _) => true
  | _ => false

theorem exists_missing_of_lacksColumn {result : Except Failure β}
    (lacks : lacksColumn result = true) :
    ∃ sheet header, result = .error (.missingHeader sheet header) := by
  unfold lacksColumn at lacks
  split at lacks
  · next sheet header => exact ⟨sheet, header, rfl⟩
  · cases lacks

/-- What lacks a column can as well be left out before. -/
theorem gather_filter (load : α → Except Failure β) (all : List α) :
    gather load (all.filter fun one => !lacksColumn (load one)) = gather load all := by
  induction all with
  | nil => rfl
  | cons one rest ih =>
      by_cases lacks : lacksColumn (load one) = true
      · obtain ⟨sheet, header, missing⟩ := exists_missing_of_lacksColumn lacks
        rw [List.filter_cons_of_neg (by simp [lacks]), ih, gather_missing missing]
      · rw [List.filter_cons_of_pos (by simpa using lacks), gather, gather, ih]

theorem gather_map (key : γ → α) (all : List γ) :
    gather load (all.map key) = gather (fun one => load (key one)) all := by
  induction all with
  | nil => rfl
  | cons one rest ih => simp only [List.map_cons, gather, ih]

theorem gather_congr {other : α → Except Failure β} (same : ∀ one ∈ all, load one = other one) :
    gather load all = gather other all := by
  induction all with
  | nil => rfl
  | cons one rest ih =>
      obtain ⟨own, others⟩ := List.forall_mem_cons.mp same
      simp only [gather, own, ih others]

end Gather

namespace Workbook

variable {α : Type} {files : FileSystem} {workbook : Workbook} {name : String}
  {make : String → Sheet → Except Failure α}

def onSheet (workbook : Workbook) (files : FileSystem) (make : String → Sheet → Except Failure α)
    (name : String) : Except Failure α :=
  workbook.readSheet files name >>= make name

def onFile (files : FileSystem) (make : String → Sheet → Except Failure α) (one : String × Path) :
    Except Failure α :=
  readFile files one.1 one.2 >>= make one.1

theorem onSheet_error {failure : Failure} (failed : workbook.readSheet files name = .error failure) :
    workbook.onSheet files make name = .error failure := by
  simp only [onSheet, failed]
  rfl

theorem onSheet_ok {found : Sheet} (read : workbook.readSheet files name = .ok found) :
    workbook.onSheet files make name = make name found := by
  simp only [onSheet, read]
  rfl

end Workbook

def Listing.itemOf (name : String) (sheet : Sheet) : Except Failure ReportItem :=
  .ok (item name sheet)

theorem Listing.items_eq_gather (files : FileSystem) (workbook : Workbook) (names : List String) :
    items files workbook names = gather (workbook.onSheet files itemOf) names := by
  induction names with
  | nil => rfl
  | cons name rest ih =>
      cases read : workbook.readSheet files name with
      | error failure =>
          rw [gather_error (Workbook.onSheet_error read) fun sheet header same =>
            Workbook.readSheet_ne_missingHeader (same ▸ read)]
          simp only [items, read]
      | ok sheet =>
          rw [gather_ok (Workbook.onSheet_ok read), ← ih]
          simp only [items, read]
          cases items files workbook rest <;> rfl

/-!
## Scans
-/

/-- A file is scanned without a look at the columns of a sheet. -/
theorem scanFiles_ne_missingHeader [PatternLibrary] {files : FileSystem} {paths : List Path}
    {targets : TargetSet} {sheet header : String} :
    scanFiles files paths targets ≠ .error (.missingHeader sheet header) := by
  rcases Scan.targets_cases targets.identifiers with ⟨-, found, wanted⟩ | ⟨failure, refused, first⟩
  · simp only [scanFiles, wanted]
    induction paths with
    | nil =>
        intro failed
        cases failed
    | cons path rest ih =>
        intro failed
        unfold Scan.countFiles at failed
        split at failed
        · next failure own =>
            cases failed
            unfold Scan.countFile at own
            split at own
            · next failure unread =>
                cases own
                unfold TextFile.read at unread
                split at unread
                · cases unread
                · split at unread <;> cases unread
            · cases own
        · split at failed
          · next failure others =>
              cases failed
              exact ih others
          · cases failed
  · obtain ⟨before, spelling, behind, complaint, split, earlier, written, refusal, same⟩ := first
    simp [scanFiles, refused, same]

namespace ScanRequest

variable [PatternLibrary] {request : ScanRequest} {files : FileSystem} {workbook : Workbook}

def scanOf (request : ScanRequest) (files : FileSystem) (paths : List Path) (name : String)
    (sheet : Sheet) : Except Failure (String × List FileCounts) := do
  let identifiers ← sheet.targets request.layout
  let results ← scanFiles files paths ⟨name, identifiers⟩
  return (name, results)

theorem onSheet_scanOf (request : ScanRequest) (files : FileSystem) (workbook : Workbook)
    (paths : List Path) (name : String) :
    workbook.onSheet files (request.scanOf files paths) name =
      workbook.loadTargets files name request.layout >>= fun targets =>
        scanFiles files paths targets >>= fun results => pure (name, results) := by
  simp only [Workbook.onSheet, Workbook.loadTargets, bind_assoc, pure_bind]
  rfl

theorem lacksColumn_scanOf (request : ScanRequest) (files : FileSystem) (workbook : Workbook)
    (paths : List Path) (name : String) :
    lacksColumn (workbook.onSheet files (request.scanOf files paths) name) =
      lacksColumn (workbook.loadTargets files name request.layout) := by
  rw [onSheet_scanOf]
  cases workbook.loadTargets files name request.layout with
  | error failure => cases failure <;> rfl
  | ok targets =>
      change lacksColumn (scanFiles files paths targets >>= _) = false
      cases scanned : scanFiles files paths targets with
      | ok results => rfl
      | error failure =>
          refine Bool.eq_false_iff.mpr fun lacks => ?_
          obtain ⟨sheet, header, missing⟩ := exists_missing_of_lacksColumn lacks
          cases missing
          exact scanFiles_ne_missingHeader scanned

/-- To join the scans of some sheets is to gather them, when none that was asked for lacks the
column. -/
theorem tabulate_eq_gather {names : List String}
    (complete : request.explicit = true → ∀ name ∈ names,
      lacksColumn (workbook.loadTargets files name request.layout) = false)
    (paths : List Path) (table : ScanTable) :
    (request.tabulate files workbook paths table names).1 =
      (gather (workbook.onSheet files (request.scanOf files paths)) names).map
        (List.foldl (fun table merged => table.merge merged.1 merged.2) table) := by
  induction names generalizing table with
  | nil => rfl
  | cons name rest ih =>
      have own := onSheet_scanOf request files workbook paths name
      have others : request.explicit = true → ∀ name ∈ rest,
          lacksColumn (workbook.loadTargets files name request.layout) = false :=
        fun asked other member => complete asked other (List.mem_cons_of_mem name member)
      unfold tabulate
      split
      · next failure loaded =>
          rw [loaded] at own
          split
          · rw [gather_missing own, ← ih others]
          · next other =>
              rw [gather_error own]
              · rfl
              · rintro sheet header rfl
                cases asked : request.explicit with
                | false => exact other sheet header rfl asked
                | true =>
                    have has := complete asked name List.mem_cons_self
                    rw [loaded] at has
                    cases has
      · next targets loaded =>
          rw [loaded] at own
          change _ = (scanFiles files paths targets >>= _) at own
          split
          · next failure unscanned =>
              rw [unscanned] at own
              rw [gather_error own fun sheet header same =>
                scanFiles_ne_missingHeader (same ▸ unscanned)]
              rfl
          · next results scanned =>
              rw [scanned] at own
              rw [gather_ok own]
              simp only [ih others]
              cases gather (workbook.onSheet files (request.scanOf files paths)) rest <;> rfl

def tableFrom [Corpus.UserRules] (request : ScanRequest) (files : FileSystem)
    (scans : List Path → Except Failure (List (String × List FileCounts))) :
    Except Failure ScanTable := do
  let paths ← Corpus.discover files request.root request.filter
  let merges ← scans paths
  let table := ScanTable.mergeAll merges
  if table.labels.isEmpty then .error .nothingToScan else return table

theorem table_eq_gather [Corpus.UserRules] {names : List String}
    (selected : workbook.selectSheets files request.sheets request.resultSheet = .ok names)
    (complete : request.explicit = true → ∀ name ∈ names,
      lacksColumn (workbook.loadTargets files name request.layout) = false) :
    (request.table files workbook).1 = request.tableFrom files fun paths =>
      gather (workbook.onSheet files (request.scanOf files paths)) names := by
  unfold table tableFrom
  cases discovered : Corpus.discover files request.root request.filter with
  | error failure => rfl
  | ok paths =>
      have joined := tabulate_eq_gather complete paths .empty
      simp only [selected, bind, Except.bind]
      cases tabulated : request.tabulate files workbook paths .empty names with
      | mk result notices =>
          rw [tabulated] at joined
          cases scans : gather (workbook.onSheet files (request.scanOf files paths)) names with
          | error failure =>
              rw [scans] at joined
              obtain rfl : result = .error failure := joined
              rfl
          | ok merges =>
              rw [scans] at joined
              obtain rfl : result = .ok (ScanTable.mergeAll merges) := joined
              simp only
              split
              · rfl
              · split <;> rfl

end ScanRequest

/-!
## Renamings
-/

namespace RenameRequest

variable {request : RenameRequest} {files : FileSystem} {workbook : Workbook}

def renamingsOf (request : RenameRequest) (name : String) (sheet : Sheet) :
    Except Failure (List LabelledRenaming) := do
  let mappings ← sheet.renamings request.layout request.root
  return mappings.map fun mapping => ⟨name, mapping⟩

theorem onSheet_renamingsOf (request : RenameRequest) (files : FileSystem) (workbook : Workbook)
    (name : String) :
    workbook.onSheet files request.renamingsOf name =
      workbook.loadRenamings files name request.layout request.root >>= fun mappings =>
        pure (mappings.map fun mapping => ⟨name, mapping⟩) := by
  simp only [Workbook.onSheet, Workbook.loadRenamings, bind_assoc]
  rfl

theorem lacksColumn_renamingsOf (request : RenameRequest) (files : FileSystem)
    (workbook : Workbook) (name : String) :
    lacksColumn (workbook.onSheet files request.renamingsOf name) =
      lacksColumn (workbook.loadRenamings files name request.layout request.root) := by
  rw [onSheet_renamingsOf]
  cases workbook.loadRenamings files name request.layout request.root with
  | error failure => cases failure <;> rfl
  | ok mappings => rfl

/-- To collect the renamings of some sheets is to gather them, when none that was asked for lacks a
column. -/
theorem collectFrom_eq_gather {names : List String}
    (complete : request.explicit = true → ∀ name ∈ names,
      lacksColumn (workbook.loadRenamings files name request.layout request.root) = false) :
    (request.collectFrom files workbook names).1 =
      (gather (workbook.onSheet files request.renamingsOf) names).map List.flatten := by
  induction names with
  | nil => rfl
  | cons name rest ih =>
      have own := onSheet_renamingsOf request files workbook name
      have others := ih fun asked other member =>
        complete asked other (List.mem_cons_of_mem name member)
      unfold collectFrom
      split
      · next failure loaded =>
          rw [loaded] at own
          split
          · rw [gather_missing own, ← others]
          · next other =>
              rw [gather_error own]
              · rfl
              · rintro sheet header rfl
                cases asked : request.explicit with
                | false => exact other sheet header rfl asked
                | true =>
                    have has := complete asked name List.mem_cons_self
                    rw [loaded] at has
                    cases has
      · next mappings loaded =>
          rw [loaded] at own
          rw [gather_ok own]
          cases found : request.collectFrom files workbook rest with
          | mk result notices =>
              rw [found] at others
              obtain rfl : result = _ := others
              cases gather (workbook.onSheet files request.renamingsOf) rest <;> rfl

def collectOf (files : FileSystem) (found : Except Failure (List (List LabelledRenaming))) :
    Except Failure (List LabelledRenaming) := do
  let collected ← found
  match missing? files collected.flatten with
  | some failure => .error failure
  | none => return collected.flatten

theorem collect_eq_gather {names : List String}
    (selected : workbook.selectSheets files request.sheets request.resultSheet = .ok names)
    (complete : request.explicit = true → ∀ name ∈ names,
      lacksColumn (workbook.loadRenamings files name request.layout request.root) = false) :
    (request.collect files workbook).1 =
      collectOf files (gather (workbook.onSheet files request.renamingsOf) names) := by
  have joined := collectFrom_eq_gather complete
  unfold collect collectOf
  simp only [selected]
  cases found : request.collectFrom files workbook names with
  | mk result notices =>
      rw [found] at joined
      obtain rfl : result = _ := joined
      cases gather (workbook.onSheet files request.renamingsOf) names with
      | error failure => rfl
      | ok collected =>
          simp only [Except.map, bind, Except.bind]
          cases missing? files collected.flatten <;> rfl

end RenameRequest

/-!
## Each file once
-/

namespace Workbook

open FileSystem

variable {files : FileSystem} {folder : Path} {sheets : List (String × Path)}

/-- Each listed file is a sheet of its own: no two have one name, the name leads to the file, and what
goes through all sheets goes through the files, reading each of them once. -/
structure ReachedOnce [PatternLibrary] [Corpus.UserRules] (files : FileSystem) (folder : Path)
    (sheets : List (String × Path)) : Prop where
  distinct : (sheets.map Prod.fst).Nodup
  found : ∀ one ∈ sheets, locate files folder one.1 = .ok (some one.2)
  read : ∀ one ∈ sheets, readSheet files (.directory folder) one.1 = readFile files one.1 one.2
  listed : listSheets files (.directory folder) = gather (onFile files Listing.itemOf) sheets
  scanned : ∀ request : ScanRequest, request.sheets = [] →
    (request.table files (.directory folder)).1 = request.tableFrom files fun paths =>
      gather (onFile files (request.scanOf files paths))
        (sheets.filter fun one => one.1 != request.resultSheet)
  renamed : ∀ request : RenameRequest, request.sheets = [] →
    (request.collect files (.directory folder)).1 = RenameRequest.collectOf files
      (gather (onFile files request.renamingsOf)
        (sheets.filter fun one => one.1 != request.resultSheet))

/-- Where names lead to the listed files, going through names is going through files. -/
theorem gather_onSheet {α : Type} {make : String → Sheet → Except Failure α}
    (read : ∀ one ∈ sheets, readSheet files (.directory folder) one.1 = readFile files one.1 one.2) :
    gather (onSheet (.directory folder) files make) (sheets.map Prod.fst) =
      gather (onFile files make) sheets := by
  rw [gather_map]
  refine gather_congr fun one member => ?_
  rw [onSheet, onFile, read one member]

theorem selectSheets_of_listed (listed : sheetFiles files folder = .ok sheets)
    (resultSheet : String) : selectSheets files (.directory folder) [] resultSheet =
      .ok ((sheets.filter fun one => one.1 != resultSheet).map Prod.fst) := by
  simp only [selectSheets, sheetNames, listed]
  exact congrArg Except.ok List.filter_map

theorem reachedOnce_of_found [PatternLibrary] [Corpus.UserRules]
    (listed : sheetFiles files folder = .ok sheets)
    (distinct : (sheets.map Prod.fst).Nodup)
    (found : ∀ one ∈ sheets, locate files folder one.1 = .ok (some one.2)) :
    ReachedOnce files folder sheets := by
  have read : ∀ one ∈ sheets,
      readSheet files (.directory folder) one.1 = readFile files one.1 one.2 :=
    fun one member => readSheet_of_locate (found one member)
  have readKept : ∀ resultSheet, ∀ one ∈ sheets.filter fun one => one.1 != resultSheet,
      readSheet files (.directory folder) one.1 = readFile files one.1 one.2 :=
    fun _ one member => read one (List.mem_of_mem_filter member)
  refine ⟨distinct, found, read, ?_, fun request implicit => ?_, fun request implicit => ?_⟩
  · simp only [listSheets, sheetNames, listed, Listing.items_eq_gather]
    exact gather_onSheet read
  · have selected := selectSheets_of_listed listed request.resultSheet
    rw [← implicit] at selected
    rw [ScanRequest.table_eq_gather selected fun asked => by
      simp [ScanRequest.explicit, implicit] at asked]
    exact congrArg (request.tableFrom files)
      (funext fun paths => gather_onSheet (readKept request.resultSheet))
  · have selected := selectSheets_of_listed listed request.resultSheet
    rw [← implicit] at selected
    rw [RenameRequest.collect_eq_gather selected fun asked => by
      simp [RenameRequest.explicit, implicit] at asked]
    exact congrArg (RenameRequest.collectOf files) (gather_onSheet (readKept request.resultSheet))

/-- All sheet files of a directory are listed, and none of them twice. A listed file can be asked for
exactly when its name has no backslash and no file before it has the name, so each file is a sheet of
its own exactly when this is so for all of them. -/
theorem reachedOnce_iff [PatternLibrary] [Corpus.UserRules] (named : files.HasNames)
    (listed : sheetFiles files folder = .ok sheets) :
    (∀ path, path ∈ sheets.map Prod.snd ↔ IsSheetFileIn files folder path) ∧
      (sheets.map Prod.snd).Nodup ∧
      (∀ before one behind, sheets = before ++ one :: behind →
        ((∃ name, locate files folder name = .ok (some one.2)) ↔
          '\\' ∉ one.1.toList ∧ ∀ other ∈ before, other.1 ≠ one.1)) ∧
      (ReachedOnce files folder sheets ↔
        (sheets.map Prod.fst).Nodup ∧ ∀ one ∈ sheets, '\\' ∉ one.1.toList) := by
  refine ⟨fun path => mem_paths_iff named listed, nodup_paths named listed,
    fun before one behind parts => exists_locate_iff named listed parts, fun reached => ?_,
    fun ⟨distinct, plain⟩ => ?_⟩
  · refine ⟨reached.distinct, fun one member => ?_⟩
    rw [← validName_iff_of_mem named listed member]
    by_contra refused
    have found := reached.found one member
    simp [locate, refused] at found
  · exact reachedOnce_of_found listed distinct fun one member =>
      locate_of_mem named listed distinct member (plain one member)

/-- Three sheet files, two of which have one name, and the third a name with a backslash. -/
def sharedStem : FileSystem :=
  ⟨[(["a.CSV"], .file [0x67]), (["a.csv"], .file [0x68]), (["b\\c.csv"], .file [])], [], [], by simp⟩

namespace SharedStem

theorem isName : ∀ name ∈ ["a.CSV", "a.csv", "b\\c.csv"], IsName name := by
  decide

theorem hasNames : sharedStem.HasNames := by
  decide

theorem namesIn_eq : sharedStem.namesIn [] = ["a.CSV", "a.csv", "b\\c.csv"] := by
  have ordered : ["a.CSV", "a.csv", "b\\c.csv"].Pairwise
      fun left right => decide (left ≤ right) = true := by decide
  exact List.mergeSort_of_pairwise ordered

theorem isFile : ∀ name ∈ ["a.CSV", "a.csv", "b\\c.csv"],
    sharedStem.isFile ((Path.mk "/").append ⟨name⟩) = true := by
  have takes : ∀ name ∈ ["a.CSV", "a.csv", "b\\c.csv"],
      refusal? ((Path.mk "/").append ⟨name⟩) = none ∧
        isTooLong ((Path.mk "/").append ⟨name⟩) = false ∧
        (Text.encodeString name).length ≤ 255 := by decide
  have holds : ∀ name ∈ ["a.CSV", "a.csv", "b\\c.csv"],
      ∃ content, sharedStem.entryAt? ([] ++ [name]) = some (.file content) := by
    simp [sharedStem, entryAt?]
  intro name member
  obtain ⟨fine, short, fits⟩ := takes name member
  obtain ⟨content, here⟩ := holds name member
  exact isFile_iff.mpr ⟨_, content,
    (isFolder_root sharedStem).leadsTo (isName name member) here ⟨fine, short, fits⟩⟩

theorem sheetFiles_eq : sheetFiles sharedStem ⟨"/"⟩ =
    .ok [("a", ⟨"/a.CSV"⟩), ("a", ⟨"/a.csv"⟩), ("b\\c", ⟨"/b\\c.csv"⟩)] := by
  have ends : ∀ name ∈ ["a.CSV", "a.csv", "b\\c.csv"], isSheetFileName name = true := by
    simp only [isSheetFileName, Path.hasExtension_eq]
    decide
  have listings : ∀ name ∈ ["a.CSV", "a.csv", "b\\c.csv"], listing? sharedStem ⟨"/"⟩ name =
      some ((Path.splitName name).1, (Path.mk "/").append ⟨name⟩) := by
    intro name member
    rw [listing?_eq (isName name member), isFile name member, ends name member]
    rfl
  obtain ⟨first, second, third, -⟩ := by simpa only [List.forall_mem_cons] using listings
  rw [Workbook.sheetFiles_eq (isFolder_root sharedStem).located, namesIn_eq]
  simp only [List.filterMap_cons, first, second, third, List.filterMap_nil]
  decide +kernel

end SharedStem

section

attribute [local instance] PatternLibrary.sizeLimited Corpus.UserRules.absent

/-- Only the first of the three can be asked for. -/
theorem reachedOnce_iff_sharedStem :
    sharedStem.HasNames ∧
      sheetFiles sharedStem ⟨"/"⟩ =
        .ok [("a", ⟨"/a.CSV"⟩), ("a", ⟨"/a.csv"⟩), ("b\\c", ⟨"/b\\c.csv"⟩)] ∧
      (∀ path ∈ [(⟨"/a.csv"⟩ : Path), ⟨"/b\\c.csv"⟩], IsSheetFileIn sharedStem ⟨"/"⟩ path ∧
        ∀ name, locate sharedStem ⟨"/"⟩ name ≠ .ok (some path)) ∧
      ¬ ReachedOnce sharedStem ⟨"/"⟩
        [("a", ⟨"/a.CSV"⟩), ("a", ⟨"/a.csv"⟩), ("b\\c", ⟨"/b\\c.csv"⟩)] := by
  obtain ⟨present, -, reached, whole⟩ :=
    reachedOnce_iff SharedStem.hasNames SharedStem.sheetFiles_eq
  have second := reached [("a", ⟨"/a.CSV"⟩)] ("a", ⟨"/a.csv"⟩) [("b\\c", ⟨"/b\\c.csv"⟩)] rfl
  have third := reached [("a", ⟨"/a.CSV"⟩), ("a", ⟨"/a.csv"⟩)] ("b\\c", ⟨"/b\\c.csv"⟩) [] rfl
  refine ⟨SharedStem.hasNames, SharedStem.sheetFiles_eq, fun path member => ?_,
    fun every => absurd (whole.mp every).1 (by decide)⟩
  simp only [List.mem_cons, List.not_mem_nil, or_false] at member
  rcases member with rfl | rfl
  · refine ⟨(present _).mp (by decide), fun name found => ?_⟩
    exact absurd (second.mp ⟨name, found⟩).2 (by decide)
  · refine ⟨(present _).mp (by decide), fun name found => ?_⟩
    exact absurd (third.mp ⟨name, found⟩).1 (by decide)

end

end Workbook

end SqlColumns
