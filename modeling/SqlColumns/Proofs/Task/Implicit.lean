import SqlColumns.Proofs.Task.EachSheet
import SqlColumns.Proofs.Task.Repeat

/-!
# Sheets that are meant when none is asked for

A command that is asked for no sheet by name means those that do not lack its columns. To ask for
exactly these sheets by name comes to the same, whatever fails on the way.
-/

set_option autoImplicit false

namespace SqlColumns

variable {files : FileSystem} {workbook : Workbook} {names : List String}

/-- The sheets that are meant when none is asked for: all but the result sheet that do not lack a
column when they are loaded. -/
def qualifying {α : Type} (load : String → Except Failure α) (resultSheet : String)
    (names : List String) : List String :=
  (names.filter (· != resultSheet)).filter fun name => !lacksColumn (load name)

section Qualifying

variable {α β : Type} {load : String → Except Failure α} {make : String → Except Failure β}
  {resultSheet : String}

theorem not_lacksColumn_of_qualifying {name : String}
    (member : name ∈ qualifying load resultSheet names) : lacksColumn (load name) = false := by
  simpa using (List.mem_filter.mp member).2

theorem gather_qualifying (same : ∀ name, lacksColumn (make name) = lacksColumn (load name)) :
    gather make (qualifying load resultSheet names) =
      gather make (names.filter (· != resultSheet)) := by
  simp only [qualifying, ← same]
  exact gather_filter make _

end Qualifying

namespace Workbook

theorem selectSheets_nil (listed : workbook.sheetNames files = .ok names) (resultSheet : String) :
    workbook.selectSheets files [] resultSheet = .ok (names.filter (· != resultSheet)) := by
  rw [selectSheets, listed]
  rfl

theorem selectSheets_qualifying {α : Type} {load : String → Except Failure α}
    {resultSheet : String} (listed : workbook.sheetNames files = .ok names)
    (distinct : names.Nodup) (some : qualifying load resultSheet names ≠ []) :
    workbook.selectSheets files (qualifying load resultSheet names) resultSheet =
      .ok (qualifying load resultSheet names) := by
  have inside : ∀ name ∈ qualifying load resultSheet names, name ∈ names := fun name member =>
    List.mem_of_mem_filter (List.mem_of_mem_filter member)
  have once : (qualifying load resultSheet names).Nodup := (distinct.filter _).filter _
  have filled : (qualifying load resultSheet names).isEmpty = false := by simpa using some
  have selected : selectRequested names [] (qualifying load resultSheet names) =
      .ok ([] ++ qualifying load resultSheet names) := selectRequested_eq_append inside once
  simp only [selectSheets, listed, bind, Except.bind, filled, Bool.false_eq_true, if_false, selected,
    List.nil_append]

end Workbook

/-!
## Scans
-/

namespace ScanRequest

variable {request : ScanRequest}

def meant (request : ScanRequest) (files : FileSystem) (workbook : Workbook)
    (names : List String) : List String :=
  qualifying (fun name => workbook.loadTargets files name request.layout) request.resultSheet names

theorem table_meant [PatternLibrary] [Corpus.UserRules]
    (listed : workbook.sheetNames files = .ok names) (distinct : names.Nodup)
    (implicit : request.sheets = []) (some : request.meant files workbook names ≠ []) :
    ({ request with sheets := request.meant files workbook names }.table files workbook).1 =
      (request.table files workbook).1 := by
  have selected := Workbook.selectSheets_nil listed request.resultSheet
  rw [← implicit] at selected
  have wide : request.explicit = true → False := by simp [explicit, implicit]
  rw [table_eq_gather selected fun asked => (wide asked).elim]
  have named : workbook.selectSheets files (request.meant files workbook names)
      request.resultSheet = .ok (request.meant files workbook names) :=
    Workbook.selectSheets_qualifying listed distinct some
  rw [table_eq_gather named fun _ _ member => not_lacksColumn_of_qualifying member]
  refine congrArg (request.tableFrom files) (funext fun paths => ?_)
  exact gather_qualifying (request.lacksColumn_scanOf files workbook paths)

end ScanRequest

/-- Two scans end alike: with the same items, their times aside, or the same failure, and with the
same files and sheets. -/
structure ScanOutcome.Alike (left right : ScanOutcome) : Prop where
  result : left.result.map (List.map ReportItem.timeless) =
    right.result.map (List.map ReportItem.timeless)
  files : left.files = right.files
  workbook : left.workbook = right.workbook

/-- Scans with one table end alike, whatever sheets they were asked for. -/
theorem runScan_alike [PatternLibrary] [Corpus.UserRules] {request : ScanRequest} {sheets : List String}
    (same : ({ request with sheets := sheets }.table files workbook).1 =
      (request.table files workbook).1) (time later : String) :
    (runScan request files workbook time).Alike
      (runScan { request with sheets := sheets } files workbook later) := by
  unfold runScan
  cases first : request.table files workbook with
  | mk produced notices =>
      cases second : { request with sheets := sheets }.table files workbook with
      | mk other told =>
          rw [first, second] at same
          obtain rfl : other = produced := same
          cases other with
          | error failure => exact ⟨rfl, rfl, rfl⟩
          | ok table =>
              cases writes : request.write with
              | false =>
                  simp only [Bool.false_eq_true, if_false]
                  exact ⟨rfl, rfl, rfl⟩
              | true =>
                  simp only [if_true]
                  cases table.write files workbook request.resultSheet request.root with
                  | error failure => exact ⟨rfl, rfl, rfl⟩
                  | ok stored =>
                      refine ⟨?_, rfl, rfl⟩
                      simp only [Except.map, List.map_append]
                      rfl

/-!
## Renamings
-/

namespace RenameRequest

variable {request : RenameRequest}

def meant (request : RenameRequest) (files : FileSystem) (workbook : Workbook)
    (names : List String) : List String :=
  qualifying (fun name => workbook.loadRenamings files name request.layout request.root)
    request.resultSheet names

theorem collect_meant (listed : workbook.sheetNames files = .ok names) (distinct : names.Nodup)
    (implicit : request.sheets = []) (some : request.meant files workbook names ≠ []) :
    ({ request with sheets := request.meant files workbook names }.collect files workbook).1 =
      (request.collect files workbook).1 := by
  have selected := Workbook.selectSheets_nil listed request.resultSheet
  rw [← implicit] at selected
  have wide : request.explicit = true → False := by simp [explicit, implicit]
  rw [collect_eq_gather selected fun asked => (wide asked).elim]
  have named : workbook.selectSheets files (request.meant files workbook names)
      request.resultSheet = .ok (request.meant files workbook names) :=
    Workbook.selectSheets_qualifying listed distinct some
  rw [collect_eq_gather named fun _ _ member => not_lacksColumn_of_qualifying member]
  exact congrArg (collectOf files)
    (gather_qualifying (request.lacksColumn_renamingsOf files workbook))

end RenameRequest

/-- Two renamings end alike: with the same items or the same failure, the same files and the same
calls. -/
structure RenameRun.Alike (left right : RenameRun) : Prop where
  result : left.result = right.result
  files : left.files = right.files
  calls : left.calls = right.calls

/-- Renamings that collect the same end alike, whatever sheets they were asked for. -/
theorem runRename_alike [PatternLibrary] {request : RenameRequest} {sheets : List String}
    (same : ({ request with sheets := sheets }.collect files workbook).1 =
      (request.collect files workbook).1) (runner : CommandRunner) :
    (runRename request runner files workbook).Alike
      (runRename { request with sheets := sheets } runner files workbook) := by
  unfold runRename
  split
  · exact ⟨rfl, rfl, rfl⟩
  · cases first : request.collect files workbook with
    | mk produced notices =>
        cases second : { request with sheets := sheets }.collect files workbook with
        | mk other told =>
            rw [first, second] at same
            obtain rfl : other = produced := same
            cases other with
            | error failure => exact ⟨rfl, rfl, rfl⟩
            | ok collected => exact ⟨rfl, rfl, rfl⟩

/-- A command that is asked for no sheet does what it does when it is asked for those that it means,
if there are any: a scan ends alike, and so does a renaming. Of the runner of a renaming it is assumed
that it has no file effect and command failures only. -/
theorem implicit_means_qualifying [PatternLibrary] [Corpus.UserRules]
    (listed : workbook.sheetNames files = .ok names) (distinct : names.Nodup) :
    (∀ (request : ScanRequest) (time later : String), request.sheets = [] →
      request.meant files workbook names ≠ [] →
      (runScan request files workbook time).Alike
        (runScan { request with sheets := request.meant files workbook names } files workbook
          later)) ∧
    ∀ (request : RenameRequest) (runner : CommandRunner), request.sheets = [] →
      request.meant files workbook names ≠ [] →
      (runRename request runner files workbook).Alike
        (runRename { request with sheets := request.meant files workbook names } runner files
          workbook) :=
  ⟨fun _ time later implicit some =>
      runScan_alike (ScanRequest.table_meant listed distinct implicit some) time later,
    fun _ runner implicit some =>
      runRename_alike (RenameRequest.collect_meant listed distinct implicit some) runner⟩

/-!
## Sheets of all kinds

Of the four sheets of a workbook one is for scans, one for renamings, one for results and one for
none of them. The one for renamings has a row without an identifier.
-/

namespace MixedBook

def book : Workbook := .memory
  [⟨"notes", ["Text"], []⟩, ⟨"ids", ["Column Name"], [["id"]]⟩, ⟨"result", ["Column Name"], []⟩,
    ⟨"changes", ["Change Type", "Search Key", "Renamed objects", "File"], [["COL RENAME"]]⟩]

def listing : List String := ["notes", "ids", "result", "changes"]

def disk : FileSystem := singleScript "id".toList

def scan (sheets : List String) : ScanRequest := ⟨⟨"/"⟩, sheets, {}, "result", {}, true⟩

def rename (sheets : List String) : RenameRequest := ⟨⟨"/"⟩, sheets, {}, "result", false, none⟩

theorem collect_eq : ((rename ["changes"]).collect disk book).1 =
    .error (.emptyCell "changes" 2 "Search Key") := by
  decide +kernel

end MixedBook

section

attribute [local instance] PatternLibrary.sizeLimited Corpus.UserRules.absent

open MixedBook in
/-- A scan means one of the sheets and a renaming another one, and fails for its row either way. -/
theorem implicit_means_qualifying_mixedBook :
    book.sheetNames disk = .ok listing ∧ listing.Nodup ∧
      (scan []).meant disk book listing = ["ids"] ∧
      (rename []).meant disk book listing = ["changes"] ∧
      (runScan (scan []) disk book "now").Alike
        (runScan (scan ["ids"]) disk book "later") ∧
      ∀ runner, (runRename (rename []) runner disk book).result =
        .error (.emptyCell "changes" 2 "Search Key") := by
  have listed : book.sheetNames disk = .ok listing := rfl
  have distinct : listing.Nodup := by decide
  have scanned : (scan []).meant disk book listing = ["ids"] := by decide +kernel
  have renamed : (rename []).meant disk book listing = ["changes"] := by decide +kernel
  obtain ⟨scans, renamings⟩ := implicit_means_qualifying listed distinct
  have first := scans (scan []) "now" "later" rfl (by simp [scanned])
  rw [scanned] at first
  refine ⟨listed, distinct, scanned, renamed, first, fun runner => ?_⟩
  have second := (renamings (rename []) runner rfl (by simp [renamed])).result
  rw [renamed] at second
  rw [second]
  have failed := collect_eq
  change (runRename (rename ["changes"]) runner disk book).result = _
  unfold runRename
  rw [if_neg (by decide)]
  cases found : (rename ["changes"]).collect disk book with
  | mk produced notices =>
      rw [found] at failed
      obtain rfl : produced = _ := failed
      rfl

end

end SqlColumns
