import Mathlib.Data.List.Forall2
import SqlColumns.Proofs.Json.RoundTrip
import SqlColumns.Proofs.Scan.Join
import SqlColumns.Proofs.Workbook.Refinement
import SqlColumns.Proofs.Workbook.Writing

/-!
# Tables that are read back

A table that is written comes back as a sheet from which its rows can be told again: a cell without
counts is empty, and any other one is the text of an object, also where nothing was counted.
-/

set_option autoImplicit false

namespace SqlColumns

/-- A text tells the counts of a cell: it is empty where there are none, and otherwise it reads as the
object of their numbers. -/
structure TellsCounts (counts : Option Counts) (text : String) : Prop where
  empty : text = "" ↔ counts = none
  parsed : ∀ found, counts = some found →
    Json.parse? text = some (.object (found.map fun one => (one.1, .number one.2)))

/-- A row of a sheet tells a row of a table: the shown path of its file, then the cell of each label. -/
def TellsRow (root : Path) (labels : List String) (row : ScanRow) (cells : List String) : Prop :=
  ∃ texts, cells = root.display row.path :: texts ∧
    List.Forall₂ (fun label text => TellsCounts (row.cell? label) text) labels texts

namespace Counts

theorem depth_toJson (counts : Counts) : counts.toJson.depth = 1 := by
  rw [toJson, Json.depth]
  induction counts with
  | nil => rfl
  | cons one counts ih =>
      have number : (Json.number (one.2 : Int)).depth = 0 := rfl
      rw [List.map_cons, Json.depthOfMembers, number, Nat.zero_max]
      exact ih

/-- The text of a cell reads back as its counts. -/
theorem parse?_compact_toJson (counts : Counts) :
    Json.parse? counts.toJson.compact = some counts.toJson := by
  have shallow : counts.toJson.depth ≤ Json.deepest := by
    rw [depth_toJson]
    decide
  rw [Json.parse?_compact, if_pos shallow]

end Counts

namespace ScanTable

theorem compact_toJson_ne_empty (counts : Counts) : counts.toJson.compact ≠ "" := by
  rw [Ne, Json.compact, ← String.toList_eq_nil_iff, String.toList_ofList]
  exact List.cons_ne_nil _ _

theorem tellsCounts_cellText (row : ScanRow) (label : String) :
    TellsCounts (row.cell? label) (cellText row label) := by
  unfold cellText
  cases row.cell? label with
  | none => exact ⟨by simp, by simp⟩
  | some counts =>
      refine ⟨by simp [compact_toJson_ne_empty], ?_⟩
      intro found same
      cases same
      exact counts.parse?_compact_toJson

theorem tellsRow_toSheet (root : Path) (labels : List String) (row : ScanRow) :
    TellsRow root labels row (root.display row.path :: labels.map (cellText row)) := by
  refine ⟨_, rfl, ?_⟩
  rw [List.forall₂_map_right_iff, List.forall₂_same]
  exact fun label _ => tellsCounts_cellText row label

variable {merges : List (String × List FileCounts)} {files written : FileSystem}
  {workbook kept : Workbook} {name : String} {root : Path}

/-- No header of a table is marked when no label is that scans were merged under. -/
theorem unmarked_toSheet (unmarked : ∀ merged ∈ merges, merged.1.toList.head? ≠ some '\uFEFF')
    {header : String} (member : header ∈ ((mergeAll merges).toSheet name root).headers) :
    header.toList.head? ≠ some '\uFEFF' := by
  rcases List.mem_cons.mp member with rfl | label
  · decide
  · obtain ⟨merged, among, rfl⟩ := List.mem_map.mp ((follows_mergeAll merges).labels.mem label)
    exact unmarked merged among

/-- A table of any merges that is written can be read back: the headers are the labels behind the one
of the files, and there is a row for each row of the table, in order, which tells it. -/
theorem readSheet_of_write (unmarked : ∀ merged ∈ merges, merged.1.toList.head? ≠ some '\uFEFF')
    (named : files.HasNames) (placed : workbook.HasPlace files name)
    (success : (mergeAll merges).write files workbook name root = .ok (written, kept)) :
    ∃ sheet, kept.readSheet written name = .ok sheet ∧
      sheet.headers = "file_name" :: (mergeAll merges).labels ∧
      List.Forall₂ (TellsRow root (mergeAll merges).labels) (mergeAll merges).rows sheet.rows := by
  have filled : ∀ cells ∈ ((mergeAll merges).toSheet name root).rows, cells ≠ [] := by
    intro cells member
    obtain ⟨row, -, rfl⟩ := List.mem_map.mp member
    exact List.cons_ne_nil _ _
  have own : workbook.HasPlace files ((mergeAll merges).toSheet name root).name := placed
  have back : kept.readSheet written ((mergeAll merges).toSheet name root).name =
      .ok ((mergeAll merges).toSheet name root) :=
    Workbook.readSheet_eq_of_writeSheet named own (List.cons_ne_nil _ _) filled
      (fun _ => unmarked_toSheet unmarked) success
  refine ⟨(mergeAll merges).toSheet name root, back, rfl, ?_⟩
  rw [toSheet, List.forall₂_map_right_iff, List.forall₂_same]
  exact fun row _ => tellsRow_toSheet root _ row

def quotedMerges : List (String × List FileCounts) :=
  [("a,b", [⟨⟨"/x.sql"⟩, [("id", 2)]⟩, ⟨⟨"/y\".sql"⟩, []⟩]),
    ("c\n", [⟨⟨"/y\".sql"⟩, [("k\r\"", 1)]⟩])]

open Workbook FileSystem in
/-- The table is made in an empty directory and read back. -/
theorem readSheet_of_write_quotedMerges :
    ∃ written sheet,
      (mergeAll quotedMerges).write emptyBook (.directory ⟨"/book"⟩) "result" ⟨"/"⟩ =
        .ok (written, .directory ⟨"/book"⟩) ∧
      readSheet written (.directory ⟨"/book"⟩) "result" = .ok sheet ∧
      sheet.headers = ["file_name", "a,b", "c\n"] ∧
      List.Forall₂ (TellsRow ⟨"/"⟩ ["a,b", "c\n"])
        [⟨⟨"/x.sql"⟩, [("a,b", [("id", 2)])]⟩,
          ⟨⟨"/y\".sql"⟩, [("a,b", []), ("c\n", [("k\r\"", 1)])]⟩] sheet.rows := by
  have named : emptyBook.HasNames := by decide
  have free := entryAt?_of_no_names namesIn_emptyBook
  have valid : validName "result" = true := by decide
  have placed : HasPlace emptyBook (.directory ⟨"/book"⟩) "result" := by
    intro missing location located
    have noLink : ∀ target,
        emptyBook.entryAt? (["book"] ++ [Sheet.fileNameOf "result"]) ≠ some (.link target) := by
      rw [free]
      exact fun target link => nomatch link
    have found := (isFolder_emptyBook.locate_eq_ok_iff (isName_fileNameOf valid) noLink).mp located
    exact absurd (free _) found.2.1
  have mirrors : Mirrors ⟨"/book"⟩ ["book"] emptyBook [] :=
    ⟨isFolder_emptyBook, .nil, by simp, by simp, by simp,
      fun name there => absurd (free name) there⟩
  have labels : (mergeAll quotedMerges).labels = ["a,b", "c\n"] := by decide +kernel
  have joined : (mergeAll quotedMerges).rows =
      [⟨⟨"/x.sql"⟩, [("a,b", [("id", 2)])]⟩,
        ⟨⟨"/y\".sql"⟩, [("a,b", []), ("c\n", [("k\r\"", 1)])]⟩] := by
    decide +kernel
  have storable : ((mergeAll quotedMerges).toSheet "result" ⟨"/"⟩).Storable := by
    rw [toSheet, labels, joined]
    decide +kernel
  have takes : Takes ((Path.mk "/book").append ⟨Sheet.fileNameOf "result"⟩)
      (Sheet.fileNameOf "result") :=
    ⟨by decide, by decide, by decide⟩
  obtain ⟨written, success, -⟩ := mirrors.write storable takes
  obtain ⟨sheet, read, headers, rows⟩ :=
    readSheet_of_write (by decide : ∀ merged ∈ quotedMerges, merged.1.toList.head? ≠ some '\uFEFF')
      named placed success
  rw [labels] at headers
  rw [labels, joined] at rows
  exact ⟨written, sheet, success, read, headers, rows⟩

end ScanTable

end SqlColumns
