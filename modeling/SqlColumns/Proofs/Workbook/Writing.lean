import SqlColumns.Proofs.FileSystem.Write
import SqlColumns.Proofs.Workbook
import SqlColumns.Proofs.Workbook.Directory

/-!
# A sheet that is written to a directory

A sheet that is written without an error is found and read back afterwards, whether it is made or
replaced, unless its file is a device.
-/

set_option autoImplicit false

namespace SqlColumns

namespace Workbook

open FileSystem

variable {files written : FileSystem} {folder path : Path} {location place : Location}
  {name other : String} {sheet : Sheet} {kept : Workbook}

theorem locate_eq_ok {existing : Option Path} (found : locate files folder name = .ok existing) :
    validName name = true ∧ ∃ location, files.locate folder = .ok location := by
  unfold locate at found
  split at found
  · next valid =>
      refine ⟨valid, ?_⟩
      unfold sheetFiles at found
      cases located : files.locate folder with
      | error cause => simp [located] at found
      | ok location => exact ⟨location, rfl⟩
  · cases found

theorem isName_of_mem_namesIn (named : files.HasNames) (member : name ∈ files.namesIn location) :
    IsName name :=
  named.isProper (mem_namesIn.mp member) name (List.mem_append_right _ (List.mem_singleton_self _))

/-- A listed file has the name of a sheet file in the directory. -/
theorem eq_of_listing (proper : IsName other)
    (listed : listing? files folder other = some (name, path)) :
    files.isFile path = true ∧ isSheetFileName other = true ∧ (Path.splitName other).1 = name ∧
      path = folder.append ⟨other⟩ := by
  rw [listing?_eq proper] at listed
  split at listed
  · next both =>
      cases listed
      obtain ⟨file, sheet⟩ := Bool.and_eq_true_iff.mp both
      exact ⟨file, sheet, rfl, rfl⟩
  · cases listed

theorem sheetFiles_of_sameShape (same : SameShape files written) (folder : Path) :
    sheetFiles written folder = sheetFiles files folder := by
  have listing : listing? written folder = listing? files folder := by
    funext other
    simp only [listing?, isSheetFile, same.isFile_eq]
    rfl
  cases located : files.locate folder with
  | error cause => simp only [sheetFiles, located, ← same.locate_eq folder]
  | ok location =>
      rw [sheetFiles_eq located, sheetFiles_eq (same.locate_eq folder ▸ located), listing,
        same.namesIn_eq]

/-- What has become of a sheet that was written to a directory: nothing but its file has changed, and
the sheet is found in it. -/
structure Keeps (files : FileSystem) (folder : Path) (sheet : Sheet) (place : Location)
    (written : FileSystem) : Prop where
  written_eq : written = files.set place (.file sheet.bytes)
  same : SameBut place files written
  named : written.HasNames
  valid : validName sheet.name = true
  opened : ∃ location, files.IsFolder folder location ∧ written.IsFolder folder location
  found : ∃ path, locate written folder sheet.name = .ok (some path) ∧
    written.LeadsTo path place sheet.bytes

theorem Keeps.there (keeps : Keeps files folder sheet place written) :
    written.entryAt? place ≠ none := by
  obtain ⟨path, -, leads⟩ := keeps.found
  simp [leads.holds]

/-- A sheet is replaced in the file in which it is found. -/
theorem keeps_of_found (named : files.HasNames)
    (found : locate files folder sheet.name = .ok (some path)) :
    ∃ place, files.write path sheet.bytes = .ok (files.set place (.file sheet.bytes)) ∧
      Keeps files folder sheet place (files.set place (.file sheet.bytes)) := by
  obtain ⟨valid, location, located⟩ := locate_eq_ok found
  obtain ⟨other, member, listed⟩ := listed_of_locate located valid found
  have proper := isName_of_mem_namesIn named member
  obtain ⟨file, -, -, rfl⟩ := eq_of_listing proper listed
  obtain ⟨place, content, leads⟩ := isFile_iff.mp file
  have puts : Puts files (folder.append ⟨other⟩) sheet.bytes place _ := leads.puts
  have opened := isFolder_of_find located proper (locate_eq_ok_iff_find.mp leads.located)
  have after := puts.same.isFolder opened
  have shape := sameShape_set leads.below_root leads.holds sheet.bytes
  refine ⟨place, leads.write_eq _, rfl, puts.same,
    named.set (named.isProper (by simp [leads.holds])) _, valid, ⟨location, opened, after⟩, _, ?_,
    puts.leads⟩
  unfold locate at found ⊢
  rw [sheetFiles_of_sameShape shape]
  exact found

/-- What is listed for a sheet that was not listed before is the file that was made. -/
theorem locate_of_made {location : Location} {content : List UInt8}
    (opened : files.IsFolder folder location)
    (missing : locate files folder sheet.name = .ok none) (same : SameBut place files written)
    (named : written.HasNames) (made : written.entryAt? place = some (.file content))
    (member : other ∈ written.namesIn location)
    (listed : listing? written folder other = some (sheet.name, path)) :
    written.locate path = .ok place := by
  have proper := isName_of_mem_namesIn named member
  obtain ⟨file, sheetName, stem, rfl⟩ := eq_of_listing proper listed
  obtain ⟨there, content, leads⟩ := isFile_iff.mp file
  by_cases here : location ++ [other] = place
  · have noLink : ∀ target, written.entryAt? (location ++ [other]) ≠ some (.link target) := by
      simp [here, made]
    obtain ⟨-, -, found⟩ := ((same.isFolder opened).locate_eq_ok_iff proper noLink).mp leads.located
    exact (found.trans here) ▸ leads.located
  · refine Classical.byContradiction fun away => ?_
    have before : other ∈ files.namesIn location := by
      rw [mem_namesIn, same.elsewhere _ here, ← mem_namesIn]
      exact member
    have valid := (locate_eq_ok missing).1
    refine not_listed_of_locate opened.located valid missing before (folder.append ⟨other⟩) ?_
    rw [listing?_eq proper, same.isFile_eq (by simp [made]) away, file, sheetName, stem]
    rfl

/-- A sheet that was not there is made, and its file is the only one that is listed for it. -/
theorem keeps_of_missing (named : files.HasNames)
    (missing : locate files folder sheet.name = .ok none)
    (success : files.write (folder.append ⟨Sheet.fileNameOf sheet.name⟩) sheet.bytes = .ok written) :
    (∃ place, Keeps files folder sheet place written) ∨
      written = files ∧ ∃ location kind,
        files.locate (folder.append ⟨Sheet.fileNameOf sheet.name⟩) = .ok location ∧
          files.entryAt? location = some (.device kind) := by
  obtain ⟨valid, location, located⟩ := locate_eq_ok missing
  rcases write_cases named success with ⟨place, proper, puts⟩ | device
  · left
    have own := isName_fileNameOf valid
    obtain ⟨reached, found⟩ := find_of_write success
    have opened := isFolder_of_find located own found
    have after := puts.same.isFolder opened
    have namedToo : written.HasNames := puts.written_eq ▸ named.set proper _
    refine ⟨place, puts.written_eq, puts.same, namedToo, valid, ⟨location, opened, after⟩, ?_⟩
    have listed : listing? written folder (Sheet.fileNameOf sheet.name) =
        .some (sheet.name, folder.append ⟨Sheet.fileNameOf sheet.name⟩) := by
      rw [listing?_fileNameOf valid, if_pos (isFile_iff.mpr ⟨_, _, puts.leads⟩)]
    have member := after.mem_namesIn own puts.leads.located
    cases again : locate written folder sheet.name with
    | error failure =>
        rw [Workbook.locate_eq after.located valid] at again
        cases again
    | ok existing =>
        cases existing with
        | none => exact absurd listed (not_listed_of_locate after.located valid again member _)
        | some path =>
            obtain ⟨other, member, listed⟩ := listed_of_locate after.located valid again
            exact ⟨path, rfl, locate_of_made opened missing puts.same namedToo puts.leads.holds
              member listed, puts.leads.holds⟩
  · exact .inr device

theorem writeSheet_cases (named : files.HasNames)
    (success : writeSheet files (.directory folder) sheet = .ok (written, kept)) :
    kept = .directory folder ∧ ((∃ place, Keeps files folder sheet place written) ∨
      written = files ∧ locate files folder sheet.name = .ok none ∧ ∃ location kind,
        files.locate (folder.append ⟨Sheet.fileNameOf sheet.name⟩) = .ok location ∧
          files.entryAt? location = some (.device kind)) := by
  simp only [writeSheet] at success
  split at success
  · cases success
  · next existing found =>
      split at success
      · next changed wrote =>
          cases success
          refine ⟨rfl, ?_⟩
          cases existing with
          | none =>
              rcases keeps_of_missing named found wrote with keeps | ⟨same, device⟩
              · exact .inl keeps
              · exact .inr ⟨same, found, device⟩
          | some path =>
              obtain ⟨place, put, keeps⟩ := keeps_of_found named found
              obtain rfl := Except.ok.inj (put.symm.trans wrote)
              exact .inl ⟨place, keeps⟩
      · split at success <;> cases success
      · cases success

theorem Keeps.readSheet_eq (keeps : Keeps files folder sheet place written)
    (headed : sheet.headers ≠ []) (filled : ∀ row ∈ sheet.rows, row ≠ [])
    (unmarked : ∀ header ∈ sheet.headers.head?, header.toList.head? ≠ some '\uFEFF') :
    readSheet written (.directory folder) sheet.name =
      .ok ⟨sheet.name, sheet.headers.map cleanHeader, sheet.rows⟩ := by
  obtain ⟨path, found, leads⟩ := keeps.found
  have parsed : Csv.parse sheet.bytes = .ok (sheet.headers :: sheet.rows) :=
    Csv.parse_print headed filled unmarked
  simp only [readSheet, found, leads.read_eq, parsed, sheetOfRecords]

/-- The file in which a sheet would be made is not there, or it is a regular file. -/
def HasPlace (files : FileSystem) (workbook : Workbook) (name : String) : Prop :=
  match workbook with
  | .memory _ => True
  | .directory folder =>
      locate files folder name = .ok none →
        ∀ location, files.locate (folder.append ⟨Sheet.fileNameOf name⟩) = .ok location →
          ∃ content, files.entryAt? location = some (.file content)

/-- A sheet that is written with its place is put among the sheets in memory or kept in its file. -/
theorem kept_of_writeSheet {workbook : Workbook} (named : files.HasNames)
    (placed : workbook.HasPlace files sheet.name)
    (success : workbook.writeSheet files sheet = .ok (written, kept)) :
    (∃ sheets, kept = .memory (replaceSheet sheet sheets)) ∨
      ∃ folder place, kept = .directory folder ∧ Keeps files folder sheet place written := by
  cases workbook with
  | memory sheets =>
      cases success
      exact .inl ⟨sheets, rfl⟩
  | directory folder =>
      obtain ⟨rfl, ⟨place, keeps⟩ | ⟨rfl, missing, location, kind, located, device⟩⟩ :=
        writeSheet_cases named success
      · exact .inr ⟨folder, place, rfl, keeps⟩
      · obtain ⟨content, file⟩ := placed missing location located
        rw [device] at file
        cases file

theorem readSheet_memory_replaceSheet (files : FileSystem) (sheet : Sheet) (sheets : List Sheet) :
    readSheet files (.memory (replaceSheet sheet sheets)) sheet.name = .ok sheet := by
  simp only [readSheet, find?_replaceSheet, if_true]

/-- The rows of a sheet come back from either kind of workbook as they were written. -/
theorem readSheet_of_writeSheet {workbook : Workbook} (named : files.HasNames)
    (placed : workbook.HasPlace files sheet.name) (headed : sheet.headers ≠ [])
    (filled : ∀ row ∈ sheet.rows, row ≠ [])
    (unmarked : ∀ header ∈ sheet.headers.head?, header.toList.head? ≠ some '\uFEFF')
    (success : workbook.writeSheet files sheet = .ok (written, kept)) :
    ∃ headers, kept.readSheet written sheet.name = .ok ⟨sheet.name, headers, sheet.rows⟩ := by
  rcases kept_of_writeSheet named placed success with ⟨sheets, rfl⟩ | ⟨folder, place, rfl, keeps⟩
  · exact ⟨sheet.headers, readSheet_memory_replaceSheet written sheet sheets⟩
  · exact ⟨_, keeps.readSheet_eq headed filled unmarked⟩

/-- A sheet comes back whole when no header of it begins with a byte order mark. -/
theorem readSheet_eq_of_writeSheet {workbook : Workbook} (named : files.HasNames)
    (placed : workbook.HasPlace files sheet.name) (headed : sheet.headers ≠ [])
    (filled : ∀ row ∈ sheet.rows, row ≠ [])
    (unmarked : ∀ header ∈ sheet.headers, header.toList.head? ≠ some '\uFEFF')
    (success : workbook.writeSheet files sheet = .ok (written, kept)) :
    kept.readSheet written sheet.name = .ok sheet := by
  rcases kept_of_writeSheet named placed success with ⟨sheets, rfl⟩ | ⟨folder, place, rfl, keeps⟩
  · exact readSheet_memory_replaceSheet written sheet sheets
  · rw [keeps.readSheet_eq headed filled fun header first =>
      unmarked header (List.mem_of_mem_head? first), map_cleanHeader_of_unmarked unmarked]

end Workbook

end SqlColumns
