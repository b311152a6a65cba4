import SqlColumns.Proofs.Csv.RoundTrip
import SqlColumns.Proofs.FileSystem.Listing
import SqlColumns.Proofs.Path.Escaped
import SqlColumns.Workbook

/-!
# Sheets in a directory

The sheet with a name is made in the file with this name and the extension of sheets, and the first
file that is listed for the name is read and replaced from then on.
-/

set_option autoImplicit false

namespace SqlColumns

def Sheet.fileNameOf (name : String) : String :=
  name ++ ".csv"

def Sheet.bytes (sheet : Sheet) : List UInt8 :=
  Csv.print (sheet.headers :: sheet.rows)

namespace Workbook

open FileSystem

variable {files : FileSystem} {folder path : Path} {location found : Location}
  {name other : String} {sheet : Sheet} {sheets : List Sheet}

/-!
## Names of sheets and of their files
-/

theorem splitName_fileNameOf (written : name ≠ "") :
    Path.splitName (Sheet.fileNameOf name) = (name, some "csv") := by
  have parts : Sheet.fileNameOf name = name ++ "." ++ "csv" := by
    rw [Sheet.fileNameOf, String.append_assoc]
    rfl
  rw [parts]
  exact Path.splitName_append written (by decide)

theorem validName_iff : validName name = true ↔
    name ≠ "" ∧ '/' ∉ name.toList ∧ '\\' ∉ name.toList ∧ name.toList.head? ≠ some '.' := by
  simp [validName, Path.hiddenName, and_assoc]

theorem isName_fileNameOf (valid : validName name = true) : IsName (Sheet.fileNameOf name) := by
  obtain ⟨written, noSlash, -, -⟩ := validName_iff.mp valid
  have long : 4 < (Sheet.fileNameOf name).toList.length := by
    have some : name.toList.length ≠ 0 := by simpa using written
    simp only [Sheet.fileNameOf, String.toList_append, List.length_append]
    have extension : ".csv".toList.length = 4 := by decide
    omega
  refine ⟨?_, ?_, ?_, ?_⟩
  · intro empty
    simp [empty] at long
  · have extension : '/' ∉ ".csv".toList := by decide
    simp only [Sheet.fileNameOf, String.toList_append, List.mem_append, not_or]
    exact ⟨noSlash, extension⟩
  · intro dot
    rw [dot] at long
    exact absurd long (by decide)
  · intro dots
    rw [dots] at long
    exact absurd long (by decide)

/-- A header without a byte order mark in front is read as it is. -/
theorem cleanHeader_of_unmarked {header : String}
    (unmarked : header.toList.head? ≠ some '\uFEFF') : cleanHeader header = header := by
  have kept : header.toList.dropWhile (· == '\uFEFF') = header.toList := by
    cases chars : header.toList with
    | nil => rfl
    | cons c rest =>
        have other : c ≠ '\uFEFF' := by simpa [chars] using unmarked
        rw [List.dropWhile_cons_of_neg (by simpa using other)]
  rw [cleanHeader, kept, String.ofList_toList]

theorem map_cleanHeader_of_unmarked {headers : List String}
    (unmarked : ∀ header ∈ headers, header.toList.head? ≠ some '\uFEFF') :
    headers.map cleanHeader = headers :=
  (List.map_congr_left fun header member => cleanHeader_of_unmarked (unmarked header member)).trans
    (List.map_id _)

def isSheetFileName (name : String) : Bool :=
  !Path.hiddenName name && (Path.mk name).hasExtension "csv"

/-- The name of a file that is read is one of characters. -/
theorem isText_of_isFile (file : files.isFile (folder.append ⟨name⟩) = true) :
    Path.isText name.toList = true := by
  obtain ⟨reached, content, leads⟩ := isFile_iff.mp file
  have fine := (locate_eq_ok_iff.mp leads.located).1
  refine Path.isText_of_not_mem fun zero => ?_
  have inside : '\x00' ∈ (folder.append ⟨name⟩).text.toList := Path.mem_append zero
  rw [refusal?, if_pos (List.contains_iff_mem.mpr inside)] at fine
  cases fine

theorem isSheetFileName_fileNameOf (valid : validName name = true) :
    isSheetFileName (Sheet.fileNameOf name) = true := by
  obtain ⟨written, -, -, noDot⟩ := validName_iff.mp valid
  have own : (Path.mk (Sheet.fileNameOf name)).extension? = some "csv" := by
    rw [Path.extension?, Path.fileName?, Path.components_of_isName (isName_fileNameOf valid)]
    simp [splitName_fileNameOf written]
  have first : (Sheet.fileNameOf name).toList.head? = name.toList.head? := by
    cases chars : name.toList with
    | nil => exact absurd (String.toList_eq_nil_iff.mp chars) written
    | cons c rest => simp [Sheet.fileNameOf, chars]
  simp [isSheetFileName, Path.hiddenName, Path.hasExtension, own, first, noDot]

/-!
## Listed sheets
-/

/-- What a name in a directory is listed for: the name of a sheet with the path of its file. -/
def listing? (files : FileSystem) (folder : Path) (name : String) : Option (String × Path) :=
  let path := folder.append ⟨name⟩
  if isSheetFile files path then path.stem?.map fun stem => (stem, path) else none

theorem sheetFiles_eq (located : files.locate folder = .ok location) :
    sheetFiles files folder = .ok ((files.namesIn location).filterMap (listing? files folder)) := by
  simp only [sheetFiles, located]
  rfl

theorem listing?_eq (proper : IsName name) :
    listing? files folder name =
      if files.isFile (folder.append ⟨name⟩) && isSheetFileName name then
        some ((Path.splitName name).1, folder.append ⟨name⟩)
      else none := by
  have behind : (folder.append ⟨name⟩).fileName? = some name := by
    rw [Path.fileName?, Path.components_append proper, List.getLast?_concat]
  have single : (Path.mk name).fileName? = some name := by
    rw [Path.fileName?, Path.components_of_isName proper]
    rfl
  simp only [listing?, isSheetFile, isSheetFileName, Path.isHidden, Path.hasExtension,
    Path.extension?, Path.stem?, behind, single, Option.any_some, Option.bind_some, Option.map_some,
    Bool.and_assoc]
  cases file : files.isFile (folder.append ⟨name⟩) with
  | false => rfl
  | true => simp only [isText_of_isFile file, Bool.true_and]

theorem listing?_fileNameOf (valid : validName name = true) :
    listing? files folder (Sheet.fileNameOf name) =
      if files.isFile (folder.append ⟨Sheet.fileNameOf name⟩) then
        some (name, folder.append ⟨Sheet.fileNameOf name⟩)
      else none := by
  rw [listing?_eq (isName_fileNameOf valid), isSheetFileName_fileNameOf valid, Bool.and_true,
    splitName_fileNameOf (validName_iff.mp valid).1]

theorem locate_eq (located : files.locate folder = .ok location) (valid : validName name = true) :
    locate files folder name =
      .ok ((((files.namesIn location).filterMap (listing? files folder)).find?
        fun one => one.1 == name).map (·.2)) := by
  simp only [locate, valid, if_true, sheetFiles_eq located]

/-- The file of a sheet is one of those that are listed. -/
theorem listed_of_locate (located : files.locate folder = .ok location)
    (valid : validName name = true) (found : locate files folder name = .ok (some path)) :
    ∃ other ∈ files.namesIn location, listing? files folder other = some (name, path) := by
  rw [locate_eq located valid, Except.ok.injEq, Option.map_eq_some_iff] at found
  obtain ⟨⟨stem, own⟩, first, rfl⟩ := found
  obtain ⟨other, member, listed⟩ := List.mem_filterMap.mp (List.mem_of_find?_eq_some first)
  obtain rfl : stem = name := by simpa using List.find?_some first
  exact ⟨other, member, listed⟩

/-- Where no file is found for a sheet, none is listed under its name. -/
theorem not_listed_of_locate (located : files.locate folder = .ok location)
    (valid : validName name = true) (none : locate files folder name = .ok none)
    (member : other ∈ files.namesIn location) (path : Path) :
    listing? files folder other ≠ some (name, path) := by
  intro listed
  rw [locate_eq located valid, Except.ok.injEq, Option.map_eq_none_iff, List.find?_eq_none] at none
  exact none (name, path) (List.mem_filterMap.mpr ⟨other, member, listed⟩) (by simp)

end Workbook

end SqlColumns
