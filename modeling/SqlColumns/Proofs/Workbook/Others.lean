import Mathlib.Data.List.Basic
import SqlColumns.Proofs.Workbook.Writing

/-!
# The other sheets

A sheet that is written changes no other one, and writing it again changes nothing at all. In a
directory this holds where the files of sheets are no links.
-/

set_option autoImplicit false

namespace SqlColumns

namespace Workbook

open FileSystem

variable {files written : FileSystem} {workbook kept : Workbook} {folder path : Path}
  {location place : Location} {name other label : String} {sheet : Sheet} {sheets : List Sheet}

/-- Two states of a workbook differ in the sheet with a name at most. -/
structure DifferAt (name : String) (files : FileSystem) (workbook : Workbook)
    (written : FileSystem) (kept : Workbook) : Prop where
  listed : ∃ before after, workbook.sheetNames files = .ok before ∧
    kept.sheetNames written = .ok after ∧ before.filter (· != name) = after.filter (· != name)
  read : ∀ label, label ≠ name → kept.readSheet written label = workbook.readSheet files label

/-!
## In memory
-/

theorem names_replaceSheet :
    ((replaceSheet sheet sheets).map Sheet.name).filter (· != sheet.name) =
      (sheets.map Sheet.name).filter (· != sheet.name) := by
  induction sheets with
  | nil => simp [replaceSheet]
  | cons first rest ih =>
      unfold replaceSheet
      split
      · next same => simp [same]
      · simp [List.filter_cons, ih]

theorem replaceSheet_replaceSheet :
    replaceSheet sheet (replaceSheet sheet sheets) = replaceSheet sheet sheets := by
  induction sheets with
  | nil => simp [replaceSheet]
  | cons first rest ih => grind [replaceSheet]

theorem differAt_memory (files : FileSystem) :
    DifferAt sheet.name files (.memory sheets) files (.memory (replaceSheet sheet sheets)) where
  listed := ⟨_, _, rfl, rfl, names_replaceSheet.symm⟩
  read _ different := readSheet_replaceSheet files different

/-!
## In a directory
-/

/-- No link in the directory of a workbook counts as the file of a sheet. -/
def NoLinks (files : FileSystem) : Workbook → Prop
  | .memory _ => True
  | .directory folder => ∀ location, files.locate folder = .ok location →
      ∀ name, isSheetFileName name = true →
        ∀ target, files.entryAt? (location ++ [name]) ≠ some (.link target)

/-- The file of a sheet that was written lies in the directory, under a name that stands for the
sheet. -/
theorem Keeps.place_eq (keeps : Keeps files folder sheet place written)
    (noLinks : NoLinks files (.directory folder)) :
    ∃ location own, files.IsFolder folder location ∧ written.IsFolder folder location ∧
      place = location ++ [own] ∧ isSheetFileName own = true ∧
      (Path.splitName own).1 = sheet.name := by
  obtain ⟨location, opened, after⟩ := keeps.opened
  obtain ⟨path, found, leads⟩ := keeps.found
  obtain ⟨own, member, listed⟩ := listed_of_locate after.located keeps.valid found
  have proper := isName_of_mem_namesIn keeps.named member
  obtain ⟨-, sheetName, stem, rfl⟩ := eq_of_listing proper listed
  refine ⟨location, own, opened, after, ?_, sheetName, stem⟩
  by_cases here : location ++ [own] = place
  · exact here.symm
  · have noLink : ∀ target, written.entryAt? (location ++ [own]) ≠ some (.link target) := by
      rw [← keeps.same.elsewhere _ here]
      exact noLinks location opened.located own sheetName
    exact ((after.locate_eq_ok_iff proper noLink).mp leads.located).2.2

variable (keeps : Keeps files folder sheet place written) (noLinks : NoLinks files (.directory folder))
  (opened : files.IsFolder folder location) (after : written.IsFolder folder location)
include keeps noLinks opened after

/-- The file of another sheet is not the one that was written. -/
theorem Keeps.locate_ne (proper : IsName other) (sheetName : isSheetFileName other = true)
    (different : location ++ [other] ≠ place) :
    written.locate (folder.append ⟨other⟩) ≠ .ok place := by
  intro located
  have noLink : ∀ target, written.entryAt? (location ++ [other]) ≠ some (.link target) := by
    rw [← keeps.same.elsewhere _ different]
    exact noLinks location opened.located other sheetName
  exact different ((after.locate_eq_ok_iff proper noLink).mp located).2.2.symm

theorem Keeps.listing?_eq (proper : IsName other) (different : location ++ [other] ≠ place) :
    listing? written folder other = listing? files folder other := by
  rw [Workbook.listing?_eq proper, Workbook.listing?_eq proper]
  by_cases sheetName : isSheetFileName other = true
  · have there := keeps.locate_ne noLinks opened after proper sheetName different
    rw [keeps.same.isFile_eq keeps.there there]
  · simp [sheetName]

/-- The same files are listed for other sheets. -/
theorem Keeps.filterMap_listing {own : String} (here : place = location ++ [own]) :
    ((files.namesIn location).filter (· != own)).filterMap (listing? files folder) =
      ((written.namesIn location).filter (· != own)).filterMap (listing? written folder) := by
  have apart : ∀ {other : String}, other ≠ own → location ++ [other] ≠ place := by
    intro other different same
    rw [here] at same
    exact different (by simpa using same)
  have members : ∀ other, other ∈ (files.namesIn location).filter (· != own) ↔
      other ∈ (written.namesIn location).filter (· != own) := by
    intro other
    rw [List.mem_filter, List.mem_filter]
    refine and_congr_left fun different => ?_
    rw [mem_namesIn, mem_namesIn, keeps.same.elsewhere _ (apart (by simpa using different))]
  have names := eq_of_ordered_names ((ordered_namesIn files location).filter _)
    ((ordered_namesIn written location).filter _) members
  rw [names]
  refine List.filterMap_congr fun other member => ?_
  obtain ⟨listed, different⟩ := List.mem_filter.mp member
  exact (keeps.listing?_eq noLinks opened after (isName_of_mem_namesIn keeps.named listed)
    (apart (by simpa using different))).symm

omit keeps noLinks opened after

/-- Names whose selection is left out anyway can be left out first. -/
theorem filter_filterMap {select : String → Option (String × Path)} {keep : String × Path → Bool}
    {own : String} (out : ∀ one, select own = some one → keep one = false) (names : List String) :
    (names.filterMap select).filter keep =
      ((names.filter (· != own)).filterMap select).filter keep := by
  induction names with
  | nil => rfl
  | cons first rest ih =>
      by_cases same : first = own
      · subst same
        cases selected : select first with
        | none => simp [selected, ih]
        | some one => simp [selected, out one selected, ih]
      · cases selected : select first with
        | none => simp [same, selected, ih]
        | some one => simp [same, selected, List.filter_cons, ih]

theorem Keeps.sheetFiles_filter (keeps : Keeps files folder sheet place written)
    (noLinks : NoLinks files (.directory folder)) :
    ∃ before after, sheetFiles files folder = .ok before ∧
      sheetFiles written folder = .ok after ∧
        before.filter (·.1 != sheet.name) = after.filter (·.1 != sheet.name) := by
  obtain ⟨location, own, opened, after, here, -, stem⟩ := keeps.place_eq noLinks
  refine ⟨_, _, sheetFiles_eq opened.located, sheetFiles_eq after.located, ?_⟩
  have listed : own ∈ written.namesIn location := mem_namesIn.mpr (here ▸ keeps.there)
  have proper := isName_of_mem_namesIn keeps.named listed
  have out : ∀ state : FileSystem, ∀ one, listing? state folder own = some one →
      (one.1 != sheet.name) = false := by
    rintro state ⟨label, path⟩ listed
    obtain ⟨-, -, same, -⟩ := eq_of_listing proper listed
    simp [← same, stem]
  rw [filter_filterMap (out files), filter_filterMap (out written),
    keeps.filterMap_listing noLinks opened after here]

/-- What the file of another sheet holds is not touched. -/
theorem Keeps.read_other (keeps : Keeps files folder sheet place written)
    (noLinks : NoLinks files (.directory folder)) (different : label ≠ sheet.name)
    (found : locate files folder label = .ok (some path)) :
    written.read path = files.read path := by
  obtain ⟨location, own, opened, after, here, -, stem⟩ := keeps.place_eq noLinks
  obtain ⟨valid, -, -⟩ := locate_eq_ok found
  obtain ⟨other, member, listed⟩ := listed_of_locate opened.located valid found
  have still : other ∈ written.namesIn location := by
    rw [mem_namesIn]
    by_cases same : location ++ [other] = place
    · exact same ▸ keeps.there
    · rw [← keeps.same.elsewhere _ same]
      exact mem_namesIn.mp member
  have proper := isName_of_mem_namesIn keeps.named still
  obtain ⟨file, sheetName, otherStem, rfl⟩ := eq_of_listing proper listed
  have apart : location ++ [other] ≠ place := by
    intro same
    rw [here, List.append_cancel_left_eq, List.cons.injEq] at same
    rw [same.1, stem] at otherStem
    exact different otherStem.symm
  have away := keeps.locate_ne noLinks opened after proper sheetName apart
  rcases keeps.same.read_alike keeps.there away with read | ⟨cause, -, failed, -⟩
  · exact read.symm
  · obtain ⟨reached, content, leads⟩ := isFile_iff.mp file
    rw [leads.located] at failed
    cases failed

theorem differAt_directory (keeps : Keeps files folder sheet place written)
    (noLinks : NoLinks files (.directory folder)) :
    DifferAt sheet.name files (.directory folder) written (.directory folder) := by
  obtain ⟨before, after, first, second, same⟩ := keeps.sheetFiles_filter noLinks
  refine ⟨⟨before.map (·.1), after.map (·.1), by rw [sheetNames, first], by rw [sheetNames, second],
    ?_⟩, fun label different => ?_⟩
  · have moved : ∀ listed : List (String × Path), (listed.map (·.1)).filter (· != sheet.name) =
        (listed.filter (·.1 != sheet.name)).map (·.1) := fun listed => List.filter_map
    rw [moved, moved, same]
  · have passed : ∀ listed : List (String × Path),
        (listed.filter (·.1 != sheet.name)).find? (fun one => one.1 == label) =
          listed.find? fun one => one.1 == label := by
      intro listed
      induction listed with
      | nil => rfl
      | cons first rest ih =>
          by_cases own : first.1 = label
          · simp [own, different]
          · by_cases out : first.1 = sheet.name
            · simp [out, Ne.symm different, ih]
            · simp [own, out, ih]
    have found : locate written folder label = locate files folder label := by
      simp only [locate, first, second, ← passed before, ← passed after, same]
    simp only [readSheet, found]
    cases looked : locate files folder label with
    | error failure => rfl
    | ok existing =>
        cases existing with
        | none => rfl
        | some path =>
            have read := keeps.read_other noLinks different looked
            simp only [read]

theorem Keeps.again (keeps : Keeps files folder sheet place written) :
    writeSheet written (.directory folder) sheet = .ok (written, .directory folder) := by
  obtain ⟨path, found, leads⟩ := keeps.found
  have wrote : written.write path sheet.bytes = .ok written := by
    rw [leads.write_eq, keeps.written_eq, set_set]
  simp only [writeSheet, found, Option.getD_some]
  rw [← Sheet.bytes, wrote]

/-!
## Both kinds of workbooks
-/

theorem differAt_self (name : String) (listed : ∃ names, workbook.sheetNames files = .ok names) :
    DifferAt name files workbook files workbook := by
  obtain ⟨names, listed⟩ := listed
  exact ⟨⟨names, names, listed, listed, rfl⟩, fun _ _ => rfl⟩

/-- A sheet that is written changes no other one, and nothing when it is written again. -/
theorem writeSheet_settles (named : files.HasNames) (noLinks : NoLinks files workbook)
    (success : workbook.writeSheet files sheet = .ok (written, kept)) :
    DifferAt sheet.name files workbook written kept ∧
      kept.writeSheet written sheet = .ok (written, kept) ∧
      (written = files ∨ ∃ folder place, workbook = .directory folder ∧ kept = .directory folder ∧
        Keeps files folder sheet place written) := by
  cases workbook with
  | memory sheets =>
      cases success
      exact ⟨differAt_memory files, by rw [writeSheet, replaceSheet_replaceSheet], .inl rfl⟩
  | directory folder =>
      obtain ⟨rfl, ⟨place, keeps⟩ | ⟨rfl, missing, -⟩⟩ := writeSheet_cases named success
      · exact ⟨differAt_directory keeps noLinks, keeps.again, .inr ⟨folder, place, rfl, rfl, keeps⟩⟩
      · obtain ⟨-, location, located⟩ := locate_eq_ok missing
        have listed : ∃ names, sheetNames written (.directory folder) = .ok names := by
          rw [sheetNames, sheetFiles_eq located]
          exact ⟨_, rfl⟩
        exact ⟨differAt_self _ listed, success, .inl rfl⟩

/-!
## Selected sheets
-/

theorem selectRequested_congr {before after selected requested : List String}
    (same : ∀ one ∈ requested, before.contains one = after.contains one) :
    selectRequested before selected requested = selectRequested after selected requested := by
  induction requested generalizing selected with
  | nil => rfl
  | cons first rest ih =>
      obtain ⟨own, others⟩ := List.forall_mem_cons.mp same
      unfold selectRequested
      rw [own, ih others]

/-- The sheets to work on stay the same when another one is not among them. -/
theorem DifferAt.selectSheets_eq (differ : DifferAt name files workbook written kept)
    {requested : List String} (absent : name ∉ requested) :
    kept.selectSheets written requested name = workbook.selectSheets files requested name := by
  obtain ⟨before, after, first, second, same⟩ := differ.listed
  simp only [selectSheets, first, second, bind, Except.bind, pure, Except.pure]
  split
  · rw [same]
  · refine (selectRequested_congr fun one member => ?_).symm
    have other : one ≠ name := by
      rintro rfl
      exact absent member
    have filtered : one ∈ before.filter (· != name) ↔ one ∈ after.filter (· != name) := by
      rw [same]
    rw [Bool.eq_iff_iff, List.contains_iff_mem, List.contains_iff_mem]
    simpa [other] using filtered

/-- The result sheet is worked on only when it is asked for. -/
theorem ne_of_selectSheets {requested labels : List String} {label : String}
    (absent : name ∉ requested)
    (selected : workbook.selectSheets files requested name = .ok labels)
    (member : label ∈ labels) : label ≠ name := by
  obtain ⟨available, -, -, wanted⟩ := (mem_of_selectSheets selected).mp member
  split at wanted
  · exact wanted
  · rintro rfl
    exact absent wanted

theorem DifferAt.loadTargets_eq (differ : DifferAt name files workbook written kept)
    {label : String} (other : label ≠ name) (layout : Layout) :
    kept.loadTargets written label layout = workbook.loadTargets files label layout := by
  rw [loadTargets, loadTargets, differ.read label other]

end Workbook

end SqlColumns
