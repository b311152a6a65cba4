import Mathlib.Data.List.Nodup
import SqlColumns.Proofs.Keyed
import SqlColumns.Proofs.Workbook.Writing

/-!
# Sheet files that are reached

The sheet files of a directory are listed in the order of their names, each under its name without the
extension. Reading under such a name opens the first file that is listed for it, and refuses a name
with a backslash, so a listed file is reached when no file before it has its name and no backslash is
in it.
-/

set_option autoImplicit false

namespace SqlColumns

namespace Workbook

open FileSystem

variable {files : FileSystem} {folder path : Path} {location : Location} {name other : String}
  {sheets : List (String × Path)}

/-- The name of a sheet file ends in an extension and is not hidden. -/
theorem stem_of_isSheetFileName (proper : IsName other) (sheetName : isSheetFileName other = true) :
    (Path.splitName other).1 ≠ "" ∧ (∃ behind, other.toList =
      (Path.splitName other).1.toList ++ behind) ∧ Path.hiddenName other = false := by
  obtain ⟨shown, ends⟩ := Bool.and_eq_true_iff.mp sheetName
  have single : (Path.mk other).fileName? = some other := by
    rw [Path.fileName?, Path.components_of_isName proper]
    rfl
  obtain ⟨extension, own, -⟩ := (Option.any_eq_true _ _).mp ends
  rw [Path.extension?, single, Option.bind_some] at own
  obtain ⟨written, parts⟩ := Path.eq_of_splitName (Prod.ext rfl own)
  exact ⟨written, ⟨_, parts⟩, by simpa using shown⟩

/-- Of the names that are listed, those with a backslash are no names of sheets. -/
theorem validName_iff_of_listing (proper : IsName other)
    (listed : listing? files folder other = some (name, path)) :
    validName name = true ↔ '\\' ∉ name.toList := by
  obtain ⟨-, sheetName, rfl, -⟩ := eq_of_listing proper listed
  obtain ⟨written, ⟨behind, parts⟩, shown⟩ := stem_of_isSheetFileName proper sheetName
  rw [validName_iff]
  refine ⟨fun valid => valid.2.2.1, fun plain => ⟨written, fun slash => ?_, plain, fun dot => ?_⟩⟩
  · exact proper.single (parts ▸ List.mem_append_left behind slash)
  · have first : other.toList.head? = some '.' := by
      rw [parts, List.head?_append, dot, Option.some_or]
    simp [Path.hiddenName, first] at shown

/-!
## What a listed file holds
-/

def readFile (files : FileSystem) (name : String) (path : Path) : Except Failure Sheet :=
  match files.read path with
  | .error cause => .error (.badSheet name (.system cause))
  | .ok bytes =>
      match Csv.parse bytes with
      | .error place => .error (.badSheet name (.badText place))
      | .ok records => .ok (sheetOfRecords name records)

theorem readSheet_of_locate (found : locate files folder name = .ok (some path)) :
    readSheet files (.directory folder) name = readFile files name path := by
  simp only [readSheet, found]
  rfl

/-- Whatever is wrong with a file, the sheet is named. -/
theorem eq_of_readFile_error {failure : Failure} (failed : readFile files name path = .error failure) :
    ∃ fault, failure = .badSheet name fault := by
  unfold readFile at failed
  split at failed
  · cases failed
    exact ⟨_, rfl⟩
  · split at failed <;> cases failed
    exact ⟨_, rfl⟩

/-- What a sheet holds is not looked at when it is read. -/
theorem readSheet_ne_missingHeader {workbook : Workbook} {sheet header : String} :
    workbook.readSheet files name ≠ .error (.missingHeader sheet header) := by
  intro failed
  cases workbook with
  | memory sheets =>
      unfold readSheet at failed
      simp only at failed
      split at failed <;> cases failed
  | directory folder =>
      cases located : locate files folder name with
      | error failure =>
          simp only [readSheet, located, Except.error.injEq] at failed
          subst failed
          unfold locate at located
          split at located
          · split at located
            · next failure unlisted =>
                cases located
                unfold sheetFiles at unlisted
                split at unlisted <;> cases unlisted
            · cases located
          · cases located
      | ok found =>
          cases found with
          | none =>
              simp only [readSheet, located] at failed
              cases failed
          | some path =>
              rw [readSheet_of_locate located] at failed
              obtain ⟨fault, same⟩ := eq_of_readFile_error failed
              cases same

/-!
## Listed files
-/

def IsSheetFileIn (files : FileSystem) (folder path : Path) : Prop :=
  ∃ location, files.locate folder = .ok location ∧ ∃ name, files.entryAt? (location ++ [name]) ≠ none ∧
    path = folder.append ⟨name⟩ ∧ isSheetFile files path = true

variable (named : files.HasNames) (listed : sheetFiles files folder = .ok sheets)

include named listed

/-- A listed sheet is that of a name in the directory. -/
theorem mem_sheetFiles_iff {one : String × Path} : one ∈ sheets ↔
    ∃ location, files.locate folder = .ok location ∧
      ∃ other, other ∈ files.namesIn location ∧ IsName other ∧
        listing? files folder other = some one := by
  unfold sheetFiles at listed
  cases located : files.locate folder with
  | error cause => simp [located] at listed
  | ok location =>
      simp only [located, Except.ok.injEq] at listed
      rw [← listed, List.mem_filterMap]
      constructor
      · rintro ⟨other, member, own⟩
        exact ⟨location, rfl, other, member, isName_of_mem_namesIn named member, own⟩
      · rintro ⟨place, same, other, member, -, own⟩
        obtain rfl := Except.ok.inj same
        exact ⟨other, member, own⟩

/-- All sheet files of the directory are listed, and nothing else. -/
theorem mem_paths_iff : path ∈ sheets.map Prod.snd ↔ IsSheetFileIn files folder path := by
  rw [List.mem_map]
  constructor
  · rintro ⟨⟨name, path⟩, member, rfl⟩
    obtain ⟨location, located, other, inside, proper, own⟩ :=
      (mem_sheetFiles_iff named listed).mp member
    unfold listing? at own
    simp only at own
    split at own
    · next sheetFile =>
        obtain ⟨stem, -, same⟩ := Option.map_eq_some_iff.mp own
        cases same
        exact ⟨location, located, other, mem_namesIn.mp inside, rfl, sheetFile⟩
    · cases own
  · rintro ⟨location, located, other, there, rfl, sheetFile⟩
    have inside := mem_namesIn.mpr there
    have proper := isName_of_mem_namesIn named inside
    have behind : (folder.append ⟨other⟩).fileName? = some other := by
      rw [Path.fileName?, Path.components_append proper, List.getLast?_concat]
    have own : listing? files folder other =
        some ((Path.splitName other).1, folder.append ⟨other⟩) := by
      simp only [listing?, sheetFile, if_true, Path.stem?, behind, Option.map_some]
    exact ⟨_, (mem_sheetFiles_iff named listed).mpr ⟨location, located, other, inside, proper, own⟩,
      rfl⟩

/-- No file is listed twice. -/
theorem nodup_paths : (sheets.map Prod.snd).Nodup := by
  cases located : files.locate folder with
  | error cause => simp [sheetFiles, located] at listed
  | ok location =>
      obtain rfl := Except.ok.inj ((sheetFiles_eq located).symm.trans listed)
      have distinct : (files.namesIn location).Pairwise fun left right =>
          IsName left ∧ IsName right ∧ left ≠ right :=
        (nodup_namesIn files location).imp_of_mem fun left right apart =>
          ⟨isName_of_mem_namesIn named left, isName_of_mem_namesIn named right, apart⟩
      refine List.pairwise_map.mpr (distinct.filterMap _ ?_)
      rintro left right ⟨leftProper, rightProper, apart⟩ first leftOwn second rightOwn same
      obtain ⟨-, -, -, leftPath⟩ := eq_of_listing leftProper leftOwn
      obtain ⟨-, -, -, rightPath⟩ := eq_of_listing rightProper rightOwn
      have components := congrArg Path.components (leftPath.symm.trans (same.trans rightPath))
      rw [Path.components_append leftProper, Path.components_append rightProper] at components
      exact apart (by simpa using components)

theorem validName_iff_of_mem {one : String × Path} (member : one ∈ sheets) :
    validName one.1 = true ↔ '\\' ∉ one.1.toList := by
  obtain ⟨-, -, other, -, proper, own⟩ := (mem_sheetFiles_iff named listed).mp member
  exact validName_iff_of_listing proper own

/-- A listed file is found under its name when no other one has the name. -/
theorem locate_of_mem (distinct : (sheets.map Prod.fst).Nodup) {one : String × Path}
    (member : one ∈ sheets) (plain : '\\' ∉ one.1.toList) :
    locate files folder one.1 = .ok (some one.2) := by
  have valid := (validName_iff_of_mem named listed member).mpr plain
  have found := (Keyed.find?_eq_some_iff distinct).mpr member
  simp only [locate, valid, if_true, listed, found]

/-- Some name leads to a listed file exactly when the file's own name can be asked for and no file
before it has the name. -/
theorem exists_locate_iff {before behind : List (String × Path)} {one : String × Path}
    (parts : sheets = before ++ one :: behind) :
    (∃ name, locate files folder name = .ok (some one.2)) ↔
      '\\' ∉ one.1.toList ∧ ∀ other ∈ before, other.1 ≠ one.1 := by
  have member : one ∈ sheets := parts ▸ List.mem_append_right _ List.mem_cons_self
  have valid := validName_iff_of_mem named listed member
  have alone : ∀ other ∈ sheets, other.2 = one.2 → other = one := fun other inside same =>
    List.inj_on_of_nodup_map (nodup_paths named listed) inside member same
  have apart : one ∉ before := by
    have distinct := (nodup_paths named listed).of_map
    rw [parts] at distinct
    exact fun again => (List.nodup_append.mp distinct).2.2 one again one List.mem_cons_self rfl
  constructor
  · rintro ⟨name, located⟩
    unfold locate at located
    split at located
    · next accepted =>
        simp only [listed, Except.ok.injEq, Option.map_eq_some_iff] at located
        obtain ⟨found, first, samePath⟩ := located
        obtain rfl := alone found (List.mem_of_find?_eq_some first) samePath
        obtain rfl : found.1 = name := by simpa using List.find?_some first
        refine ⟨valid.mp accepted, fun other inside same => ?_⟩
        have early : (before.find? fun one => one.1 == found.1).isSome = true :=
          List.find?_isSome.mpr ⟨other, inside, by simpa using same⟩
        obtain ⟨another, firstOne⟩ := Option.isSome_iff_exists.mp early
        rw [parts, List.find?_append, firstOne, Option.some_or, Option.some.injEq] at first
        exact apart (first ▸ List.mem_of_find?_eq_some firstOne)
    · cases located
  · rintro ⟨plain, different⟩
    refine ⟨one.1, ?_⟩
    have none : before.find? (fun other => other.1 == one.1) = none :=
      List.find?_eq_none.mpr fun other inside => by simpa using different other inside
    have found : sheets.find? (fun other => other.1 == one.1) = some one := by
      rw [parts, List.find?_append, none, Option.none_or]
      exact List.find?_cons_of_pos (beq_self_eq_true one.1)
    simp only [locate, valid.mpr plain, if_true, listed, found, Option.map_some]

end Workbook

end SqlColumns
