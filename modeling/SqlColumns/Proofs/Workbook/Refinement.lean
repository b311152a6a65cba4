import Mathlib.Data.List.Basic
import SqlColumns.Proofs.Text.Order
import SqlColumns.Proofs.Workbook
import SqlColumns.Proofs.Workbook.Directory

/-!
# A directory stands for a list of sheets

Sheets that are written one after another to an empty directory are kept there as in memory: each in
the file that is made for its name, and nothing else beside them. From this it follows what either
workbook lists and gives back.
-/

set_option autoImplicit false

namespace SqlColumns

/-- A sheet that comes back from its file as it was written: its name can be that of a file, no record
is without cells and no header begins with a byte order mark. -/
structure Sheet.Storable (sheet : Sheet) : Prop where
  named : Workbook.validName sheet.name = true
  headed : sheet.headers ≠ []
  filled : ∀ row ∈ sheet.rows, row ≠ []
  unmarked : ∀ header ∈ sheet.headers, header.toList.head? ≠ some '\uFEFF'

theorem Sheet.storable_iff {sheet : Sheet} : sheet.Storable ↔
    Workbook.validName sheet.name = true ∧ sheet.headers ≠ [] ∧ (∀ row ∈ sheet.rows, row ≠ []) ∧
      ∀ header ∈ sheet.headers, header.toList.head? ≠ some '\uFEFF' :=
  ⟨fun ⟨named, headed, filled, unmarked⟩ => ⟨named, headed, filled, unmarked⟩,
    fun ⟨named, headed, filled, unmarked⟩ => ⟨named, headed, filled, unmarked⟩⟩

instance (sheet : Sheet) : Decidable sheet.Storable :=
  decidable_of_iff _ Sheet.storable_iff.symm

namespace Workbook

open FileSystem

variable {files : FileSystem} {folder : Path} {location : Location} {name : String}
  {sheet other : Sheet} {sheets : List Sheet}

def writeAll (files : FileSystem) (workbook : Workbook) :
    List Sheet → Except Failure (FileSystem × Workbook)
  | [] => .ok (files, workbook)
  | sheet :: sheets => do
      let (written, next) ← writeSheet files workbook sheet
      writeAll written next sheets

/-- The system lets a sheet with this name be made in a directory. -/
def Accepts (files : FileSystem) (folder : Path) (name : String) : Prop :=
  ∃ made, files.write (folder.append ⟨Sheet.fileNameOf name⟩) [] = .ok made

/-!
## The same sheets in a directory
-/

/-- The files of a directory are those of some sheets: each sheet is in the file that is made for its
name, and nothing else lies there. -/
structure Mirrors (folder : Path) (location : Location) (files : FileSystem) (sheets : List Sheet) :
    Prop where
  opened : files.IsFolder folder location
  distinct : (sheets.map Sheet.name).Nodup
  storable : ∀ sheet ∈ sheets, sheet.Storable
  taken : ∀ sheet ∈ sheets,
    Takes (folder.append ⟨Sheet.fileNameOf sheet.name⟩) (Sheet.fileNameOf sheet.name)
  held : ∀ sheet ∈ sheets,
    files.entryAt? (location ++ [Sheet.fileNameOf sheet.name]) = some (.file sheet.bytes)
  alone : ∀ name, files.entryAt? (location ++ [name]) ≠ none →
    ∃ sheet ∈ sheets, name = Sheet.fileNameOf sheet.name

theorem fileNameOf_inj {left right : String} :
    Sheet.fileNameOf left = Sheet.fileNameOf right ↔ left = right := by
  simp [Sheet.fileNameOf]

theorem exists_isFolder (opened : ofDirectory files folder = .ok (.directory folder)) :
    ∃ location, files.IsFolder folder location := by
  unfold ofDirectory at opened
  split at opened
  · next directory => exact isDirectory_iff.mp directory
  · cases opened

namespace Mirrors

theorem leadsTo (mirrors : Mirrors folder location files sheets) (member : sheet ∈ sheets) :
    files.LeadsTo (folder.append ⟨Sheet.fileNameOf sheet.name⟩)
      (location ++ [Sheet.fileNameOf sheet.name]) sheet.bytes :=
  mirrors.opened.leadsTo (isName_fileNameOf (mirrors.storable sheet member).named)
    (mirrors.held sheet member) (mirrors.taken sheet member)

theorem mem_names (mirrors : Mirrors folder location files sheets) :
    name ∈ files.namesIn location ↔ ∃ sheet ∈ sheets, name = Sheet.fileNameOf sheet.name := by
  rw [mem_namesIn]
  constructor
  · exact mirrors.alone name
  · rintro ⟨sheet, member, rfl⟩
    rw [mirrors.held sheet member]
    simp

theorem listing (mirrors : Mirrors folder location files sheets) (member : sheet ∈ sheets) :
    listing? files folder (Sheet.fileNameOf sheet.name) =
      some (sheet.name, folder.append ⟨Sheet.fileNameOf sheet.name⟩) := by
  rw [listing?_fileNameOf (mirrors.storable sheet member).named,
    if_pos (isFile_iff.mpr ⟨_, _, mirrors.leadsTo member⟩)]

/-- The sheets are listed by the names of their files. -/
theorem names (mirrors : Mirrors folder location files sheets) :
    ∃ names, sheetNames files (.directory folder) = .ok names ∧
      names.map Sheet.fileNameOf = files.namesIn location := by
  have stems : ∀ name ∈ files.namesIn location, listing? files folder name =
      some ((Path.splitName name).1, folder.append ⟨name⟩) ∧
        Sheet.fileNameOf (Path.splitName name).1 = name := by
    intro name listed
    obtain ⟨sheet, member, rfl⟩ := mirrors.mem_names.mp listed
    have stem := splitName_fileNameOf (validName_iff.mp (mirrors.storable sheet member).named).1
    exact ⟨by rw [mirrors.listing member, stem], by rw [stem]⟩
  have all : (files.namesIn location).filterMap (listing? files folder) =
      (files.namesIn location).map fun name => ((Path.splitName name).1, folder.append ⟨name⟩) :=
    List.filterMap_eq_map_iff_forall_eq_some.mpr fun name listed => (stems name listed).1
  refine ⟨_, by rw [sheetNames, sheetFiles_eq mirrors.opened.located], ?_⟩
  rw [all, List.map_map, List.map_map]
  exact (List.map_congr_left fun name listed => (stems name listed).2).trans (List.map_id _)

/-- The file of a sheet is found for its name, and none for another name. -/
theorem locate_eq (mirrors : Mirrors folder location files sheets)
    (valid : validName name = true) :
    locate files folder name =
      .ok (if name ∈ sheets.map Sheet.name then some (folder.append ⟨Sheet.fileNameOf name⟩)
        else none) := by
  have looked := Workbook.locate_eq mirrors.opened.located valid
  generalize (((files.namesIn location).filterMap (listing? files folder)).find?
    fun one => one.1 == name).map (·.2) = existing at looked
  rw [looked, Except.ok.injEq]
  cases existing with
  | none =>
      rw [if_neg]
      intro kept
      obtain ⟨sheet, member, rfl⟩ := List.mem_map.mp kept
      exact not_listed_of_locate mirrors.opened.located valid looked
        (mirrors.mem_names.mpr ⟨sheet, member, rfl⟩) _ (mirrors.listing member)
  | some path =>
      obtain ⟨file, listed, own⟩ := listed_of_locate mirrors.opened.located valid looked
      obtain ⟨sheet, member, rfl⟩ := mirrors.mem_names.mp listed
      rw [mirrors.listing member] at own
      cases own
      rw [if_pos (List.mem_map.mpr ⟨sheet, member, rfl⟩)]

/-- A sheet is read back as it was written. -/
theorem readSheet_eq (mirrors : Mirrors folder location files sheets)
    (valid : validName name = true) :
    readSheet files (.directory folder) name = readSheet files (.memory sheets) name := by
  simp only [readSheet, mirrors.locate_eq valid]
  cases found : sheets.find? fun one => one.name == name with
  | none =>
      have missing : name ∉ sheets.map Sheet.name := by
        intro kept
        obtain ⟨sheet, member, same⟩ := List.mem_map.mp kept
        exact List.find?_eq_none.mp found sheet member (by simpa using same)
      simp only [missing, if_false]
  | some sheet =>
      have member := List.mem_of_find?_eq_some found
      obtain rfl : sheet.name = name := by simpa using List.find?_some found
      obtain ⟨named, headed, filled, unmarked⟩ := mirrors.storable sheet member
      have parsed : Csv.parse sheet.bytes = .ok (sheet.headers :: sheet.rows) :=
        Csv.parse_print headed filled fun header first => unmarked header (List.mem_of_mem_head? first)
      simp only [List.mem_map_of_mem member, if_true, (mirrors.leadsTo member).read_eq, parsed,
        sheetOfRecords, map_cleanHeader_of_unmarked unmarked]

/-- A written sheet takes its place among the others. -/
theorem write (mirrors : Mirrors folder location files sheets) (storable : sheet.Storable)
    (taken : Takes (folder.append ⟨Sheet.fileNameOf sheet.name⟩) (Sheet.fileNameOf sheet.name)) :
    ∃ written, writeSheet files (.directory folder) sheet = .ok (written, .directory folder) ∧
      Mirrors folder location written (replaceSheet sheet sheets) := by
  have proper := isName_fileNameOf storable.named
  have below : location ++ [Sheet.fileNameOf sheet.name] ≠ [] := by simp
  have holds : files.HoldsFileOrNothing (location ++ [Sheet.fileNameOf sheet.name]) := by
    intro entry there
    obtain ⟨own, member, same⟩ := mirrors.alone (Sheet.fileNameOf sheet.name) (by simp [there])
    rw [same, mirrors.held own member] at there
    exact ⟨own.bytes, (Option.some.inj there).symm⟩
  have same := sameBut_set below holds sheet.bytes
  have away : ∀ name, name ≠ Sheet.fileNameOf sheet.name →
      (files.set (location ++ [Sheet.fileNameOf sheet.name]) (.file sheet.bytes)).entryAt?
        (location ++ [name]) = files.entryAt? (location ++ [name]) := fun name different =>
    entryAt?_set_of_ne (by simpa using different)
  refine ⟨files.set (location ++ [Sheet.fileNameOf sheet.name]) (.file sheet.bytes), ?_,
    same.isFolder mirrors.opened, nodup_replaceSheet mirrors.distinct, ?_, ?_, ?_, ?_⟩
  · have path : (if sheet.name ∈ sheets.map Sheet.name
          then some (folder.append ⟨Sheet.fileNameOf sheet.name⟩) else none).getD
          (folder.append ⟨Sheet.fileNameOf sheet.name⟩) =
        folder.append ⟨Sheet.fileNameOf sheet.name⟩ := by
      split <;> rfl
    simp only [writeSheet, mirrors.locate_eq storable.named]
    rw [← Sheet.fileNameOf, path, ← Sheet.bytes, mirrors.opened.write_eq proper holds taken]
  · intro one member
    rcases (mem_replaceSheet mirrors.distinct).mp member with rfl | ⟨inside, -⟩
    · exact storable
    · exact mirrors.storable one inside
  · intro one member
    rcases (mem_replaceSheet mirrors.distinct).mp member with rfl | ⟨inside, -⟩
    · exact taken
    · exact mirrors.taken one inside
  · intro one member
    rcases (mem_replaceSheet mirrors.distinct).mp member with rfl | ⟨inside, different⟩
    · exact entryAt?_set_self below
    · rw [away _ (mt fileNameOf_inj.mp different)]
      exact mirrors.held one inside
  · intro name there
    by_cases own : name = Sheet.fileNameOf sheet.name
    · exact ⟨sheet, (mem_replaceSheet mirrors.distinct).mpr (.inl rfl), own⟩
    · rw [away name own] at there
      obtain ⟨one, member, rfl⟩ := mirrors.alone name there
      exact ⟨one, (mem_replaceSheet mirrors.distinct).mpr
        (.inr ⟨member, mt fileNameOf_inj.mpr own⟩), rfl⟩

/-- Sheets that are written one after another take their places, the same ones as in memory. -/
theorem writeAll (mirrors : Mirrors folder location files sheets) (others : FileSystem)
    {added : List Sheet} (storable : ∀ sheet ∈ added, sheet.Storable)
    (taken : ∀ sheet ∈ added,
      Takes (folder.append ⟨Sheet.fileNameOf sheet.name⟩) (Sheet.fileNameOf sheet.name)) :
    ∃ written kept,
      Workbook.writeAll files (.directory folder) added = .ok (written, .directory folder) ∧
        Workbook.writeAll others (.memory sheets) added = .ok (others, .memory kept) ∧
          Mirrors folder location written kept := by
  induction added generalizing files sheets with
  | nil => exact ⟨files, sheets, rfl, rfl, mirrors⟩
  | cons sheet rest ih =>
      obtain ⟨own, storable⟩ := List.forall_mem_cons.mp storable
      obtain ⟨ownTaken, taken⟩ := List.forall_mem_cons.mp taken
      obtain ⟨middle, first, next⟩ := mirrors.write own ownTaken
      obtain ⟨written, kept, onDisk, inMemory, last⟩ := ih next storable taken
      refine ⟨written, kept, ?_, ?_, last⟩
      · rw [Workbook.writeAll, first]
        exact onDisk
      · rw [Workbook.writeAll, writeSheet]
        exact inMemory

end Mirrors

/-!
## What both workbooks show
-/

/-- Two workbooks show the same sheets: they list the same names, each once, and give the same sheet
for a name that a sheet can have, or the same failure when there is none. -/
structure ShowAlike (files : FileSystem) (workbook : Workbook) (others : FileSystem)
    (other : Workbook) : Prop where
  listed : ∃ names listed, workbook.sheetNames files = .ok names ∧
    other.sheetNames others = .ok listed ∧ names.Nodup ∧ listed.Nodup ∧
      ∀ name, name ∈ names ↔ name ∈ listed
  read : ∀ name, validName name = true →
    (∃ sheet, sheet.name = name ∧ workbook.readSheet files name = .ok sheet ∧
      other.readSheet others name = .ok sheet) ∨
    (workbook.readSheet files name = .error (.unknownSheet name) ∧
      other.readSheet others name = .error (.unknownSheet name))

/-- A workbook lists its sheets in the order of the bytes of their file names. -/
def ListsInByteOrder (files : FileSystem) (workbook : Workbook) : Prop :=
  ∃ names, workbook.sheetNames files = .ok names ∧ names.Pairwise fun left right =>
    Text.encodeString (Sheet.fileNameOf left) < Text.encodeString (Sheet.fileNameOf right)

namespace Mirrors

theorem inByteOrder (mirrors : Mirrors folder location files sheets) :
    ListsInByteOrder files (.directory folder) := by
  obtain ⟨names, listed, same⟩ := mirrors.names
  have ordered := same ▸ ordered_namesIn files location
  refine ⟨names, listed, (List.pairwise_map.mp ordered).imp fun {left right} less => ?_⟩
  exact Text.encode_lt less

theorem showAlike (mirrors : Mirrors folder location files sheets) (others : FileSystem) :
    ShowAlike files (.directory folder) others (.memory sheets) where
  listed := by
    obtain ⟨names, listed, same⟩ := mirrors.names
    have distinct : names.Nodup := (List.pairwise_map.mp (same ▸ nodup_namesIn files location)).imp
      fun apart same => apart (congrArg Sheet.fileNameOf same)
    refine ⟨names, sheets.map Sheet.name, listed, rfl, distinct, mirrors.distinct, fun name => ?_⟩
    have moved : name ∈ names ↔ Sheet.fileNameOf name ∈ files.namesIn location := by
      simp [← same, fileNameOf_inj]
    simp [moved, mirrors.mem_names, fileNameOf_inj, eq_comm]
  read name valid := by
    rw [mirrors.readSheet_eq valid]
    rcases readSheet_memory others sheets name with ⟨sheet, same, read⟩ | unknown
    · exact .inl ⟨sheet, same, read, read⟩
    · exact .inr ⟨unknown, unknown⟩

end Mirrors

/-- Sheets that are written one after another to an empty directory are shown by it as by a workbook
in memory, and a further one changes none but itself. -/
theorem directory_refines_memory {added : List Sheet}
    (opened : ofDirectory files folder = .ok (.directory folder))
    (empty : ∀ location, files.locate folder = .ok location → files.namesIn location = [])
    (storable : ∀ sheet ∈ added, sheet.Storable)
    (accepted : ∀ sheet ∈ added, Accepts files folder sheet.name) :
    ∃ written kept,
      writeAll files (.directory folder) added = .ok (written, .directory folder) ∧
      writeAll files (.memory []) added = .ok (files, .memory kept) ∧
      ShowAlike written (.directory folder) files (.memory kept) ∧
      ListsInByteOrder written (.directory folder) ∧
      ∀ sheet : Sheet, sheet.Storable → Accepts files folder sheet.name → ∃ changed more,
        writeSheet written (.directory folder) sheet = .ok (changed, .directory folder) ∧
        writeSheet files (.memory kept) sheet = .ok (files, .memory more) ∧
        ShowAlike changed (.directory folder) files (.memory more) ∧
        ListsInByteOrder changed (.directory folder) ∧
        ∀ name, validName name = true → name ≠ sheet.name →
          readSheet changed (.directory folder) name = readSheet written (.directory folder) name ∧
          readSheet files (.memory more) name = readSheet files (.memory kept) name := by
  obtain ⟨location, folderAt⟩ := exists_isFolder opened
  have nothing := entryAt?_of_no_names (empty location folderAt.located)
  have taken : ∀ sheet : Sheet, sheet.Storable → Accepts files folder sheet.name →
      Takes (folder.append ⟨Sheet.fileNameOf sheet.name⟩) (Sheet.fileNameOf sheet.name) := by
    rintro sheet storable ⟨made, success⟩
    exact folderAt.takes_of_write (isName_fileNameOf storable.named) (by simp [nothing]) success
  have mirrors : Mirrors folder location files [] :=
    ⟨folderAt, .nil, by simp, by simp, by simp, by simp [nothing]⟩
  obtain ⟨written, kept, onDisk, inMemory, after⟩ := mirrors.writeAll files storable
    fun sheet member => taken sheet (storable sheet member) (accepted sheet member)
  refine ⟨written, kept, onDisk, inMemory, after.showAlike files, after.inByteOrder, ?_⟩
  intro sheet own accepted
  obtain ⟨changed, success, later⟩ := after.write own (taken sheet own accepted)
  refine ⟨changed, replaceSheet sheet kept, success, rfl, later.showAlike files, later.inByteOrder,
    fun name valid different => ⟨?_, readSheet_replaceSheet files different⟩⟩
  rw [later.readSheet_eq valid, after.readSheet_eq valid]
  exact readSheet_replaceSheet changed different

def emptyBook : FileSystem :=
  ⟨[(["book"], .directory)], [], [], by simp⟩

theorem isFolder_emptyBook : emptyBook.IsFolder ⟨"/book"⟩ ["book"] := by
  have walked : walk emptyBook ⟨.entry, false, false⟩ linkLimit [] ["book"] =
      .ok (.taken ["book"]) := by
    rw [walk]
    change walk emptyBook ⟨.entry, false, false⟩ linkLimit ["book"] [] = _
    rw [walk]
    rfl
  exact ⟨locate_eq_ok_iff.mpr ⟨by decide, by decide, walked⟩, rfl⟩

theorem namesIn_emptyBook : emptyBook.namesIn ["book"] = [] := by
  simp [namesIn, emptyBook]

def bookSheets : List Sheet :=
  [⟨"b", ["h"], [["x,\"y\n"], [""]]⟩, ⟨"a.b", ["k", ""], [["\r"]]⟩, ⟨"b", ["z"], [["", "é"]]⟩]

theorem directory_refines_memory_bookSheets :
    ∃ written, writeAll emptyBook (.directory ⟨"/book"⟩) bookSheets =
        .ok (written, .directory ⟨"/book"⟩) ∧
      ShowAlike written (.directory ⟨"/book"⟩) emptyBook
        (.memory [⟨"b", ["z"], [["", "é"]]⟩, ⟨"a.b", ["k", ""], [["\r"]]⟩]) ∧
      ListsInByteOrder written (.directory ⟨"/book"⟩) := by
  have folder := isFolder_emptyBook
  have opened : ofDirectory emptyBook ⟨"/book"⟩ = .ok (.directory ⟨"/book"⟩) := by
    simp [ofDirectory, isDirectory, lookup, folder.located, folder.directory, bind, Except.bind,
      pure, Except.pure]
  have storable : ∀ sheet ∈ bookSheets, sheet.Storable := by decide
  have takes : ∀ sheet ∈ bookSheets, Takes ((Path.mk "/book").append
      ⟨Sheet.fileNameOf sheet.name⟩) (Sheet.fileNameOf sheet.name) := by
    have fine : ∀ sheet ∈ bookSheets,
        refusal? ((Path.mk "/book").append ⟨Sheet.fileNameOf sheet.name⟩) = none := by decide
    have short : ∀ sheet ∈ bookSheets,
        isTooLong ((Path.mk "/book").append ⟨Sheet.fileNameOf sheet.name⟩) = false := by decide
    have fits : ∀ sheet ∈ bookSheets,
        (Text.encodeString (Sheet.fileNameOf sheet.name)).length ≤ 255 := by decide
    exact fun sheet member => ⟨fine sheet member, short sheet member, fits sheet member⟩
  have nothing := namesIn_emptyBook
  have accepted : ∀ sheet ∈ bookSheets, Accepts emptyBook ⟨"/book"⟩ sheet.name := by
    intro sheet member
    have free := entryAt?_of_no_names nothing (Sheet.fileNameOf sheet.name)
    exact ⟨_, folder.write_eq (isName_fileNameOf (storable sheet member).named)
      (fun entry there => by rw [free] at there; cases there) (takes sheet member) []⟩
  have empty : ∀ location, emptyBook.locate ⟨"/book"⟩ = .ok location →
      emptyBook.namesIn location = [] := by
    intro location located
    rw [folder.located] at located
    cases located
    exact nothing
  obtain ⟨written, kept, onDisk, inMemory, alike, ordered, -⟩ :=
    directory_refines_memory opened empty storable accepted
  cases inMemory
  exact ⟨written, onDisk, alike, ordered⟩

end Workbook

end SqlColumns
