import SqlColumns.Csv.Reader
import SqlColumns.Csv.Writer
import SqlColumns.Sheet

/-!
# Workbooks

A workbook is a directory with one file for each sheet, or a list of sheets in memory. Both list
sheets, read one and replace one; everything else is built on these three.
-/

set_option autoImplicit false

namespace SqlColumns

/-- Where sheets are kept. -/
inductive Workbook where
  | directory (path : Path)
  | memory (sheets : List Sheet)
  deriving DecidableEq, Repr

namespace Workbook

def ofDirectory (files : FileSystem) (path : Path) : Except Failure Workbook :=
  if files.isDirectory path then .ok (.directory path) else .error (.notWorkbook path)

/-- A regular file whose name is not hidden and ends in the extension of sheets. -/
def isSheetFile (files : FileSystem) (path : Path) : Bool :=
  files.isFile path && !path.isHidden &&
    path.hasExtension "csv"

/-- The names of the sheets in a directory with their paths, in the order of their file names. -/
def sheetFiles (files : FileSystem) (folder : Path) : Except Failure (List (String × Path)) :=
  match files.locate folder with
  | .error cause => .error (.unlistable folder cause)
  | .ok location =>
      .ok ((files.namesIn location).filterMap fun name =>
        let path := folder.append ⟨name⟩
        if isSheetFile files path then path.stem?.map fun stem => (stem, path) else none)

/-- A sheet name that can be the name of a file in the directory: not empty, without slashes of
either kind, not hidden. -/
def validName (name : String) : Bool :=
  !name.isEmpty && !name.toList.contains '/' && !name.toList.contains '\\' &&
    !Path.hiddenName name

def locate (files : FileSystem) (folder : Path) (name : String) :
    Except Failure (Option Path) :=
  if validName name then
    match sheetFiles files folder with
    | .error failure => .error failure
    | .ok sheets => .ok ((sheets.find? fun one => one.1 == name).map (·.2))
  else .error (.badSheetName name)

def cleanHeader (header : String) : String :=
  String.ofList (header.toList.dropWhile (· == '\uFEFF'))

def sheetOfRecords (name : String) : List (List String) → Sheet
  | [] => ⟨name, [], []⟩
  | headers :: rows => ⟨name, headers.map cleanHeader, rows⟩

def sheetNames (files : FileSystem) : Workbook → Except Failure (List String)
  | .directory path =>
      match sheetFiles files path with
      | .error failure => .error failure
      | .ok sheets => .ok (sheets.map (·.1))
  | .memory sheets => .ok (sheets.map Sheet.name)

def readSheet (files : FileSystem) (workbook : Workbook) (name : String) : Except Failure Sheet :=
  match workbook with
  | .directory folder =>
      match locate files folder name with
      | .error failure => .error failure
      | .ok none => .error (.unknownSheet name)
      | .ok (some path) =>
          match files.read path with
          | .error cause => .error (.badSheet name (.system cause))
          | .ok bytes =>
              match Csv.parse bytes with
              | .error place => .error (.badSheet name (.badText place))
              | .ok records => .ok (sheetOfRecords name records)
  | .memory sheets =>
      match sheets.find? fun sheet => sheet.name == name with
      | some sheet => .ok sheet
      | none => .error (.unknownSheet name)

/-- Puts a sheet in place of the first one with its name, or behind all others. -/
def replaceSheet (sheet : Sheet) : List Sheet → List Sheet
  | [] => [sheet]
  | other :: sheets =>
      if other.name = sheet.name then sheet :: sheets else other :: replaceSheet sheet sheets

/-- How many bytes of a sheet file are collected before any are handed to the system. -/
def writeBuffer : Nat := 8192

/-- Makes or replaces a sheet. A device without space refuses a short sheet only at the end, when
the file is known to be the trouble, and a long one while the sheet is being written. -/
def writeSheet (files : FileSystem) (workbook : Workbook) (sheet : Sheet) :
    Except Failure (FileSystem × Workbook) :=
  match workbook with
  | .directory folder =>
      match locate files folder sheet.name with
      | .error failure => .error failure
      | .ok existing =>
          let path := existing.getD (folder.append ⟨sheet.name ++ ".csv"⟩)
          let bytes := Csv.print (sheet.headers :: sheet.rows)
          match files.write path bytes with
          | .ok written => .ok (written, workbook)
          | .error .noSpace =>
              if bytes.length ≤ writeBuffer then .error (.unwritable path .noSpace)
              else .error (.badSheet sheet.name (.system .noSpace))
          | .error cause => .error (.badSheet sheet.name (.system cause))
  | .memory sheets => .ok (files, .memory (replaceSheet sheet sheets))

def loadTargets (files : FileSystem) (workbook : Workbook) (name : String) (layout : Layout) :
    Except Failure TargetSet := do
  let sheet ← workbook.readSheet files name
  let identifiers ← sheet.targets layout
  return ⟨name, identifiers⟩

def loadRenamings (files : FileSystem) (workbook : Workbook) (name : String) (layout : Layout)
    (root : Path) : Except Failure (List Renaming) := do
  let sheet ← workbook.readSheet files name
  sheet.renamings layout root

def selectRequested (available : List String) (selected : List String) :
    List String → Except Failure (List String)
  | [] => .ok selected
  | name :: rest =>
      if available.contains name then
        selectRequested available
          (if selected.contains name then selected else selected ++ [name]) rest
      else .error (.unknownSheet name)

/-- The sheets to work on: the requested ones, or all but the result sheet. -/
def selectSheets (files : FileSystem) (workbook : Workbook) (requested : List String)
    (resultSheet : String) : Except Failure (List String) := do
  let available ← workbook.sheetNames files
  if requested.isEmpty then return available.filter (· != resultSheet)
  else selectRequested available [] requested

end Workbook

end SqlColumns
