import SqlColumns.Report.Item
import SqlColumns.Workbook

/-!
# Listing the sheets of a workbook

One item for each sheet, with its headers and the number of its rows. The first sheet that cannot
be read fails the whole listing.
-/

set_option autoImplicit false

namespace SqlColumns

namespace Listing

def item (name : String) (sheet : Sheet) : ReportItem :=
  { kind := .sheet
    label := some name
    data := some (.sorted
      [("headers", .strings sheet.headers), ("rows", .number sheet.rows.length)]) }

def items (files : FileSystem) (workbook : Workbook) :
    List String → Except Failure (List ReportItem)
  | [] => .ok []
  | name :: names =>
      match workbook.readSheet files name with
      | .error failure => .error failure
      | .ok sheet =>
          match items files workbook names with
          | .error failure => .error failure
          | .ok others => .ok (item name sheet :: others)

end Listing

def listSheets (files : FileSystem) (workbook : Workbook) : Except Failure (List ReportItem) :=
  match workbook.sheetNames files with
  | .error failure => .error failure
  | .ok names => Listing.items files workbook names

end SqlColumns
