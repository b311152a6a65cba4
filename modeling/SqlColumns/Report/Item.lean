import SqlColumns.Json.Basic

/-!
# Report items

Every command reports a list of items of one shape. An item is written as an object with its
fields in a fixed order; what is absent, false or empty is left out. Reading takes such an object
back, and refuses one in which a field has a value of the wrong kind.
-/

set_option autoImplicit false

namespace SqlColumns

namespace Report

/-- What an item is about. -/
inductive Kind where
  | sheet
  | scan
  | rename
  | git
  | check
  | error
  deriving DecidableEq, Repr

def Kind.name : Kind → String
  | .sheet => "sheet"
  | .scan => "scan"
  | .rename => "rename"
  | .git => "git"
  | .check => "check"
  | .error => "error"

def Kind.all : List Kind := [.sheet, .scan, .rename, .git, .check, .error]

def Kind.ofName? (name : String) : Option Kind :=
  Kind.all.find? fun kind => kind.name == name

/-- What is known about the file of an item: its size, the digest of its content, whether it was
changed, and when the item was made. -/
structure Metadata where
  size : Option Nat := none
  digest : Option String := none
  changed : Bool := false
  generatedAt : Option String := none
  deriving DecidableEq, Repr, Inhabited

/-- Something that went wrong, by its code and its message. -/
structure Issue where
  code : String
  message : String
  deriving DecidableEq, Repr, Inhabited

end Report

/-- One item of a report. -/
structure ReportItem where
  kind : Report.Kind
  path : Option String := none
  label : Option String := none
  excerpt : Option String := none
  data : Option Json := none
  metadata : Report.Metadata := {}
  issues : List Report.Issue := []
  deriving BEq, Repr

namespace Report

/-- A member that is left out when it has no value. -/
def optional (key : String) (value : Option Json) : List (String × Json) :=
  match value with
  | some value => [(key, value)]
  | none => []

def Metadata.toJson (metadata : Metadata) : Json :=
  .object (optional "size" (metadata.size.map fun size => .number size) ++
    optional "hash" (metadata.digest.map .string) ++
    optional "changed" (if metadata.changed then some (.bool true) else none) ++
    optional "generated_at" (metadata.generatedAt.map .string))

def Issue.toJson (issue : Issue) : Json :=
  .object [("code", .string issue.code), ("message", .string issue.message)]

/-- The fields of an object by name. A list stands for an object too: its values are those of the
names in order, and the first `least` names must have one. -/
def fields? (names : List String) (least : Nat) : Json → Option (List (String × Json))
  | .object members => some members
  | .array items =>
      if least ≤ items.length ∧ items.length ≤ names.length then some (names.zip items) else none
  | _ => none

def field? (fields : List (String × Json)) (name : String) : Option Json :=
  (fields.find? fun one => one.1 == name).map (·.2)

def requiredText? (fields : List (String × Json)) (name : String) : Option String :=
  match field? fields name with
  | some (.string text) => some text
  | _ => none

def optionalText? (fields : List (String × Json)) (name : String) : Option (Option String) :=
  match field? fields name with
  | none | some .null => some none
  | some (.string text) => some (some text)
  | some _ => none

def largestSize : Int := 18446744073709551615

def optionalSize? (fields : List (String × Json)) (name : String) : Option (Option Nat) :=
  match field? fields name with
  | none | some .null => some none
  | some (.number value) =>
      if 0 ≤ value ∧ value ≤ largestSize then some (some value.toNat) else none
  | some _ => none

def flag? (fields : List (String × Json)) (name : String) : Option Bool :=
  match field? fields name with
  | none => some false
  | some (.bool value) => some value
  | some _ => none

def Metadata.ofJson? (value : Json) : Option Metadata := do
  let fields ← fields? ["size", "hash", "changed", "generated_at"] 4 value
  let size ← optionalSize? fields "size"
  let digest ← optionalText? fields "hash"
  let changed ← flag? fields "changed"
  let generatedAt ← optionalText? fields "generated_at"
  return { size, digest, changed, generatedAt }

def Issue.ofJson? (value : Json) : Option Issue := do
  let fields ← fields? ["code", "message"] 2 value
  let code ← requiredText? fields "code"
  let message ← requiredText? fields "message"
  return { code, message }

def issues? (fields : List (String × Json)) (name : String) : Option (List Issue) :=
  match field? fields name with
  | none => some []
  | some (.array items) => items.mapM Issue.ofJson?
  | some _ => none

/-- The kind of a value: a name, or an object with the name as its only key and nothing under
it. -/
def Kind.ofJson? : Json → Option Kind
  | .string name => Kind.ofName? name
  | .object [(name, .null)] => Kind.ofName? name
  | _ => none

def optionalData? (fields : List (String × Json)) (name : String) : Option Json :=
  match field? fields name with
  | none | some .null => none
  | some value => some value.canonical

end Report

namespace ReportItem

/-- The names of the fields of an item in the order in which they are written. -/
def fieldNames : List String := ["kind", "path", "label", "excerpt", "data", "meta", "errors"]

def toJson (item : ReportItem) : Json :=
  .object ([("kind", .string item.kind.name)] ++
    Report.optional "path" (item.path.map .string) ++
    Report.optional "label" (item.label.map .string) ++
    Report.optional "excerpt" (item.excerpt.map .string) ++
    Report.optional "data" item.data ++
    [("meta", item.metadata.toJson)] ++
    Report.optional "errors"
      (if item.issues.isEmpty then none else some (.array (item.issues.map Report.Issue.toJson))))

def ofJson? (value : Json) : Option ReportItem := do
  let fields ← Report.fields? fieldNames 6 value
  let kind ← (Report.field? fields "kind").bind Report.Kind.ofJson?
  let path ← Report.optionalText? fields "path"
  let label ← Report.optionalText? fields "label"
  let excerpt ← Report.optionalText? fields "excerpt"
  let metadata ← (Report.field? fields "meta").bind Report.Metadata.ofJson?
  let issues ← Report.issues? fields "errors"
  let data := Report.optionalData? fields "data"
  return { kind, path, label, excerpt, data, metadata, issues }

end ReportItem

end SqlColumns
