import SqlColumns.Proofs.Json.Lines
import SqlColumns.Proofs.Text.Split
import SqlColumns.Report.Render

/-!
# Reading reports back

A rendering as JSON can be cut into the texts of the items, and each of them reads back as its item.
What is left out of a text because it is absent, false or empty comes back as such. Only items whose
data are nested too deep are refused.
-/

set_option autoImplicit false

namespace SqlColumns

namespace Report

/-!
## Fields
-/

variable {key name : String} {value : Option Json} {left right fields : List (String × Json)}

@[simp] theorem field?_append :
    field? (left ++ right) name = (field? left name).or (field? right name) := by
  simp only [field?, List.find?_append, Option.map_or]

@[simp] theorem field?_optional :
    field? (optional key value) name = if key = name then value else none := by
  cases value <;> by_cases same : key = name <;> simp [field?, optional, same]

@[simp] theorem field?_cons {own : Json} :
    field? ((key, own) :: fields) name = if key = name then some own else field? fields name := by
  by_cases same : key = name <;> simp [field?, same]

theorem optionalText?_of_field? {text : Option String}
    (own : field? fields name = text.map .string) : optionalText? fields name = some text := by
  cases text <;> simp [optionalText?, own]

theorem optionalSize?_of_field? {size : Option Nat}
    (own : field? fields name = size.map fun (size : Nat) => .number (size : Int))
    (fits : ∀ number, size = some number → (number : Int) ≤ largestSize) :
    optionalSize? fields name = some size := by
  cases size with
  | none => simp [optionalSize?, own]
  | some number =>
      have small := fits number rfl
      simp [optionalSize?, own, small]

theorem flag?_of_field? {flag : Bool}
    (own : field? fields name = if flag then some (.bool true) else none) :
    flag? fields name = some flag := by
  cases flag <;> simp [flag?, own]

theorem depthOfMembers_optional :
    Json.depthOfMembers (optional key value) = (value.map Json.depth).getD 0 := by
  cases value <;> simp [optional, Json.depthOfMembers]

/-!
## Parts of items
-/

theorem Kind.ofName?_name (kind : Kind) : ofName? kind.name = some kind := by
  cases kind <;> rfl

def Metadata.IsReadable (metadata : Metadata) : Prop :=
  ∀ size, metadata.size = some size → (size : Int) ≤ largestSize

theorem Metadata.ofJson?_toJson {metadata : Metadata} (readable : metadata.IsReadable) :
    ofJson? metadata.toJson = some metadata := by
  obtain ⟨fields, written⟩ : ∃ fields, metadata.toJson = .object fields := ⟨_, rfl⟩
  have members := Json.object.inj written
  have size : optionalSize? fields "size" = some metadata.size := by
    refine optionalSize?_of_field? ?_ readable
    cases sized : metadata.size <;> simp [← members, sized]
  have digest : optionalText? fields "hash" = some metadata.digest :=
    optionalText?_of_field? (by simp [← members])
  have changed : flag? fields "changed" = some metadata.changed :=
    flag?_of_field? (by simp [← members])
  have generatedAt : optionalText? fields "generated_at" = some metadata.generatedAt :=
    optionalText?_of_field? (by simp [← members])
  rw [written]
  simp only [ofJson?, fields?, size, digest, changed, generatedAt, Option.bind_eq_bind,
    Option.bind_some]
  rfl

theorem Issue.ofJson?_toJson (issue : Issue) : ofJson? issue.toJson = some issue := by
  rfl

theorem mapM_map_eq_some {α : Type} {write : α → Json} {read : Json → Option α} {all : List α}
    (back : ∀ one ∈ all, read (write one) = some one) : (all.map write).mapM read = some all := by
  induction all with
  | nil => rfl
  | cons one all ih =>
      obtain ⟨own, others⟩ := List.forall_mem_cons.mp back
      simp only [List.map_cons, List.mapM_cons, own, ih others, Option.bind_eq_bind,
        Option.bind_some]
      rfl

theorem issues?_of_field? {issues : List Issue}
    (own : field? fields name =
      if issues.isEmpty then none else some (.array (issues.map Issue.toJson))) :
    issues? fields name = some issues := by
  cases issues with
  | nil => simp [issues?, own]
  | cons issue issues =>
      rw [issues?, own]
      exact mapM_map_eq_some fun one _ => one.ofJson?_toJson

theorem optionalData?_of_field? {data : Option Json} (own : field? fields name = data)
    (sorted : ∀ value, data = some value → value.canonical = value ∧ value ≠ .null) :
    optionalData? fields name = data := by
  unfold optionalData?
  split
  · next none => rw [← own, none]
  · next null => exact absurd rfl (sorted .null (own.symm.trans null)).2
  · next value _ there => rw [(sorted value (own.symm.trans there)).1, ← own, there]

end Report

namespace ReportItem

open Report

/-- The size is a number that readers take. The data, if there are any, are not null, and have the
members of every object in the order of their keys. -/
structure IsReadable (item : ReportItem) : Prop where
  metadata : item.metadata.IsReadable
  data : ∀ value, item.data = some value → value.canonical = value ∧ value ≠ .null

theorem ofJson?_toJson {item : ReportItem} (readable : item.IsReadable) :
    ofJson? item.toJson = some item := by
  obtain ⟨fields, written⟩ : ∃ fields, item.toJson = .object fields := ⟨_, rfl⟩
  have members := Json.object.inj written
  have kind : field? fields "kind" = some (.string item.kind.name) := by simp [← members]
  have path : optionalText? fields "path" = some item.path :=
    optionalText?_of_field? (by simp [← members])
  have label : optionalText? fields "label" = some item.label :=
    optionalText?_of_field? (by simp [← members])
  have excerpt : optionalText? fields "excerpt" = some item.excerpt :=
    optionalText?_of_field? (by simp [← members])
  have data : optionalData? fields "data" = item.data :=
    optionalData?_of_field? (by simp [← members]) readable.data
  have metadata : field? fields "meta" = some item.metadata.toJson := by
    simp [← members]
  have issues : issues? fields "errors" = some item.issues :=
    issues?_of_field? (by simp [← members])
  rw [written]
  simp only [ofJson?, fields?, kind, Kind.ofJson?, Kind.ofName?_name, path, label, excerpt, data,
    metadata, Metadata.ofJson?_toJson readable.metadata, issues, Option.bind_eq_bind,
    Option.bind_some]
  rfl

/-!
## Depth
-/

def dataDepth (item : ReportItem) : Nat :=
  (item.data.map Json.depth).getD 0

theorem depth_toJson (item : ReportItem) :
    item.toJson.depth = max item.dataDepth (if item.issues.isEmpty then 1 else 2) + 1 := by
  have text : ∀ value : Option String, ((value.map Json.string).map Json.depth).getD 0 = 0 := by
    rintro (_ | value) <;> rfl
  have metadata : item.metadata.toJson.depth = 1 := by
    simp only [Metadata.toJson, Json.depth, Json.depthOfMembers_append, depthOfMembers_optional,
      text]
    cases item.metadata.size <;> cases item.metadata.changed <;> rfl
  have issues : ((if item.issues.isEmpty then none
      else some (Json.array (item.issues.map Issue.toJson))).map Json.depth).getD 0 =
        if item.issues.isEmpty then 0 else 2 := by
    cases all : item.issues with
    | nil => rfl
    | cons issue rest =>
        have own : ∀ one ∈ (issue :: rest).map Issue.toJson, one.depth = 1 := by
          intro one member
          obtain ⟨other, -, rfl⟩ := List.mem_map.mp member
          rfl
        exact congrArg (· + 1) (Json.depthOfItems_eq (List.cons_ne_nil _ _) own)
  simp only [toJson, Json.depth, Json.depthOfMembers_append, depthOfMembers_optional, text,
    Json.depthOfMembers, metadata, issues, dataDepth]
  split <;> omega

theorem depth_toJson_le_iff (item : ReportItem) {limit : Nat} (some : 3 ≤ limit) :
    item.toJson.depth ≤ limit ↔ item.dataDepth < limit := by
  rw [depth_toJson]
  split <;> omega

def read? (text : String) : Option ReportItem :=
  (Json.parse? text).bind ofJson?

def kept? (item : ReportItem) : Option ReportItem :=
  if item.dataDepth < Json.deepest then some item else none

theorem bind_parsed {item : ReportItem} (readable : item.IsReadable) :
    (if item.toJson.depth ≤ Json.deepest then some item.toJson else none).bind ofJson? =
      item.kept? := by
  simp only [kept?, depth_toJson_le_iff item (show 3 ≤ Json.deepest by decide)]
  split
  · rw [Option.bind_some, ofJson?_toJson readable]
  · rfl

theorem read?_compact {item : ReportItem} (readable : item.IsReadable) :
    read? item.toJson.compact = item.kept? := by
  rw [read?, Json.parse?_compact, bind_parsed readable]

theorem read?_pretty {item : ReportItem} (readable : item.IsReadable) :
    read? item.toJson.pretty = item.kept? := by
  rw [read?, Json.parse?_pretty, bind_parsed readable]

def readArray? (text : String) : Option (List ReportItem) :=
  match Json.parse? text with
  | some (.array values) => values.mapM ofJson?
  | _ => none

end ReportItem

namespace Report

/-!
## Renderings
-/

variable {items : List ReportItem}

theorem splitString_renderLines (written : items ≠ []) :
    Text.splitString '\n' (renderLines false items) =
      items.map fun item => item.toJson.compact := by
  have lines : (renderLines false items).toList =
      ['\n'].intercalate (items.map fun item => item.toJson.compactChars) := by
    simp [renderLines, String.toList_intercalate, jsonText, Json.compact, Function.comp_def]
  rw [Text.splitString, lines, Text.split_intercalate (by simpa using written), List.map_map]
  · rfl
  · intro line member
    obtain ⟨item, -, rfl⟩ := List.mem_map.mp member
    exact Json.lineFeed_not_mem_compactChars item.toJson

theorem splitBlocks_renderLines (written : items ≠ []) :
    (Text.splitBlocks (renderLines true items).toList).map String.ofList =
      items.map fun item => item.toJson.pretty := by
  have blocks : (renderLines true items).toList =
      ['\n', '\n'].intercalate (items.map fun item => item.toJson.prettyChars 0) := by
    simp [renderLines, String.toList_intercalate, jsonText, Json.pretty, Function.comp_def]
  rw [blocks, Text.splitBlocks_intercalate (by simpa using written), List.map_map]
  · rfl
  · intro block member
    obtain ⟨item, -, rfl⟩ := List.mem_map.mp member
    exact Json.isBlock_prettyChars 0 item.toJson

/-- An array is one level above its items. -/
theorem depth_array_le_iff :
    (Json.array (items.map ReportItem.toJson)).depth ≤ Json.deepest ↔
      ∀ item ∈ items, item.dataDepth + 1 < Json.deepest := by
  rw [Json.depth, Nat.add_one_le_iff, Nat.lt_iff_le_pred (by decide), Json.depthOfItems_le_iff,
    List.forall_mem_map]
  refine forall₂_congr fun item _ => ?_
  rw [item.depth_toJson_le_iff (by decide), Nat.lt_sub_iff_add_lt]

theorem readArray?_renderArray (readable : ∀ item ∈ items, item.IsReadable) (isPretty : Bool) :
    ReportItem.readArray? (renderArray isPretty items) =
      if ∀ item ∈ items, item.dataDepth + 1 < Json.deepest then some items else none := by
  have parsed : Json.parse? (renderArray isPretty items) =
      if (Json.array (items.map ReportItem.toJson)).depth ≤ Json.deepest then
        some (.array (items.map ReportItem.toJson)) else none := by
    cases isPretty with
    | false => exact Json.parse?_compact _
    | true => exact Json.parse?_pretty _
  rw [ReportItem.readArray?, parsed]
  simp only [depth_array_le_iff]
  by_cases shallow : ∀ item ∈ items, item.dataDepth + 1 < Json.deepest
  · rw [if_pos shallow, if_pos shallow]
    exact mapM_map_eq_some fun item member => ReportItem.ofJson?_toJson (readable item member)
  · rw [if_neg shallow, if_neg shallow]

theorem splitString_printed (format : Format) (isPretty : Bool) :
    Text.splitString '\n' (printed format isPretty items) =
      Text.splitString '\n' (render format isPretty items) ++ [""] := by
  rw [printed, Text.splitString, Text.splitString, String.toList_append,
    show "\n".toList = ['\n'] from rfl, Text.split_append_split, List.map_append]
  rfl

/-- Every rendering as JSON is made of one text for each item, in order, that reads back as this
item: lines, blocks between blank lines, or the items of one array. A text on its own is refused exactly
when the data of its item are too deep, and an array when those of one of its items are, which stand one
level deeper there. The line feed that is printed behind a rendering ends its last line. -/
theorem render_readBack (written : items ≠ []) (readable : ∀ item ∈ items, item.IsReadable) :
    (Text.splitString '\n' (render .jsonl false items)).map ReportItem.read? =
        items.map ReportItem.kept? ∧
      ((Text.splitBlocks (render .jsonl true items).toList).map String.ofList).map ReportItem.read? =
        items.map ReportItem.kept? ∧
      (∀ isPretty, ReportItem.readArray? (render .json isPretty items) =
        if ∀ item ∈ items, item.dataDepth + 1 < Json.deepest then some items else none) ∧
      ∀ format isPretty, Text.splitString '\n' (printed format isPretty items) =
        Text.splitString '\n' (render format isPretty items) ++ [""] := by
  refine ⟨?_, ?_, readArray?_renderArray readable, splitString_printed⟩
  · rw [render, splitString_renderLines written, List.map_map]
    refine List.map_congr_left fun item member => ?_
    rw [Function.comp_apply, ReportItem.read?_compact (readable item member)]
  · rw [render, splitBlocks_renderLines written, List.map_map]
    refine List.map_congr_left fun item member => ?_
    rw [Function.comp_apply, ReportItem.read?_pretty (readable item member)]

def nested : Nat → Json
  | 0 => .array []
  | levels + 1 => .array [nested levels]

theorem depth_nested (levels : Nat) : (nested levels).depth = levels + 1 := by
  induction levels with
  | zero => rfl
  | succ levels ih => simp [nested, Json.depth, Json.depthOfItems, ih]

theorem canonical_nested (levels : Nat) : (nested levels).canonical = nested levels := by
  induction levels with
  | zero => rfl
  | succ levels ih => simp [nested, Json.canonical, Json.canonicalItems, ih]

def deepItem (levels : Nat) : ReportItem :=
  { kind := .scan, data := some (nested levels) }

theorem isReadable_deepItem (levels : Nat) : (deepItem levels).IsReadable where
  metadata := nofun
  data value written := by
    cases written
    refine ⟨canonical_nested levels, ?_⟩
    cases levels <;> exact nofun

theorem dataDepth_deepItem (levels : Nat) : (deepItem levels).dataDepth = levels + 1 :=
  depth_nested levels

/-- The line of an item does not read back when its data are too deep. What is printed for an
item has a second piece, which is empty. -/
theorem render_loses_deepItem :
    [deepItem 126] ≠ [] ∧ (∀ item ∈ [deepItem 126], item.IsReadable) ∧
      (Text.splitString '\n' (render .jsonl false [deepItem 126])).map ReportItem.read? ≠
        [deepItem 126].map some ∧
      (Text.splitString '\n' (printed .jsonl false [{ kind := .scan }])).length ≠ 1 := by
  refine ⟨List.cons_ne_nil _ _, List.forall_mem_singleton.mpr (isReadable_deepItem 126), ?_,
    by decide⟩
  rw [render, splitString_renderLines (List.cons_ne_nil _ _), List.map_map, List.map_singleton,
    Function.comp_apply, ReportItem.read?_compact (isReadable_deepItem 126), ReportItem.kept?,
    dataDepth_deepItem, if_neg (by decide)]
  simp

/-- An item of which nothing but the kind is written, one with line feeds, a control character and
empty containers, and one of an empty issue. -/
def variousItems : List ReportItem :=
  [{ kind := .sheet },
    { kind := .scan
      path := some "a\n\nb.sql"
      data := some (.object [("", .array []),
        ("x\n\n", .object [("n", .number (-3)), ("t", .string "\x01")])])
      metadata := { size := some 18446744073709551615, changed := true } },
    { kind := .error, label := some "", issues := [⟨"", ""⟩] }]

theorem isReadable_of_mem_variousItems : ∀ item ∈ variousItems, item.IsReadable := by
  simp only [variousItems, List.forall_mem_cons]
  refine ⟨⟨nofun, nofun⟩, ⟨?_, ?_⟩, ⟨nofun, nofun⟩, List.forall_mem_nil _⟩
  · rintro size written
    cases written
    decide
  · rintro value written
    cases written
    exact ⟨rfl, nofun⟩

theorem render_readBack_variousItems :
    variousItems ≠ [] ∧ (∀ item ∈ variousItems, item.IsReadable) ∧
      (Text.splitString '\n' (render .jsonl false variousItems)).map ReportItem.read? =
        variousItems.map some ∧
      ((Text.splitBlocks (render .jsonl true variousItems).toList).map String.ofList).map
        ReportItem.read? = variousItems.map some ∧
      (∀ isPretty, ReportItem.readArray? (render .json isPretty variousItems) =
        some variousItems) ∧
      ∀ format isPretty, Text.splitString '\n' (printed format isPretty variousItems) =
        Text.splitString '\n' (render format isPretty variousItems) ++ [""] := by
  obtain ⟨lines, blocks, arrays, ends⟩ :=
    render_readBack (List.cons_ne_nil _ _) isReadable_of_mem_variousItems
  exact ⟨List.cons_ne_nil _ _, isReadable_of_mem_variousItems, lines, blocks, arrays, ends⟩

end Report

end SqlColumns
