import SqlColumns.Proofs.Path
import SqlColumns.Scan.Table

/-!
# Joined scans

A merge sets one cell in the row of every file that was scanned, and adds rows for files without one.
Rows are told apart by the components of their paths, however these are spelled. What a table finds
by its index is what a walk along its rows would find.
-/

set_option autoImplicit false

namespace SqlColumns

namespace ScanTable

variable {label other : String} {path : Path} {paths added : List Path} {result : FileCounts}
  {results : List FileCounts} {row : ScanRow} {rows : List ScanRow} {table : ScanTable}

/-!
## Rows without an index
-/

def addRow (label : String) (result : FileCounts) : List ScanRow → List ScanRow
  | [] => [⟨result.path, [(label, result.counts)]⟩]
  | row :: rows =>
      if row.path.components = result.path.components then row.setCounts label result.counts :: rows
      else row :: addRow label result rows

theorem addRow_of_new (new : ∀ row ∈ rows, row.path.components ≠ result.path.components) :
    addRow label result rows = rows ++ [⟨result.path, [(label, result.counts)]⟩] := by
  induction rows with
  | nil => rfl
  | cons row rows ih =>
      obtain ⟨apart, others⟩ := List.forall_mem_cons.mp new
      rw [addRow, if_neg apart, ih others, List.cons_append]

theorem addRow_of_first {number : Nat}
    (own : (rows[number]?.map fun row => row.path.components) = some result.path.components)
    (first : ∀ other, (rows[other]?.map fun row => row.path.components) =
      some result.path.components → other = number) :
    addRow label result rows = rows.modify number fun row => row.setCounts label result.counts := by
  induction rows generalizing number with
  | nil => simp at own
  | cons row rows ih =>
      by_cases here : row.path.components = result.path.components
      · obtain rfl := first 0 (by simpa using here)
        rw [addRow, if_pos here, List.modify_zero_cons]
      · cases number with
        | zero => exact absurd (by simpa using own) here
        | succ number =>
            have later := ih (by simpa using own)
              fun other found => Nat.succ.inj (first (other + 1) (by simpa using found))
            rw [addRow, if_neg here, later, List.modify_succ_cons]

theorem withRow_of_known {number : Nat}
    (known : table.index.row? path.components = some number) :
    table.withRow path = (table, number) := by
  unfold withRow
  split
  · next other found => rw [Option.some.inj (known.symm.trans found)]
  · next absent => rw [absent] at known; contradiction

theorem withRow_of_new (new : table.index.row? path.components = none) :
    table.withRow path =
      ({ table with
          rows := table.rows ++ [⟨path, []⟩]
          index := (path.components, table.rows.length) :: table.index
          indexed := table.indexed.cons new },
        table.rows.length) := by
  unfold withRow
  split
  · next number found => rw [found] at new; contradiction
  · rfl

theorem labels_add (label : String) (table : ScanTable) (result : FileCounts) :
    (table.add label result).labels = table.labels := by
  cases found : table.index.row? result.path.components with
  | some number => rw [add, withRow_of_known found]; rfl
  | none => rw [add, withRow_of_new found]; rfl

/-- Setting the counts of a file through the index does to the rows what a walk along them does. -/
theorem rows_add (label : String) (table : ScanTable) (result : FileCounts) :
    (table.add label result).rows = addRow label result table.rows := by
  have leads := table.indexed result.path.components
  cases found : table.index.row? result.path.components with
  | some number =>
      have only : ∀ other, (table.rows[other]?.map fun row => row.path.components) =
          some result.path.components → other = number := fun other same =>
        Option.some.inj (((leads other).mpr same).symm.trans found)
      rw [add, withRow_of_known found, addRow_of_first ((leads number).mp found) only]
      rfl
  | none =>
      have new : ∀ row ∈ table.rows, row.path.components ≠ result.path.components := by
        intro row member same
        obtain ⟨number, here⟩ := List.mem_iff_getElem?.mp member
        have led := (leads number).mpr (by rw [here, Option.map_some, same])
        rw [found] at led
        contradiction
      rw [add, withRow_of_new found, addRow_of_new new]
      simp [setCounts, ScanRow.setCounts, ScanRow.setCell, List.modify_eq_take_drop]

theorem rows_foldl_add (label : String) (results : List FileCounts) (table : ScanTable) :
    (results.foldl (add label) table).rows =
      results.foldl (fun rows result => addRow label result rows) table.rows := by
  induction results generalizing table with
  | nil => rfl
  | cons result rest ih => rw [List.foldl_cons, List.foldl_cons, ih, rows_add]

/-- A merge through the index does to the rows what a merge without one does. -/
theorem rows_merge (table : ScanTable) (label : String) (results : List FileCounts) :
    (table.merge label results).rows =
      results.foldl (fun rows result => addRow label result rows) table.rows := by
  rw [merge, rows_foldl_add, withLabel]
  split <;> rfl

/-!
## Files of a table
-/

def addPath (paths : List Path) (path : Path) : List Path :=
  if ∃ other ∈ paths, other.Same path then paths else paths ++ [path]

theorem addPath_cons (first : Path) (rest : List Path) (path : Path) :
    addPath (first :: rest) path =
      if first.Same path then first :: rest else first :: addPath rest path := by
  by_cases same : first.Same path
  · simp [addPath, same]
  · simp only [addPath, List.mem_cons, exists_eq_or_imp, same, false_or, if_false]
    split <;> rfl

theorem paths_addRow (label : String) (result : FileCounts) (rows : List ScanRow) :
    (addRow label result rows).map ScanRow.path =
      addPath (rows.map ScanRow.path) result.path := by
  induction rows with
  | nil => simp [addRow, addPath]
  | cons row rows ih =>
      rw [List.map_cons, addPath_cons, addRow]
      by_cases same : row.path.Same result.path
      · rw [if_pos same, if_pos (show row.path.components = _ from same)]
        rfl
      · rw [if_neg same, if_neg (show ¬ row.path.components = _ from same), List.map_cons, ih]

theorem foldl_addPath_of_mem (old : ∀ path ∈ added, path ∈ paths) :
    added.foldl addPath paths = paths := by
  induction added with
  | nil => rfl
  | cons path rest ih =>
      have found : ∃ one ∈ paths, one.Same path := ⟨path, old path List.mem_cons_self, rfl⟩
      rw [List.foldl_cons, addPath, if_pos found]
      exact ih fun one member => old one (List.mem_cons_of_mem _ member)

theorem foldl_addPath_of_distinct (distinct : Path.Distinct (paths ++ added)) :
    added.foldl addPath paths = paths ++ added := by
  induction added generalizing paths with
  | nil => rw [List.foldl_nil, List.append_nil]
  | cons path rest ih =>
      have new : ¬ ∃ one ∈ paths, one.Same path := by
        rintro ⟨one, member, same⟩
        exact (List.pairwise_append.mp distinct).2.2 one member path List.mem_cons_self same
      rw [List.append_cons] at distinct ⊢
      rw [List.foldl_cons, addPath, if_neg new, ih distinct]

/-!
## Cells of a table
-/

def cellAt? (rows : List ScanRow) (path : Path) (label : String) : Option Counts :=
  (rows.find? fun row => decide (row.path.Same path)).bind (·.cell? label)

def lastFor? (results : List FileCounts) (path : Path) : Option Counts :=
  (results.reverse.find? fun result => decide (result.path.Same path)).map FileCounts.counts

theorem cellAt?_of_mem (distinct : Path.Distinct (rows.map ScanRow.path)) (member : row ∈ rows)
    (label : String) : cellAt? rows row.path label = row.cell? label := by
  rw [cellAt?, distinct.find?_eq member]
  rfl

theorem cell?_setCounts (row : ScanRow) (label other : String) (counts : Counts) :
    (row.setCounts label counts).cell? other =
      if other = label then some counts else row.cell? other :=
  ScanRow.find?_setCell

/-- A result sets the cell of its file under the label, and no other one. -/
theorem cellAt?_addRow (label other : String) (result : FileCounts) (rows : List ScanRow)
    (path : Path) :
    cellAt? (addRow label result rows) path other =
      if other = label ∧ result.path.Same path then some result.counts
      else cellAt? rows path other := by
  induction rows with
  | nil =>
      by_cases same : result.path.Same path
      · by_cases own : other = label
        · simp [addRow, cellAt?, ScanRow.cell?, same, own]
        · simp [addRow, cellAt?, ScanRow.cell?, same, own, Ne.symm own]
      · simp [addRow, cellAt?, same]
  | cons row rows ih =>
      -- The row of the file is set where it is, so the cases are whose row this is.
      unfold addRow
      by_cases here : row.path.Same result.path
      · rw [if_pos (show row.path.components = _ from here)]
        have kept : (row.setCounts label result.counts).path = row.path := rfl
        by_cases same : row.path.Same path
        · have both : result.path.Same path := here.symm.trans same
          simp only [cellAt?, kept, same, decide_true, List.find?_cons_of_pos, Option.bind_some,
            cell?_setCounts, both, and_true]
        · have apart : ¬ result.path.Same path := fun both => same (here.trans both)
          simp only [cellAt?, kept, same, decide_false, Bool.false_eq_true, not_false_eq_true,
            List.find?_cons_of_neg, apart, and_false, if_false]
      · rw [if_neg (show ¬ row.path.components = _ from here)]
        by_cases same : row.path.Same path
        · have apart : ¬ result.path.Same path := fun both => here (same.trans both.symm)
          simp only [cellAt?, same, decide_true, List.find?_cons_of_pos, apart, and_false, if_false]
        · simp only [cellAt?, same, decide_false, Bool.false_eq_true, not_false_eq_true,
            List.find?_cons_of_neg] at ih ⊢
          exact ih

theorem lastFor?_cons (result : FileCounts) (rest : List FileCounts) (path : Path) :
    lastFor? (result :: rest) path =
      (lastFor? rest path).or (if result.path.Same path then some result.counts else none) := by
  simp only [lastFor?, List.reverse_cons, List.find?_append, Option.map_or]
  by_cases same : result.path.Same path <;> simp [same]

theorem lastFor?_of_mem (distinct : Path.Distinct (results.map FileCounts.path))
    (member : result ∈ results) : lastFor? results result.path = some result.counts := by
  have backwards : Path.Distinct (results.reverse.map FileCounts.path) := by
    rw [List.map_reverse]
    exact List.pairwise_reverse.mpr (distinct.imp fun apart same => apart same.symm)
  rw [lastFor?, backwards.find?_eq (List.mem_reverse.mpr member)]
  rfl

/-!
## One merge
-/

theorem labels_merge (table : ScanTable) (label : String) (results : List FileCounts) :
    (table.merge label results).labels =
      if label ∈ table.labels then table.labels else table.labels ++ [label] := by
  have kept : ∀ (results : List FileCounts) (table : ScanTable),
      (results.foldl (add label) table).labels = table.labels := by
    intro results table
    induction results generalizing table with
    | nil => rfl
    | cons result rest ih => rw [List.foldl_cons, ih, labels_add]
  rw [merge, kept, withLabel]
  by_cases old : label ∈ table.labels <;> simp [old]

theorem mem_labels_merge :
    other ∈ (table.merge label results).labels ↔ other ∈ table.labels ∨ other = label := by
  rw [labels_merge]
  split <;> simp
  rintro rfl
  assumption

theorem paths_merge (table : ScanTable) (label : String) (results : List FileCounts) :
    (table.merge label results).rows.map ScanRow.path =
      (results.map FileCounts.path).foldl addPath (table.rows.map ScanRow.path) := by
  rw [rows_merge]
  generalize table.rows = rows
  induction results generalizing rows with
  | nil => rfl
  | cons result rest ih => rw [List.foldl_cons, ih, paths_addRow, List.map_cons, List.foldl_cons]

/-- A merge sets the cells of its files under its label, each to the last result for the file. -/
theorem cellAt?_merge (table : ScanTable) (label other : String) (results : List FileCounts)
    (path : Path) :
    cellAt? (table.merge label results).rows path other =
      if other = label then (lastFor? results path).or (cellAt? table.rows path other)
      else cellAt? table.rows path other := by
  rw [rows_merge]
  generalize table.rows = rows
  induction results generalizing rows with
  | nil => simp [lastFor?]
  | cons result rest ih =>
      rw [List.foldl_cons, ih, cellAt?_addRow, lastFor?_cons]
      by_cases own : other = label
      · by_cases same : result.path.Same path
        · simp [own, same]
        · simp [own, same, Option.or_none]
      · simp [own]

end ScanTable

end SqlColumns
