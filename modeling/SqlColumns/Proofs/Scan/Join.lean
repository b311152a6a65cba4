import Mathlib.Data.List.Induction
import SqlColumns.Proofs.FirstAppearances
import SqlColumns.Proofs.Scan.Table

/-!
# Histories of merges

A table that starts empty and takes one scan after another is an outer join of all of them: its
labels and its rows stand in the order in which they first appeared, and a cell is the last result
that was merged under its label for its file.
-/

set_option autoImplicit false

namespace SqlColumns

namespace ScanTable

variable {label other : String} {path : Path} {results : List FileCounts}
  {merges : List (String × List FileCounts)} {table : ScanTable}

theorem appearances_addPath {all paths : List Path} (appeared : FirstAppearances Path.Same all paths)
    (path : Path) : FirstAppearances Path.Same (all ++ [path]) (addPath paths path) := by
  unfold addPath
  split
  · next old => exact appeared.again old
  · next unlike => exact appeared.new ⟨fun _ => rfl, Eq.symm, Eq.trans⟩ unlike

theorem appearances_foldl_addPath {all paths : List Path}
    (appeared : FirstAppearances Path.Same all paths) (added : List Path) :
    FirstAppearances Path.Same (all ++ added) (added.foldl addPath paths) := by
  induction added generalizing all paths with
  | nil =>
      rw [List.append_nil]
      exact appeared
  | cons path rest ih =>
      rw [List.append_cons]
      exact ih (appearances_addPath appeared path)

/-!
## Last results
-/

def resultsUnder (merges : List (String × List FileCounts)) (label : String) : List FileCounts :=
  (merges.filter fun merged => merged.1 = label).flatMap Prod.snd

theorem resultsUnder_snoc (merges : List (String × List FileCounts)) (label other : String)
    (results : List FileCounts) :
    resultsUnder (merges ++ [(label, results)]) other =
      resultsUnder merges other ++ if label = other then results else [] := by
  by_cases same : label = other <;> simp [resultsUnder, same]

theorem lastFor?_append (before after : List FileCounts) (path : Path) :
    lastFor? (before ++ after) path = (lastFor? after path).or (lastFor? before path) := by
  simp only [lastFor?, List.reverse_append, List.find?_append, Option.map_or]

theorem lastFor?_eq_none_iff :
    lastFor? results path = none ↔ ∀ result ∈ results, ¬ result.path.Same path := by
  simp [lastFor?]

/-!
## Outer joins
-/

def mergeAll (merges : List (String × List FileCounts)) : ScanTable :=
  merges.foldl (fun table merged => table.merge merged.1 merged.2) .empty

/-- What is true of a table during a history of merges; cells are told by the file and not by the
row, which may be yet to come. -/
structure Follows (merges : List (String × List FileCounts)) (table : ScanTable) : Prop where
  labels : FirstAppearances (· = ·) (merges.map Prod.fst) table.labels
  rows : FirstAppearances Path.Same (merges.flatMap fun merged => merged.2.map FileCounts.path)
    (table.rows.map ScanRow.path)
  cells : ∀ path label,
    cellAt? table.rows path label = lastFor? (resultsUnder merges label) path

theorem follows_empty : Follows [] .empty where
  labels := .nil
  rows := .nil
  cells _ _ := rfl

theorem Follows.merge (before : Follows merges table) (label : String)
    (results : List FileCounts) :
    Follows (merges ++ [(label, results)]) (table.merge label results) where
  labels := by
    rw [List.map_append, List.map_singleton, labels_merge]
    by_cases old : label ∈ table.labels
    · rw [if_pos old]
      exact before.labels.again ⟨label, old, rfl⟩
    · rw [if_neg old]
      refine before.labels.new eq_equivalence ?_
      rintro ⟨first, member, rfl⟩
      exact old member
  rows := by
    rw [List.flatMap_append, List.flatMap_singleton, paths_merge]
    exact appearances_foldl_addPath before.rows _
  cells path other := by
    rw [cellAt?_merge, resultsUnder_snoc, lastFor?_append, before.cells]
    by_cases same : label = other
    · rw [if_pos same.symm, if_pos same]
    · rw [if_neg (Ne.symm same), if_neg same]
      rfl

theorem follows_mergeAll (merges : List (String × List FileCounts)) :
    Follows merges (mergeAll merges) := by
  induction merges using List.reverseRecOn with
  | nil => exact follows_empty
  | append_singleton merges last ih =>
      rw [mergeAll, List.foldl_append]
      exact ih.merge last.1 last.2

/-- A table joins scans: its labels are those that scans were merged under and its rows are those of
the files that any scan saw, each one once and where it first appeared, and the cell of a file under
a label is the last result for the file under this label, if there is one. -/
structure Joins (merges : List (String × List FileCounts)) (table : ScanTable) : Prop where
  labels : FirstAppearances (· = ·) (merges.map Prod.fst) table.labels
  rows : FirstAppearances Path.Same (merges.flatMap fun merged => merged.2.map FileCounts.path)
    (table.rows.map ScanRow.path)
  cells : ∀ row ∈ table.rows, ∀ label,
    row.cell? label = lastFor? (resultsUnder merges label) row.path
  absent : ∀ row ∈ table.rows, ∀ label, row.cell? label = none ↔
    ∀ result ∈ resultsUnder merges label, ¬ result.path.Same row.path

/-- Whatever is merged in whatever order, the table is the outer join of all of it. -/
theorem mergeAll_joins (merges : List (String × List FileCounts)) :
    Joins merges (mergeAll merges) := by
  have follows := follows_mergeAll merges
  have cells : ∀ row ∈ (mergeAll merges).rows, ∀ label,
      row.cell? label = lastFor? (resultsUnder merges label) row.path := by
    intro row member label
    rw [← follows.cells, cellAt?_of_mem follows.rows.distinct member]
  refine ⟨follows.labels, follows.rows, cells, fun row member label => ?_⟩
  rw [cells row member label, lastFor?_eq_none_iff]

end ScanTable

end SqlColumns
