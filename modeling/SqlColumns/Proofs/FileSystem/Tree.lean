import Mathlib.Data.List.Induction
import SqlColumns.Proofs.FileSystem.Listing

/-!
# Trees of directories

Where everything lies in a directory, names lead down from a directory to what lies below it.
-/

set_option autoImplicit false

namespace SqlColumns

namespace FileSystem

variable {files : FileSystem} {location : Location}

/-- Whatever lies somewhere lies in a directory. -/
def IsTree (files : FileSystem) : Prop :=
  ∀ location name, files.entryAt? (location ++ [name]) ≠ none →
    files.entryAt? location = some .directory

/-- The entries of a tree of directories are in its root or in others of its entries. -/
theorem isTree_of_entries (inside : ∀ one ∈ files.entries,
    files.entryAt? one.1.dropLast = some .directory) : files.IsTree := by
  intro location name there
  obtain ⟨entry, holds⟩ := Option.ne_none_iff_exists'.mp there
  have above := inside _ (mem_of_entryAt? (List.append_ne_nil_of_right_ne_nil _ (by simp)) holds)
  rwa [List.dropLast_concat] at above

theorem IsTree.directory (tree : files.IsTree) {names : List String} (below : names ≠ [])
    (there : files.entryAt? (location ++ names) ≠ none) :
    files.entryAt? location = some .directory := by
  induction names using List.reverseRecOn with
  | nil => exact absurd rfl below
  | append_singleton names name ih =>
      rw [← List.append_assoc] at there
      have directory := tree (location ++ names) name there
      by_cases more : names = []
      · rwa [more, List.append_nil] at directory
      · exact ih more (by simp [directory])

/-- A walk along names ends where the names lead, unless this is a link. -/
theorem IsTree.walk_names (tree : files.IsTree) {manner : Manner} {links : Nat}
    {names : List String} {found : Location} (proper : IsProper names)
    (noLink : ∀ target, files.entryAt? (location ++ names) ≠ some (.link target))
    (there : files.entryAt? (location ++ names) ≠ none)
    (taken : walk files manner links location names = .ok (.taken found)) :
    found = location ++ names := by
  induction names generalizing location with
  | nil =>
      rw [walk] at taken
      split at taken
      · cases taken
      · cases taken
        exact (List.append_nil _).symm
  | cons name rest ih =>
      obtain ⟨own, proper⟩ := List.forall_mem_cons.mp proper
      rw [List.append_cons] at noLink there ⊢
      rw [walk] at taken
      split at taken
      · cases taken
      · rw [if_neg own.here, if_neg own.up] at taken
        split at taken
        · cases taken
        · split at taken
          · cases taken
          · split at taken
            · split at taken <;> cases taken
            · next target link =>
                -- A link has nothing below it, and it is not what the names lead to.
                exfalso
                by_cases more : rest = []
                · subst more
                  rw [List.append_nil] at noLink
                  exact noLink target link
                · rw [tree.directory more there] at link
                  cases link
            · split at taken
              · cases taken
              · exact ih proper noLink there taken

/-- A walk along names of directories goes down to the last of them. -/
theorem IsTree.walk_down (tree : files.IsTree) {links : Nat} {names : List String}
    (proper : IsProper names) (fits : ∀ name ∈ names, (Text.encodeString name).length ≤ 255)
    (there : files.entryAt? (location ++ names) = some .directory) :
    walk files ⟨.entry, false, false⟩ links location names = .ok (.taken (location ++ names)) := by
  induction names generalizing location with
  | nil =>
      rw [walk, List.append_nil]
      rfl
  | cons name rest ih =>
      obtain ⟨own, proper⟩ := List.forall_mem_cons.mp proper
      obtain ⟨short, fits⟩ := List.forall_mem_cons.mp fits
      have above : files.entryAt? location = some .directory :=
        tree.directory (List.cons_ne_nil name rest) (by rw [there]; exact Option.some_ne_none _)
      rw [List.append_cons] at there ⊢
      have next : files.entryAt? (location ++ [name]) = some .directory := by
        by_cases more : rest = []
        · rwa [more, List.append_nil] at there
        · exact tree.directory more (by rw [there]; exact Option.some_ne_none _)
      rw [walk, if_neg (by rw [above]; decide), if_neg own.here, if_neg own.up,
        if_neg (by simp), if_neg (Nat.not_lt.mpr short), next]
      exact ih proper fits there

end FileSystem

end SqlColumns
