import SqlColumns.Proofs.FileSystem.Contents
import SqlColumns.Proofs.Text.Split

/-!
# Names on absolute paths

A walk appends names to a location: parts of a path between slashes that are neither empty nor dots.
The components of the absolute path of such a location are its names, so no two locations share them.
-/

set_option autoImplicit false

namespace SqlColumns

namespace FileSystem

structure IsName (name : String) : Prop where
  written : name ≠ ""
  single : '/' ∉ name.toList
  here : name ≠ "."
  up : name ≠ ".."

theorem isName_iff {name : String} :
    IsName name ↔ name ≠ "" ∧ '/' ∉ name.toList ∧ name ≠ "." ∧ name ≠ ".." :=
  ⟨fun ⟨written, single, here, up⟩ => ⟨written, single, here, up⟩,
    fun ⟨written, single, here, up⟩ => ⟨written, single, here, up⟩⟩

instance : DecidablePred IsName :=
  fun _ => decidable_of_iff _ isName_iff.symm

def IsProper (location : Location) : Prop :=
  ∀ name ∈ location, IsName name

instance : DecidablePred IsProper :=
  fun location => inferInstanceAs (Decidable (∀ name ∈ location, IsName name))

theorem mem_steps {text step : String} (member : step ∈ steps text) :
    step ≠ "" ∧ '/' ∉ step.toList := by
  obtain ⟨piece, inside, rfl⟩ := List.mem_map.mp member
  obtain ⟨segment, written⟩ := List.mem_filter.mp inside
  refine ⟨fun empty => ?_, ?_⟩
  · have none := congrArg String.toList empty
    simp at none
    simp [none] at written
  · rw [String.toList_ofList]
    exact Text.not_mem_of_mem_split piece segment

/-- A walk from a proper location along parts of paths ends at a proper one. -/
theorem isProper_of_walk {files : FileSystem} {manner : Manner} {links : Nat}
    {location found : Location} {remaining : List String} (proper : IsProper location)
    (parts : ∀ step ∈ remaining, step ≠ "" ∧ '/' ∉ step.toList)
    (taken : walk files manner links location remaining = .ok (.taken found)) :
    IsProper found := by
  fun_induction walk files manner links location remaining with
  | case2 manner links location fits =>
      cases taken
      exact proper
  | case4 manner links location rest fits ih =>
      exact ih proper (fun step member => parts step (List.mem_cons_of_mem _ member)) taken
  | case5 manner links location rest fits apart ih =>
      refine ih (fun name member => proper name (List.dropLast_subset _ member))
        (fun step member => parts step (List.mem_cons_of_mem _ member)) taken
  | case11 manner location step rest fits notHere notUp refused short target link links start slash ih =>
      refine ih ?_ ?_ taken
      · by_cases absolute : (Path.mk target).isAbsolute = true
        · simp [start, absolute, IsProper]
        · simpa [start, absolute] using proper
      · intro one member
        rcases List.mem_append.mp member with inside | later
        · exact mem_steps inside
        · exact parts one (List.mem_cons_of_mem _ later)
  | case13 manner links location step rest fits notHere notUp refused short entry noLink at_ near ih =>
      refine ih ?_ (fun one member => parts one (List.mem_cons_of_mem _ member)) taken
      intro name member
      rcases List.mem_append.mp member with inside | last
      · exact proper name inside
      · obtain rfl := List.mem_singleton.mp last
        obtain ⟨written, single⟩ := parts name List.mem_cons_self
        exact ⟨written, single, notHere, notUp⟩
  | _ => cases taken

theorem segments_pathTo (location : Location) (proper : IsProper location) :
    ∃ rest, Path.segments (pathTo location).text.toList = [] :: rest ∧ rest ≠ [] ∧
      rest.filter (fun segment => !Path.idle segment) = location.map String.toList := by
  have text : (pathTo location).text.toList =
      '/' :: ['/'].intercalate (location.map String.toList) := by
    simp [pathTo, String.toList_intercalate]
  rw [Path.segments, text]
  refine ⟨Text.split '/' (['/'].intercalate (location.map String.toList)), by simp [Text.split],
    Text.split_ne_nil _ _, ?_⟩
  cases location with
  | nil => rfl
  | cons name names =>
      rw [Text.split_intercalate (by simp)]
      · refine List.filter_eq_self.mpr fun segment member => ?_
        obtain ⟨one, inside, rfl⟩ := List.mem_map.mp member
        obtain ⟨written, -, here, -⟩ := proper one inside
        have dot : one.toList ≠ ['.'] := fun same => here (String.toList_inj.mp same)
        simp [Path.idle, written, dot]
      · intro segment member
        obtain ⟨one, inside, rfl⟩ := List.mem_map.mp member
        exact (proper one inside).single

theorem components_pathTo {location : Location} (proper : IsProper location) :
    (pathTo location).components = .root :: location.map .name := by
  obtain ⟨rest, segments, more, names⟩ := segments_pathTo location proper
  rw [Path.components, Path.componentsOf, segments]
  cases rest with
  | nil => exact absurd rfl more
  | cons second others =>
      simp only [Path.lead, names, Option.toList_some, List.map_map, List.singleton_append]
      refine congrArg _ (List.map_congr_left fun name member => ?_)
      have up : name.toList ≠ ['.', '.'] := fun same =>
        (proper name member).up (String.toList_inj.mp same)
      simp [Path.componentOf, up]

/-- No two locations that names lead to have absolute paths of the same components. -/
theorem eq_of_components_pathTo {left right : Location} (leftProper : IsProper left)
    (rightProper : IsProper right)
    (same : (pathTo left).components = (pathTo right).components) : left = right := by
  rw [components_pathTo leftProper, components_pathTo rightProper] at same
  have names := (List.cons.inj same).2
  exact (List.map_inj_right fun _ _ one => Path.Component.name.inj one).mp names

def Resolves (files : FileSystem) (path : Path) : Prop :=
  files.canonical? path ≠ none ∧ isTooLong path = false

theorem canonical?_of_resolves {files : FileSystem} (proper : IsProper files.current) {path : Path}
    (resolves : files.Resolves path) :
    ∃ location, files.locate path = .ok location ∧ IsProper location ∧
      files.canonical? path = some (pathTo location) := by
  obtain ⟨there, short⟩ := resolves
  unfold canonical? at there ⊢
  cases refusal : refusal? path with
  | some cause => simp [refusal] at there
  | none =>
      cases walked : walk files ⟨.entry, endsInSlash path.text, true⟩ linkLimit (files.origin path)
          (steps path.text) with
      | error cause => simp [refusal, walked] at there
      | ok place =>
          cases place with
          | free location => simp [refusal, walked] at there
          | taken location =>
              refine ⟨location, ?_, ?_, by simp [walked]⟩
              · -- Without a look at absolute paths on the way, no more is refused.
                have found : walk files ⟨.entry, endsInSlash path.text, false⟩ linkLimit
                    (files.origin path) (steps path.text) = .ok (.taken location) :=
                  walk_of_milder walked (fun looked => nomatch looked) (.inl rfl)
                simp [locate, find, refusal, short, found]
              · refine isProper_of_walk ?_ (fun _ member => mem_steps member) walked
                by_cases absolute : path.isAbsolute = true
                · simp [origin, absolute, IsProper]
                · simpa [origin, absolute] using proper

end FileSystem

end SqlColumns
