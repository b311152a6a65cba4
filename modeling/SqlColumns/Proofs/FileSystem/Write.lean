import SqlColumns.Proofs.Corpus.Discovery
import SqlColumns.Proofs.FileSystem.Listing

/-!
# Writing to a path

A write that succeeds makes or replaces one regular file, to which the path leads from then on, unless
the path leads to a device.
-/

set_option autoImplicit false

namespace SqlColumns

namespace FileSystem

variable {files written : FileSystem} {path : Path} {place : Location} {bytes : List UInt8}

/-!
## Free names
-/

/-- Nothing is where a walk ends at a free name. -/
theorem entryAt?_of_free {manner : Manner} {links : Nat} {start : Location} {steps : List String}
    (free : walk files manner links start steps = .ok (.free place)) :
    place ≠ [] ∧ files.entryAt? place = none := by
  fun_induction walk files manner links start steps with
  | case4 manner links start rest fits ih => exact ih free
  | case5 manner links start rest fits apart ih => exact ih free
  | case8 manner links start step rest fits notHere notUp refused short none last =>
      cases free
      exact ⟨by simp, none⟩
  | case11 manner start step rest fits notHere notUp refused short target link links begin slash ih =>
      exact ih free
  | case13 manner links start step rest fits notHere notUp refused short entry noLink at_ near ih =>
      exact ih free
  | _ => cases free

theorem HasNames.isProper (named : files.HasNames) (there : files.entryAt? place ≠ none) :
    IsProper place := by
  rcases Decidable.em (place = []) with rfl | below
  · intro name member
    cases member
  · obtain ⟨entry, holds⟩ := Option.ne_none_iff_exists'.mp there
    exact named _ (mem_of_entryAt? below holds)

theorem HasNames.isProper_of_free (named : files.HasNames) {manner : Manner} {links : Nat}
    {start : Location} {steps : List String}
    (parts : ∀ step ∈ steps, step ≠ "" ∧ '/' ∉ step.toList)
    (free : walk files manner links start steps = .ok (.free place)) : IsProper place := by
  fun_induction walk files manner links start steps with
  | case4 manner links start rest fits ih =>
      exact ih (fun step member => parts step (List.mem_cons_of_mem _ member)) free
  | case5 manner links start rest fits apart ih =>
      exact ih (fun step member => parts step (List.mem_cons_of_mem _ member)) free
  | case8 manner links start step rest fits notHere notUp refused short none last =>
      cases free
      have above : IsProper start := named.isProper (by
        have directory : files.entryAt? start = some .directory := by simpa using fits
        simp [directory])
      obtain ⟨written, single⟩ := parts step List.mem_cons_self
      intro name member
      rcases List.mem_append.mp member with inside | last
      · exact above name inside
      · obtain rfl := List.mem_singleton.mp last
        exact ⟨written, single, notHere, notUp⟩
  | case11 manner start step rest fits notHere notUp refused short target link links begin slash ih =>
      refine ih (fun one member => ?_) free
      rcases List.mem_append.mp member with inside | later
      · exact mem_steps inside
      · exact parts one (List.mem_cons_of_mem _ later)
  | case13 manner links start step rest fits notHere notUp refused short entry noLink at_ near ih =>
      exact ih (fun step member => parts step (List.mem_cons_of_mem _ member)) free
  | _ => cases free

theorem HasNames.set (named : files.HasNames) (proper : IsProper place) (entry : Entry) :
    (files.set place entry).HasNames := by
  intro one member
  rcases mem_place.mp (List.mem_map_of_mem (f := Prod.fst) member) with same | inside
  · exact same ▸ proper
  · obtain ⟨other, kept, same⟩ := List.mem_map.mp inside
    exact same ▸ named other kept

/-- A walk to a free name where a file may be made finds the file that is made there. -/
theorem walk_made {manner : Manner} {links : Nat} {start : Location} {steps : List String}
    (purpose : manner.purpose = .file) (relative : manner.absolute = false)
    (free : walk files manner links start steps = .ok (.free place)) :
    walk (files.set place (.file bytes)) { manner with purpose := .entry } links start steps =
      .ok (.taken place) := by
  obtain ⟨below, nothing⟩ := entryAt?_of_free free
  have kept : ∀ {location : Location} {entry : Entry}, files.entryAt? location = some entry →
      (files.set place (.file bytes)).entryAt? location = some entry := by
    intro location entry there
    rw [entryAt?_set_of_ne, there]
    rintro rfl
    rw [nothing] at there
    cases there
  have directory : ∀ {location : Location},
      ¬ (files.entryAt? location != some .directory) = true →
      ¬ ((files.set place (.file bytes)).entryAt? location != some .directory) = true := by
    intro location own
    rw [kept (by simpa using own)]
    simp
  have admits : ∀ rest : List String, ∀ slash : Bool,
      ¬ (Purpose.entry = .file ∧ slash = true ∧ rest.isEmpty = true) := by
    rintro rest slash ⟨same, -⟩
    cases same
  fun_induction walk files manner links start steps with
  | case4 manner links start rest fits ih =>
      rw [walk, if_neg (directory fits), if_pos rfl, ih purpose relative free]
  | case5 manner links start rest fits apart ih =>
      rw [walk, if_neg (directory fits), if_neg apart, if_pos rfl, ih purpose relative free]
  | case8 manner links start step rest fits notHere notUp refused short none last =>
      cases free
      obtain rfl : rest = [] := by simpa using last
      have noSlash : manner.slash = false := by simpa [purpose] using refused
      have near : Manner.outOfReach { manner with purpose := .entry } (start ++ [step]) [] =
          false := by simp [Manner.outOfReach, relative]
      rw [walk, if_neg (directory fits), if_neg notHere, if_neg notUp, if_neg (admits _ _),
        if_neg short, entryAt?_set_self below]
      simp only [near, Bool.false_eq_true, if_false]
      rw [walk, if_neg (by simp [noSlash])]
  | case11 manner start step rest fits notHere notUp refused short target link links begin slash ih =>
      rw [walk, if_neg (directory fits), if_neg notHere, if_neg notUp, if_neg (admits _ _),
        if_neg short, kept link]
      exact ih purpose relative free
  | case13 manner links start step rest fits notHere notUp refused short entry noLink at_ near ih =>
      rw [walk, if_neg (directory fits), if_neg notHere, if_neg notUp, if_neg (admits _ _),
        if_neg short, kept at_]
      cases entry with
      | link target => exact absurd rfl (noLink target)
      | _ => exact (if_neg near).trans (ih purpose relative free)
  | _ => cases free

/-!
## Writes
-/

/-- A write makes or replaces the regular file at a location, to which the path leads afterwards. -/
structure Puts (files : FileSystem) (path : Path) (bytes : List UInt8) (place : Location)
    (written : FileSystem) : Prop where
  written_eq : written = files.set place (.file bytes)
  same : SameBut place files written
  leads : written.LeadsTo path place bytes

theorem puts_of_free (free : files.find .file path = .ok (.free place)) :
    Puts files path bytes place (files.set place (.file bytes)) := by
  obtain ⟨fine, short, walked⟩ := find_eq_ok_iff.mp free
  obtain ⟨below, nothing⟩ := entryAt?_of_free walked
  have origin : (files.set place (.file bytes)).origin path = files.origin path := rfl
  refine ⟨rfl, sameBut_set below (fun entry there => ?_) bytes, ?_, entryAt?_set_self below⟩
  · rw [nothing] at there
    cases there
  · exact locate_eq_ok_iff.mpr ⟨fine, short, origin ▸ walk_made rfl rfl walked⟩

theorem LeadsTo.puts {content : List UInt8} (leads : files.LeadsTo path place content) :
    Puts files path bytes place (files.set place (.file bytes)) := by
  have below := leads.below_root
  have holds : files.HoldsFileOrNothing place := by
    intro entry there
    rw [leads.holds] at there
    exact ⟨content, (Option.some.inj there).symm⟩
  have behind : (files.set place (.file bytes)).entryAt? place = some (.file bytes) :=
    entryAt?_set_self below
  have same := sameBut_set below holds bytes
  exact ⟨rfl, same, same.locate_eq (fun _ => by simp [behind]) leads.located, behind⟩

/-- What is found for a file is found for anything else, unless it is a directory. -/
theorem locate_of_taken (taken : files.find .file path = .ok (.taken place))
    (other : files.entryAt? place ≠ some .directory) : files.locate path = .ok place := by
  obtain ⟨fine, short, walked⟩ := find_eq_ok_iff.mp taken
  exact locate_eq_ok_iff.mpr ⟨fine, short,
    walk_of_milder walked (fun looked => nomatch looked) (.inr other)⟩

/-- A write puts a file, or it leaves everything as it is when the path leads to a device. -/
theorem write_cases (named : files.HasNames) (success : files.write path bytes = .ok written) :
    (∃ place, IsProper place ∧ Puts files path bytes place written) ∨
      written = files ∧ ∃ location kind, files.locate path = .ok location ∧
        files.entryAt? location = some (.device kind) := by
  unfold write at success
  cases found : files.find .file path with
  | error cause =>
      rw [found] at success
      cases success
  | ok place =>
      rw [found] at success
      cases place with
      | free location =>
          cases success
          have proper := named.isProper_of_free (fun _ member => mem_steps member)
            (find_eq_ok_iff.mp found).2.2
          exact .inl ⟨location, proper, puts_of_free found⟩
      | taken location =>
          simp only [bind, Except.bind] at success
          split at success
          · next content holds =>
              cases success
              have leads : files.LeadsTo path location content :=
                ⟨locate_of_taken found (by simp [holds]), holds⟩
              exact .inl ⟨location, named.isProper (by simp [holds]), leads.puts⟩
          · next holds =>
              split at success
              · cases success
                exact .inr ⟨rfl, location, .full, locate_of_taken found (by simp [holds]), holds⟩
              · cases success
          · next kind _ holds =>
              cases success
              exact .inr ⟨rfl, location, kind, locate_of_taken found (by simp [holds]), holds⟩
          · cases success
          · cases success

/-- What has been read can be written back, which changes nothing. -/
theorem exists_write_of_read (readable : files.read path = .ok bytes) :
    ∃ written, files.write path bytes = .ok written ∧ written.read path = .ok bytes ∧
      ∀ other, written.entryAt? other = files.entryAt? other := by
  rcases read_cases readable with ⟨place, leads⟩ | ⟨place, kind, located, device, full⟩
  · have puts : Puts files path bytes place _ := leads.puts
    refine ⟨_, leads.write_eq bytes, puts.leads.read_eq, fun other => ?_⟩
    by_cases same : other = place
    · rw [same, leads.holds, puts.leads.holds]
    · exact entryAt?_set_of_ne same
  · -- A device takes what it has given and stays as it is.
    have found := find_of_locate .file located (by simp [device])
    refine ⟨files, ?_, readable, fun _ => rfl⟩
    cases kind with
    | full => simp [write, found, device, full rfl, bind, Except.bind, pure, Except.pure]
    | sink | zeros => simp [write, found, device, bind, Except.bind, pure, Except.pure]

/-- Bytes written to a path that leads to a file are the content of this file and of no other one. -/
theorem LeadsTo.exists_write {content : List UInt8} (leads : files.LeadsTo path place content)
    (bytes : List UInt8) :
    ∃ written, files.write path bytes = .ok written ∧ written.LeadsTo path place bytes ∧
      ∀ other, other ≠ place → written.entryAt? other = files.entryAt? other := by
  have puts : Puts files path bytes place _ := leads.puts
  exact ⟨_, leads.write_eq bytes, puts.leads, fun other apart => entryAt?_set_of_ne apart⟩

/-- Writing the same again changes nothing. -/
theorem set_set (files : FileSystem) (place : Location) (entry : Entry) :
    (files.set place entry).set place entry = files.set place entry := by
  have again : ∀ entries : List (Location × Entry),
      FileSystem.place place entry (FileSystem.place place entry entries) =
        FileSystem.place place entry entries := by
    intro entries
    induction entries with
    | nil => simp [FileSystem.place]
    | cons head entries ih => grind [FileSystem.place]
  simp only [set, again]

end FileSystem

end SqlColumns
