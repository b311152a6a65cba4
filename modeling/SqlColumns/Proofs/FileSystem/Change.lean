import SqlColumns.Proofs.FileSystem.Contents

/-!
# A change at one location

A regular file that is made or replaced changes nothing elsewhere. Links and directories stay as they
are, so every path that does not lead to this file leads where it led before.
-/

set_option autoImplicit false

namespace SqlColumns

namespace FileSystem

def HoldsFileOrNothing (files : FileSystem) (place : Location) : Prop :=
  ∀ entry, files.entryAt? place = some entry → ∃ content, entry = .file content

/-- Two file systems that differ at one location at most, where each has a regular file or nothing. -/
structure SameBut (place : Location) (left right : FileSystem) : Prop where
  current : left.current = right.current
  elsewhere : ∀ location, location ≠ place → left.entryAt? location = right.entryAt? location
  before : left.HoldsFileOrNothing place
  after : right.HoldsFileOrNothing place

namespace SameBut

variable {place found : Location} {left right : FileSystem} {path : Path}

theorem symm (same : SameBut place left right) : SameBut place right left :=
  ⟨same.current.symm, fun location apart => (same.elsewhere location apart).symm, same.after,
    same.before⟩

theorem apart_of_directory (same : SameBut place left right) {location : Location}
    (directory : left.entryAt? location = some .directory) : location ≠ place := by
  rintro rfl
  obtain ⟨content, file⟩ := same.before _ directory
  cases file

theorem apart_of_link (same : SameBut place left right) {location : Location} {target : String}
    (link : left.entryAt? location = some (.link target)) : location ≠ place := by
  rintro rfl
  obtain ⟨content, file⟩ := same.before _ link
  cases file

theorem directory_eq (same : SameBut place left right) {location : Location}
    (directory : ¬ (left.entryAt? location != some .directory) = true) :
    ¬ (right.entryAt? location != some .directory) = true := by
  have own : left.entryAt? location = some .directory := by simpa using directory
  rw [← same.elsewhere location (same.apart_of_directory own)]
  exact directory

/-- A walk ends where it ended, unless this is a file that is no longer there. -/
theorem walk_eq (same : SameBut place left right) {manner : Manner} {links : Nat}
    {start : Location} {steps : List String}
    (there : found = place → right.entryAt? place ≠ none)
    (taken : walk left manner links start steps = .ok (.taken found)) :
    walk right manner links start steps = .ok (.taken found) := by
  fun_induction walk left manner links start steps with
  | case2 manner links start fits =>
      cases taken
      rw [walk]
      by_cases slash : manner.slash = true
      · have directory : ¬ (left.entryAt? found != some .directory) = true := by
          simpa [slash] using fits
        rw [if_neg (by simpa [slash] using same.directory_eq directory)]
      · rw [if_neg (by simp [slash])]
  | case4 manner links start rest fits ih =>
      rw [walk, if_neg (same.directory_eq fits), if_pos rfl, ih taken]
  | case5 manner links start rest fits apart ih =>
      rw [walk, if_neg (same.directory_eq fits), if_neg apart, if_pos rfl, ih taken]
  | case11 manner start step rest fits notHere notUp refused short target link links begin slash ih =>
      rw [walk, if_neg (same.directory_eq fits), if_neg notHere, if_neg notUp, if_neg refused,
        if_neg short, ← same.elsewhere _ (same.apart_of_link link), link]
      exact ih taken
  | case13 manner links start step rest fits notHere notUp refused short entry noLink at_ near ih =>
      have kept : ∃ other, right.entryAt? (start ++ [step]) = some other ∧
          ∀ target, other ≠ .link target := by
        by_cases here : start ++ [step] = place
        · -- A file is where a walk ends, so the walk has found the place itself.
          obtain ⟨content, rfl⟩ := same.before entry (here ▸ at_)
          have last : found = start ++ [step] := by
            cases rest with
            | nil =>
                rw [walk] at taken
                split at taken
                · cases taken
                · cases taken
                  rfl
            | cons next rest =>
                rw [walk, if_pos (by simp [at_])] at taken
                cases taken
          obtain ⟨other, behind⟩ := Option.ne_none_iff_exists'.mp (there (last.trans here))
          obtain ⟨content, rfl⟩ := same.after other behind
          exact ⟨_, here ▸ behind, fun target link => by cases link⟩
        · exact ⟨entry, (same.elsewhere _ here) ▸ at_, fun target link => noLink target link⟩
      obtain ⟨other, behind, keptNoLink⟩ := kept
      rw [walk, if_neg (same.directory_eq fits), if_neg notHere, if_neg notUp, if_neg refused,
        if_neg short, behind]
      cases other with
      | link target => exact absurd rfl (keptNoLink target)
      | _ => exact (if_neg near).trans (ih taken)
  | _ => cases taken

theorem locate_eq (same : SameBut place left right)
    (there : found = place → right.entryAt? place ≠ none)
    (located : left.locate path = .ok found) : right.locate path = .ok found := by
  obtain ⟨fine, short, walked⟩ := locate_eq_ok_iff.mp located
  refine locate_eq_ok_iff.mpr ⟨fine, short, ?_⟩
  have origin : right.origin path = left.origin path := by simp only [origin, same.current]
  rw [origin]
  exact same.walk_eq there walked

/-- A path that does not lead to the place leads where it led, or nowhere as before. -/
theorem leads_alike (same : SameBut place left right) (written : right.entryAt? place ≠ none)
    (apart : right.locate path ≠ .ok place) :
    (∃ found, found ≠ place ∧ left.locate path = .ok found ∧ right.locate path = .ok found) ∨
      ∃ cause other, left.locate path = .error cause ∧ right.locate path = .error other := by
  cases before : left.locate path with
  | ok found =>
      have after := same.locate_eq (fun _ => written) before
      refine .inl ⟨found, ?_, rfl, after⟩
      rintro rfl
      exact apart after
  | error cause =>
      cases after : right.locate path with
      | ok found =>
          have other : found ≠ place := by
            rintro rfl
            exact apart after
          rw [same.symm.locate_eq (fun here => absurd here other) after] at before
          cases before
      | error other => exact .inr ⟨cause, other, rfl, rfl⟩

theorem lookup_eq (same : SameBut place left right) (apart : found ≠ place)
    (before : left.locate path = .ok found) (after : right.locate path = .ok found) :
    left.lookup path = right.lookup path := by
  simp only [lookup, before, after, bind, Except.bind, same.elsewhere found apart]

theorem isFile_eq (same : SameBut place left right) (written : right.entryAt? place ≠ none)
    (apart : right.locate path ≠ .ok place) : left.isFile path = right.isFile path := by
  rcases same.leads_alike written apart with
    ⟨found, other, before, after⟩ | ⟨cause, other, before, after⟩
  · simp only [isFile, same.lookup_eq other before after]
  · simp only [isFile, lookup, before, after, bind, Except.bind]

/-- A path that does not lead to the place is read as before, or cannot be followed as before. -/
theorem read_alike (same : SameBut place left right) (written : right.entryAt? place ≠ none)
    (apart : right.locate path ≠ .ok place) : left.read path = right.read path ∨
      ∃ cause other, left.locate path = .error cause ∧ right.locate path = .error other := by
  rcases same.leads_alike written apart with ⟨found, away, before, after⟩ | failed
  · refine .inl ?_
    simp only [read, same.lookup_eq away before after]
  · exact .inr failed

/-- A directory is still looked at by its absolute path, or still cannot be. -/
theorem isNone_canonical?_eq (same : SameBut place left right) {location : Location}
    (apart : location ≠ place) (before : left.locate path = .ok location)
    (after : right.locate path = .ok location) :
    (right.canonical? path).isNone = (left.canonical? path).isNone := by
  -- A path has one end only, so that its absolute path leads to the directory as well.
  have ends : ∀ {files : FileSystem}, files.locate path = .ok location → ∀ {found : Location},
      walk files ⟨.entry, endsInSlash path.text, true⟩ linkLimit (files.origin path)
        (steps path.text) = .ok (.taken found) → found = location := by
    intro files located found walked
    have milder : walk files ⟨.entry, endsInSlash path.text, false⟩ linkLimit (files.origin path)
        (steps path.text) = .ok (.taken found) :=
      walk_of_milder walked (fun looked => nomatch looked) (.inl rfl)
    exact (Place.taken.inj (Except.ok.inj
      ((locate_eq_ok_iff.mp located).2.2.symm.trans milder))).symm
  have onward : ∀ {files others : FileSystem}, SameBut place files others →
      files.locate path = .ok location → (files.canonical? path).isSome = true →
        (others.canonical? path).isSome = true := by
    intro files others same located some
    have fine := (locate_eq_ok_iff.mp located).1
    unfold canonical? at some ⊢
    rw [fine] at some ⊢
    cases walked : walk files ⟨.entry, endsInSlash path.text, true⟩ linkLimit (files.origin path)
        (steps path.text) with
    | error cause => simp [walked] at some
    | ok reached =>
        cases reached with
        | free found => simp [walked] at some
        | taken found =>
            obtain rfl := ends located walked
            have origin : others.origin path = files.origin path := by
              simp only [origin, same.current]
            simp only [origin, same.walk_eq (fun here => absurd here apart) walked]
            rfl
  have iff : (right.canonical? path).isSome = true ↔ (left.canonical? path).isSome = true :=
    ⟨onward same.symm after, onward same before⟩
  rw [← Option.not_isSome, ← Option.not_isSome, Bool.eq_iff_iff.mpr iff]

end SameBut

theorem sameBut_set {files : FileSystem} {place : Location} (below : place ≠ [])
    (holds : files.HoldsFileOrNothing place) (bytes : List UInt8) :
    SameBut place files (files.set place (.file bytes)) where
  current := rfl
  elsewhere location apart := (entryAt?_set_of_ne apart).symm
  before := holds
  after entry kept := by
    rw [entryAt?_set_self below] at kept
    exact ⟨bytes, (Option.some.inj kept).symm⟩

end FileSystem

end SqlColumns
