import SqlColumns.TextFile

/-!
# Contents of regular files

Where a path leads depends on directories and links alone. Replacing the content of a regular file
therefore moves no path, is seen by every path that leads to this file, and by no other one.
-/

set_option autoImplicit false

namespace SqlColumns

def Entry.shape : Entry → Entry
  | .file _ => .file []
  | other => other

namespace FileSystem

/-- Two file systems that differ in nothing but the content of regular files. -/
structure SameShape (left right : FileSystem) : Prop where
  current : left.current = right.current
  shape : ∀ location,
    (left.entryAt? location).map Entry.shape = (right.entryAt? location).map Entry.shape

namespace SameShape

variable {left middle right : FileSystem}

theorem refl (files : FileSystem) : SameShape files files :=
  ⟨rfl, fun _ => rfl⟩

theorem symm (same : SameShape left right) : SameShape right left :=
  ⟨same.current.symm, fun location => (same.shape location).symm⟩

theorem trans (first : SameShape left middle) (second : SameShape middle right) :
    SameShape left right :=
  ⟨first.current.trans second.current,
    fun location => (first.shape location).trans (second.shape location)⟩

theorem none_iff (same : SameShape left right) (location : Location) :
    left.entryAt? location = none ↔ right.entryAt? location = none := by
  rw [← Option.map_eq_none_iff (f := Entry.shape), same.shape, Option.map_eq_none_iff]

theorem entry_iff (same : SameShape left right) (location : Location) {entry : Entry}
    (other : ∀ content, entry ≠ .file content) :
    left.entryAt? location = some entry ↔ right.entryAt? location = some entry := by
  have one : ∀ {files others : FileSystem}, SameShape files others →
      files.entryAt? location = some entry → others.entryAt? location = some entry := by
    intro files others same found
    have shape := same.shape location
    rw [found] at shape
    cases behind : others.entryAt? location with
    | none => simp [behind] at shape
    | some kept =>
        rw [behind] at shape
        cases entry <;> cases kept <;> simp_all [Entry.shape]
  exact ⟨one same, one same.symm⟩

theorem directory_test (same : SameShape left right) (location : Location) :
    (left.entryAt? location != some .directory) = (right.entryAt? location != some .directory) := by
  have iff : left.entryAt? location = some .directory ↔ right.entryAt? location = some .directory :=
    same.entry_iff location (by simp)
  rw [Bool.eq_iff_iff]
  simp only [bne_iff_ne, ne_eq, iff]

theorem exists_entry (same : SameShape left right) {location : Location} {entry : Entry}
    (found : left.entryAt? location = some entry) (noLink : ∀ target, entry = .link target → False) :
    ∃ kept, right.entryAt? location = some kept ∧ ∀ target, kept ≠ .link target := by
  cases behind : right.entryAt? location with
  | none =>
      rw [(same.none_iff location).mpr behind] at found
      cases found
  | some kept =>
      refine ⟨kept, rfl, fun target link => noLink target ?_⟩
      rw [link, ← same.entry_iff location (by simp), found] at behind
      exact Option.some.inj behind

/-- A walk takes the same steps. -/
theorem walk_eq (same : SameShape left right) (manner : Manner) (links : Nat) (location : Location)
    (remaining : List String) :
    walk left manner links location remaining = walk right manner links location remaining := by
  fun_induction walk left manner links location remaining with
  | case1 manner links location refused =>
      rw [walk, if_pos (same.directory_test location ▸ refused)]
  | case2 manner links location fits =>
      rw [walk, if_neg (same.directory_test location ▸ fits)]
  | case3 manner links location step rest refused =>
      rw [walk, if_pos (same.directory_test location ▸ refused)]
  | case4 manner links location rest fits ih =>
      rw [walk, if_neg (same.directory_test location ▸ fits), if_pos rfl, ih]
  | case5 manner links location rest fits apart ih =>
      rw [walk, if_neg (same.directory_test location ▸ fits), if_neg apart, if_pos rfl, ih]
  | case6 manner links location step rest fits notHere notUp slash =>
      rw [walk, if_neg (same.directory_test location ▸ fits), if_neg notHere, if_neg notUp,
        if_pos slash]
  | case7 manner links location step rest fits notHere notUp noSlash long =>
      rw [walk, if_neg (same.directory_test location ▸ fits), if_neg notHere, if_neg notUp,
        if_neg noSlash, if_pos long]
  | case8 manner links location step rest fits notHere notUp noSlash short none last =>
      rw [walk, if_neg (same.directory_test location ▸ fits), if_neg notHere, if_neg notUp,
        if_neg noSlash, if_neg short, (same.none_iff _).mp none]
      simp only [last, if_true]
  | case9 manner links location step rest fits notHere notUp noSlash short none more =>
      rw [walk, if_neg (same.directory_test location ▸ fits), if_neg notHere, if_neg notUp,
        if_neg noSlash, if_neg short, (same.none_iff _).mp none]
      exact (if_neg more).symm
  | case10 manner location step rest fits notHere notUp noSlash short target link =>
      rw [walk, if_neg (same.directory_test location ▸ fits), if_neg notHere, if_neg notUp,
        if_neg noSlash, if_neg short, (same.entry_iff _ (by simp)).mp link]
  | case11 manner location step rest fits notHere notUp noSlash short target link links start slash ih =>
      rw [walk, if_neg (same.directory_test location ▸ fits), if_neg notHere, if_neg notUp,
        if_neg noSlash, if_neg short, (same.entry_iff _ (by simp)).mp link]
      exact ih
  | case12 manner links location step rest fits notHere notUp noSlash short entry noLink found far =>
      obtain ⟨kept, behind, keptNoLink⟩ := same.exists_entry found noLink
      rw [walk, if_neg (same.directory_test location ▸ fits), if_neg notHere, if_neg notUp,
        if_neg noSlash, if_neg short, behind]
      cases kept with
      | link target => exact absurd rfl (keptNoLink target)
      | _ => exact (if_pos far).symm
  | case13 manner links location step rest fits notHere notUp noSlash short entry noLink found near ih =>
      obtain ⟨kept, behind, keptNoLink⟩ := same.exists_entry found noLink
      rw [walk, if_neg (same.directory_test location ▸ fits), if_neg notHere, if_neg notUp,
        if_neg noSlash, if_neg short, behind]
      cases kept with
      | link target => exact absurd rfl (keptNoLink target)
      | _ => exact ih.trans (if_neg near).symm

theorem find_eq (same : SameShape left right) (purpose : Purpose) (path : Path) :
    left.find purpose path = right.find purpose path := by
  simp only [find, origin, same.current, same.walk_eq]

theorem locate_eq (same : SameShape left right) (path : Path) :
    left.locate path = right.locate path := by
  simp only [locate, same.find_eq]

theorem canonical?_eq (same : SameShape left right) (path : Path) :
    left.canonical? path = right.canonical? path := by
  simp only [canonical?, origin, same.current, same.walk_eq]

end SameShape

/-!
## Regular files
-/

def IsPlain (files : FileSystem) : Prop :=
  ∀ location kind, files.entryAt? location ≠ some (.device kind)

theorem isPlain_of_entries {files : FileSystem}
    (entries : ∀ one ∈ files.entries, ∀ kind, one.2 ≠ .device kind) : files.IsPlain := by
  intro location kind device
  cases location with
  | nil => cases device
  | cons name names =>
      obtain ⟨one, found, same⟩ := Option.map_eq_some_iff.mp device
      exact entries one (List.mem_of_find?_eq_some found) kind same

structure LeadsTo (files : FileSystem) (path : Path) (location : Location)
    (content : List UInt8) : Prop where
  located : files.locate path = .ok location
  holds : files.entryAt? location = some (.file content)

theorem IsPlain.of_sameShape {left right : FileSystem} (plain : left.IsPlain)
    (same : SameShape left right) : right.IsPlain :=
  fun location kind device => plain location kind ((same.entry_iff location (by simp)).mpr device)

theorem LeadsTo.below_root {files : FileSystem} {path : Path} {location : Location}
    {content : List UInt8} (leads : files.LeadsTo path location content) : location ≠ [] := by
  rintro rfl
  have holds := leads.holds
  simp [entryAt?] at holds

theorem LeadsTo.lookup_eq {files : FileSystem} {path : Path} {location : Location}
    {content : List UInt8} (leads : files.LeadsTo path location content) :
    files.lookup path = .ok (.file content) := by
  simp only [lookup, leads.located, leads.holds, bind, Except.bind, pure, Except.pure]

theorem LeadsTo.read_eq {files : FileSystem} {path : Path} {location : Location}
    {content : List UInt8} (leads : files.LeadsTo path location content) :
    files.read path = .ok content := by
  simp only [read, leads.lookup_eq, bind, Except.bind, pure, Except.pure]

/-- What can be read is a regular file or a device; one that is always full gives nothing. -/
theorem read_cases {files : FileSystem} {path : Path} {content : List UInt8}
    (readable : files.read path = .ok content) :
    (∃ location, files.LeadsTo path location content) ∨
      ∃ location kind, files.locate path = .ok location ∧
        files.entryAt? location = some (.device kind) ∧ (kind = .full → content = []) := by
  cases located : files.locate path with
  | error cause => simp [read, lookup, located, bind, Except.bind] at readable
  | ok location =>
      cases holds : files.entryAt? location with
      | none => simp [read, lookup, located, holds, bind, Except.bind, throw, throwThe,
          MonadExceptOf.throw] at readable
      | some entry =>
          cases entry with
          | file kept =>
              simp [read, lookup, located, holds, bind, Except.bind, pure, Except.pure] at readable
              exact .inl ⟨location, located, readable ▸ holds⟩
          | device kind =>
              refine .inr ⟨location, kind, rfl, holds, ?_⟩
              rintro rfl
              simp [read, lookup, located, holds, bind, Except.bind, pure, Except.pure] at readable
              exact readable
          | directory | link _ =>
              simp [read, lookup, located, holds, bind, Except.bind, pure, Except.pure, throw,
                throwThe, MonadExceptOf.throw] at readable

/-- Reading a path gives the content of the regular file that it leads to, and nothing else. -/
theorem read_eq_ok_iff {files : FileSystem} (plain : files.IsPlain) {path : Path}
    {content : List UInt8} :
    files.read path = .ok content ↔ ∃ location, files.LeadsTo path location content := by
  constructor
  · intro result
    rcases read_cases result with leads | ⟨location, kind, -, device, -⟩
    · exact leads
    · exact absurd device (plain location kind)
  · rintro ⟨location, leads⟩
    exact leads.read_eq

/-- A walk that ends in a slash ends at a directory. -/
theorem directory_of_slash (files : FileSystem) (manner : Manner) (links : Nat)
    (location : Location) (remaining : List String) {found : Location}
    (slash : manner.slash = true)
    (taken : walk files manner links location remaining = .ok (.taken found)) :
    files.entryAt? found = some .directory := by
  fun_induction walk files manner links location remaining with
  | case2 manner links location fits => simp_all
  | case4 manner links location rest fits ih => exact ih slash taken
  | case5 manner links location rest fits apart ih => exact ih slash taken
  | case11 manner location step rest fits notHere notUp noSlash short target link links start after ih =>
      exact ih (by simp [after, slash]) taken
  | case13 manner links location step rest fits notHere notUp noSlash short entry noLink at_ near ih =>
      exact ih slash taken
  | _ => cases taken

/-- Only a directory is found behind a slash, so what is refused for a file is not met on the way to
anything else. -/
private theorem admitted {files : FileSystem} {manner : Manner} {purpose : Purpose}
    {found : Location} {rest : List String}
    (refused : ¬ (manner.purpose = .file ∧ manner.slash = true ∧ rest.isEmpty = true))
    (meant : purpose = manner.purpose ∨ files.entryAt? found ≠ some .directory)
    (behind : manner.slash = true → files.entryAt? found = some .directory) :
    ¬ (purpose = .file ∧ manner.slash = true ∧ rest.isEmpty = true) := by
  rintro ⟨file, slash, last⟩
  rcases meant with same | noDirectory
  · exact refused ⟨same ▸ file, slash, last⟩
  · exact noDirectory (behind slash)

/-- What is taken is taken for any other purpose as well, unless it is a directory, and also without
a look at absolute paths on the way. -/
theorem walk_of_milder {files : FileSystem} {manner : Manner} {links : Nat}
    {location found : Location} {remaining : List String} {purpose : Purpose} {absolute : Bool}
    (taken : walk files manner links location remaining = .ok (.taken found))
    (looked : absolute = true → manner.absolute = true)
    (meant : purpose = manner.purpose ∨ files.entryAt? found ≠ some .directory) :
    walk files { manner with purpose, absolute } links location remaining =
      .ok (.taken found) := by
  fun_induction walk files manner links location remaining with
  | case2 manner links location fits =>
      rw [walk, if_neg fits]
      exact taken
  | case4 manner links location rest fits ih =>
      rw [walk, if_neg fits, if_pos rfl, ih taken looked meant]
  | case5 manner links location rest fits apart ih =>
      rw [walk, if_neg fits, if_neg apart, if_pos rfl, ih taken looked meant]
  | case11 manner location step rest fits notHere notUp refused short target link links start after ih =>
      have fitsToo := admitted refused meant fun slash =>
        directory_of_slash files _ _ _ _ (by simp [after, slash]) taken
      rw [walk, if_neg fits, if_neg notHere, if_neg notUp, if_neg fitsToo, if_neg short, link]
      exact ih taken looked meant
  | case13 manner links location step rest fits notHere notUp refused short entry noLink at_ near ih =>
      have fitsToo := admitted refused meant fun slash =>
        directory_of_slash files _ _ _ _ slash taken
      have reached : ¬ Manner.outOfReach { manner with purpose, absolute } (location ++ [step])
          rest = true := by
        simp only [Manner.outOfReach, Bool.and_eq_true, not_and] at near ⊢
        exact fun on => near (looked on)
      rw [walk, if_neg fits, if_neg notHere, if_neg notUp, if_neg fitsToo, if_neg short, at_]
      cases entry with
      | link target => exact absurd rfl (noLink target)
      | _ => exact (if_neg reached).trans (ih taken looked meant)
  | _ => cases taken

theorem find_eq_ok_iff {files : FileSystem} {purpose : Purpose} {path : Path} {found : Place} :
    files.find purpose path = .ok found ↔ refusal? path = none ∧ isTooLong path = false ∧
      walk files ⟨purpose, endsInSlash path.text, false⟩ linkLimit (files.origin path)
        (steps path.text) = .ok found := by
  unfold find
  cases refusal : refusal? path with
  | some cause => simp
  | none =>
      by_cases long : isTooLong path = true
      · simp [long]
      · simp [long]

theorem locate_eq_ok_iff_find {files : FileSystem} {path : Path} {found : Location} :
    files.locate path = .ok found ↔ files.find .entry path = .ok (.taken found) := by
  unfold locate
  cases files.find .entry path with
  | error cause => simp
  | ok place => cases place <;> simp

theorem locate_eq_ok_iff {files : FileSystem} {path : Path} {found : Location} :
    files.locate path = .ok found ↔ refusal? path = none ∧ isTooLong path = false ∧
      walk files ⟨.entry, endsInSlash path.text, false⟩ linkLimit (files.origin path)
        (steps path.text) = .ok (.taken found) := by
  rw [locate_eq_ok_iff_find, find_eq_ok_iff]

theorem find_of_locate {files : FileSystem} {path : Path} {location : Location} (purpose : Purpose)
    (located : files.locate path = .ok location)
    (noDirectory : files.entryAt? location ≠ some .directory) :
    files.find purpose path = .ok (.taken location) := by
  obtain ⟨fine, short, walked⟩ := locate_eq_ok_iff.mp located
  exact find_eq_ok_iff.mpr ⟨fine, short, walk_of_milder walked id (.inr noDirectory)⟩

theorem LeadsTo.write_eq {files : FileSystem} {path : Path} {location : Location}
    {content : List UInt8} (leads : files.LeadsTo path location content) (bytes : List UInt8) :
    files.write path bytes = .ok (files.set location (.file bytes)) := by
  have found := find_of_locate .file leads.located (by simp [leads.holds])
  simp [write, found, leads.holds, bind, Except.bind, pure, Except.pure]

theorem sameShape_set {files : FileSystem} {location : Location} {content : List UInt8}
    (below : location ≠ []) (holds : files.entryAt? location = some (.file content))
    (bytes : List UInt8) : SameShape files (files.set location (.file bytes)) where
  current := rfl
  shape other := by
    by_cases same : other = location
    · rw [same, holds, entryAt?_set_self below]
      rfl
    · rw [entryAt?_set_of_ne same]

end FileSystem

end SqlColumns
