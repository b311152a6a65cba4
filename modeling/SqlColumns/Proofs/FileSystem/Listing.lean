import SqlColumns.Proofs.FileSystem.Change
import SqlColumns.Proofs.Path

/-!
# Names in a directory

A name that is put behind the path of a directory is looked up in this directory, wherever the path
leads through, and the names of a directory are those under which something lies in it, each once and
in order.
-/

set_option autoImplicit false

namespace SqlColumns

namespace FileSystem

variable {files left right : FileSystem} {folder : Path} {location : Location} {name : String}

/-!
## Listed names
-/

private theorem listed_iff {one : Location × Entry} :
    (match one.1.getLast? with
      | some last => if one.1 == location ++ [last] then some last else none
      | none => none) = some name ↔ one.1 = location ++ [name] := by
  cases last : one.1.getLast? with
  | none =>
      rw [List.getLast?_eq_none_iff] at last
      simp [last]
  | some other =>
      simp only [Option.ite_none_right_eq_some, beq_iff_eq, Option.some.injEq]
      constructor
      · rintro ⟨same, rfl⟩
        exact same
      · intro same
        rw [same, List.getLast?_concat] at last
        cases last
        exact ⟨same, rfl⟩

theorem mem_of_entryAt? {entry : Entry} (below : location ≠ [])
    (holds : files.entryAt? location = some entry) : (location, entry) ∈ files.entries := by
  unfold entryAt? at holds
  split at holds
  · exact absurd rfl below
  · obtain ⟨one, found, rfl⟩ := Option.map_eq_some_iff.mp holds
    obtain rfl : one.1 = _ := by simpa using List.find?_some found
    exact List.mem_of_find?_eq_some found

/-- The names of a directory are those under which something lies in it. -/
theorem mem_namesIn : name ∈ files.namesIn location ↔ files.entryAt? (location ++ [name]) ≠ none := by
  have inside : files.entryAt? (location ++ [name]) ≠ none ↔
      ∃ one ∈ files.entries, one.1 = location ++ [name] := by
    unfold entryAt?
    split
    · next empty => simp at empty
    · simp
  rw [inside, namesIn, List.mem_mergeSort, List.mem_filterMap]
  exact exists_congr fun one => and_congr_right fun _ => listed_iff

theorem entryAt?_of_no_names (empty : files.namesIn location = []) (name : String) :
    files.entryAt? (location ++ [name]) = none := by
  have unlisted : name ∉ files.namesIn location := by
    rw [empty]
    exact List.not_mem_nil
  exact Classical.not_not.mp (mt mem_namesIn.mpr unlisted)

theorem nodup_namesIn (files : FileSystem) (location : Location) :
    (files.namesIn location).Nodup := by
  have distinct : files.entries.Pairwise fun left right => left.1 ≠ right.1 :=
    List.pairwise_map.mp files.distinct
  rw [namesIn, (List.mergeSort_perm _ _).nodup_iff]
  refine distinct.filterMap _ fun left right apart first one second two same => ?_
  rw [listed_iff.mp one, listed_iff.mp two, same] at apart
  exact apart rfl

theorem ordered_namesIn (files : FileSystem) (location : Location) :
    (files.namesIn location).Pairwise (· < ·) := by
  have sorted : (files.namesIn location).Pairwise fun left right => decide (left ≤ right) = true := by
    refine List.pairwise_mergeSort (fun first second third => ?_) (fun first second => ?_) _
    · simpa using String.le_trans
    · simpa using String.le_total first second
  refine (sorted.and (nodup_namesIn files location)).imp fun {first second} both => ?_
  exact Std.lt_of_le_of_ne (of_decide_eq_true both.1) both.2

/-- Lists of names in order are the same when they have the same names. -/
theorem eq_of_ordered_names {first second : List String} (ordered : first.Pairwise (· < ·))
    (orderedToo : second.Pairwise (· < ·)) (same : ∀ name, name ∈ first ↔ name ∈ second) :
    first = second := by
  have apart : ∀ {names : List String}, names.Pairwise (· < ·) → names.Nodup := by
    refine fun ordered => ordered.imp fun {one other} less same => ?_
    rw [same] at less
    exact String.lt_irrefl other less
  refine List.Perm.eq_of_pairwise (fun one other _ _ less more => ?_) ordered orderedToo
    ((List.perm_ext_iff_of_nodup (apart ordered) (apart orderedToo)).mpr same)
  exact absurd more (String.lt_asymm less)

/-!
## Names behind the path of a directory
-/

theorem steps_append (written : folder.text ≠ "") (proper : IsName name) :
    steps (folder.append ⟨name⟩).text = steps folder.text ++ [name] := by
  have last : ∀ front : List (List Char),
      ((front ++ [name.toList]).filter (· != [])).map String.ofList =
        (front.filter (· != [])).map String.ofList ++ [name] := by
    intro front
    simp [proper.written]
  have single := Path.segments_of_isName proper
  rcases Path.segments_append written (Path.isAbsolute_of_isName proper) with
    ⟨front, -, short, long⟩ | ⟨-, long⟩
  · -- A slash at the end leaves an empty part, which is no step.
    simp only [steps, short, long, single, last]
    simp
  · simp only [steps, long, single, last]

theorem endsInSlash_append (proper : IsName name) :
    endsInSlash (folder.append ⟨name⟩).text = false := by
  have last : ∀ front : List Char, (front ++ name.toList).getLast? ≠ some '/' := by
    intro front slash
    rw [List.getLast?_append, Option.or_eq_some_iff] at slash
    rcases slash with slash | ⟨none, -⟩
    · exact proper.single (List.mem_of_getLast? slash)
    · exact proper.written (by simpa using none)
  simp only [Path.append, Path.isAbsolute_of_isName proper, Bool.false_eq_true, if_false, endsInSlash]
  split
  · simpa using last folder.text.toList
  · simpa using last (folder.text ++ "/").toList

theorem origin_append (written : folder.text ≠ "") (proper : IsName name) :
    files.origin (folder.append ⟨name⟩) = files.origin folder := by
  have first : ∀ behind : List Char,
      (folder.text.toList ++ behind).head? = folder.text.toList.head? := by
    intro behind
    cases chars : folder.text.toList with
    | nil => exact absurd (String.toList_eq_nil_iff.mp chars) written
    | cons c rest => rfl
  have same : (folder.append ⟨name⟩).isAbsolute = folder.isAbsolute := by
    rw [Path.append, if_neg (by rw [Path.isAbsolute_of_isName proper]; decide)]
    split
    · simp [Path.isAbsolute, first]
    · simp [Path.isAbsolute, first]
  simp only [origin, same]

/-- A path that leads to a directory leads through it as well: what comes behind it is walked from
there, with as many links as are left. -/
theorem walk_through {manner : Manner} {links : Nat} {start found : Location}
    {steps more : List String} (purpose : Purpose) (some : more ≠ [])
    (relative : manner.absolute = false)
    (taken : walk files manner links start steps = .ok (.taken found)) :
    ∃ remaining, walk files ⟨purpose, false, false⟩ links start (steps ++ more) =
      walk files ⟨purpose, false, false⟩ remaining found more := by
  have longer : ∀ rest : List String, (rest ++ more).isEmpty = false := by simp [some]
  have admits : ∀ rest : List String,
      ¬ (purpose = .file ∧ false = true ∧ (rest ++ more).isEmpty = true) := by simp
  have reaches : ∀ location rest,
      Manner.outOfReach ⟨purpose, false, false⟩ location rest = false := fun _ _ => rfl
  fun_induction walk files manner links start steps with
  | case2 manner links start fits =>
      cases taken
      exact ⟨links, rfl⟩
  | case4 manner links start rest fits ih =>
      obtain ⟨remaining, same⟩ := ih relative taken
      refine ⟨remaining, ?_⟩
      rw [List.cons_append, walk, if_neg fits, if_pos rfl, same]
  | case5 manner links start rest fits apart ih =>
      obtain ⟨remaining, same⟩ := ih relative taken
      refine ⟨remaining, ?_⟩
      rw [List.cons_append, walk, if_neg fits, if_neg apart, if_pos rfl, same]
  | case11 manner start step rest fits notHere notUp refused short target link links begin slash ih =>
      obtain ⟨remaining, same⟩ := ih relative taken
      refine ⟨remaining, ?_⟩
      rw [List.cons_append, walk, if_neg fits, if_neg notHere, if_neg notUp, if_neg (admits rest),
        if_neg short, link]
      simp only [longer rest, Bool.false_and, Bool.or_false, ← List.append_assoc]
      exact same
  | case13 manner links start step rest fits notHere notUp refused short entry noLink found near ih =>
      obtain ⟨remaining, same⟩ := ih relative taken
      refine ⟨remaining, ?_⟩
      rw [List.cons_append, walk, if_neg fits, if_neg notHere, if_neg notUp, if_neg (admits rest),
        if_neg short, found]
      cases entry with
      | link target => exact absurd rfl (noLink target)
      | _ => exact (if_neg (by rw [reaches]; decide)).trans same
  | _ => cases taken

/-- The system looks up a path that ends in a name, whatever lies there. -/
structure Takes (path : Path) (name : String) : Prop where
  fine : refusal? path = none
  short : isTooLong path = false
  fits : (Text.encodeString name).length ≤ 255

theorem walk_name {purpose : Purpose} {links : Nat}
    (directory : files.entryAt? location = some .directory) (proper : IsName name)
    (noLink : ∀ target, files.entryAt? (location ++ [name]) ≠ some (.link target)) :
    walk files ⟨purpose, false, false⟩ links location [name] =
      if 255 < (Text.encodeString name).length then .error .nameTooLong
      else .ok (if (files.entryAt? (location ++ [name])).isSome then .taken (location ++ [name])
        else .free (location ++ [name])) := by
  have inside : ¬ (files.entryAt? location != some .directory) = true := by simp [directory]
  have near : ∀ entry, Manner.outOfReach ⟨purpose, false, false⟩ (location ++ [entry]) [] = false :=
    fun _ => rfl
  have taken : walk files ⟨purpose, false, false⟩ links (location ++ [name]) [] =
      .ok (.taken (location ++ [name])) := by
    rw [walk]
    rfl
  rw [walk, if_neg inside, if_neg proper.here, if_neg proper.up, if_neg (by simp)]
  cases entry : files.entryAt? (location ++ [name]) with
  | none => rfl
  | some kept =>
      cases kept with
      | link target => exact absurd entry (noLink target)
      | _ => simp only [near, Bool.false_eq_true, if_false, taken, Option.isSome_some, if_true]

/-- A link in a directory is followed from the directory, or from the root. -/
theorem walk_link {purpose : Purpose} {links : Nat} {target : String}
    (directory : files.entryAt? location = some .directory) (proper : IsName name)
    (fits : (Text.encodeString name).length ≤ 255)
    (link : files.entryAt? (location ++ [name]) = some (.link target)) :
    walk files ⟨purpose, false, false⟩ (links + 1) location [name] =
      walk files ⟨purpose, endsInSlash target, false⟩ links
        (if (Path.mk target).isAbsolute then [] else location) (steps target) := by
  have inside : ¬ (files.entryAt? location != some .directory) = true := by simp [directory]
  rw [walk, if_neg inside, if_neg proper.here, if_neg proper.up, if_neg (by simp),
    if_neg (by omega), link]
  simp only [Bool.false_or, List.isEmpty_nil, Bool.true_and, List.append_nil]

structure IsFolder (files : FileSystem) (folder : Path) (location : Location) : Prop where
  located : files.locate folder = .ok location
  directory : files.entryAt? location = some .directory

theorem isFolder_root (files : FileSystem) : files.IsFolder ⟨"/"⟩ [] := by
  have walked : files.walk ⟨.entry, true, false⟩ linkLimit [] [] = .ok (.taken []) := by
    rw [walk]
    rfl
  exact ⟨locate_eq_ok_iff.mpr ⟨by decide, by decide, walked⟩, rfl⟩

theorem isDirectory_iff :
    files.isDirectory folder = true ↔ ∃ location, files.IsFolder folder location := by
  constructor
  · intro directory
    unfold isDirectory at directory
    split at directory
    · next looked =>
        unfold lookup at looked
        cases located : files.locate folder with
        | error cause =>
            rw [located] at looked
            cases looked
        | ok location =>
            refine ⟨location, located, ?_⟩
            simp only [located, bind, Except.bind] at looked
            split at looked <;> cases looked
            assumption
    · cases directory
  · rintro ⟨location, opened⟩
    simp only [isDirectory, lookup, opened.located, opened.directory, bind, Except.bind, pure,
      Except.pure]

theorem SameBut.isFolder {place : Location} (same : SameBut place left right)
    (opened : left.IsFolder folder location) : right.IsFolder folder location := by
  have apart := same.apart_of_directory opened.directory
  refine ⟨same.locate_eq (fun here => absurd here apart) opened.located, ?_⟩
  rw [← same.elsewhere location apart]
  exact opened.directory

theorem written_of_locate (located : files.locate folder = .ok location) : folder.text ≠ "" := by
  intro empty
  have fine := (locate_eq_ok_iff.mp located).1
  simp [refusal?, empty] at fine

variable {purpose : Purpose} {place : Place}

/-- Nothing is found behind a path that does not lead to a directory. -/
theorem isFolder_of_find (located : files.locate folder = .ok location) (proper : IsName name)
    (found : files.find purpose (folder.append ⟨name⟩) = .ok place) :
    files.IsFolder folder location := by
  refine ⟨located, Decidable.byContradiction fun other => ?_⟩
  have written := written_of_locate located
  obtain ⟨remaining, rest⟩ :=
    walk_through purpose (List.cons_ne_nil name []) rfl (locate_eq_ok_iff.mp located).2.2
  have walked := (find_eq_ok_iff.mp found).2.2
  rw [endsInSlash_append proper, steps_append written proper, origin_append written proper, rest,
    walk, if_pos (by simpa using other)] at walked
  cases walked

/-- A name behind the path of a directory is looked up in the directory. -/
theorem IsFolder.find_eq_ok_iff (opened : files.IsFolder folder location) (proper : IsName name)
    (noLink : ∀ target, files.entryAt? (location ++ [name]) ≠ some (.link target)) :
    files.find purpose (folder.append ⟨name⟩) = .ok place ↔
      Takes (folder.append ⟨name⟩) name ∧
        place = if (files.entryAt? (location ++ [name])).isSome then .taken (location ++ [name])
          else .free (location ++ [name]) := by
  have written := written_of_locate opened.located
  obtain ⟨remaining, rest⟩ :=
    walk_through purpose (List.cons_ne_nil name []) rfl
      (locate_eq_ok_iff.mp opened.located).2.2
  rw [FileSystem.find_eq_ok_iff, endsInSlash_append proper, steps_append written proper,
    origin_append written proper, rest, walk_name opened.directory proper noLink]
  by_cases long : 255 < (Text.encodeString name).length
  · rw [if_pos long]
    constructor
    · rintro ⟨-, -, found⟩
      cases found
    · rintro ⟨takes, -⟩
      exact absurd takes.fits (by omega)
  · rw [if_neg long, Except.ok.injEq]
    constructor
    · rintro ⟨fine, short, rfl⟩
      exact ⟨⟨fine, short, by omega⟩, rfl⟩
    · rintro ⟨takes, rfl⟩
      exact ⟨takes.fine, takes.short, rfl⟩

theorem IsFolder.locate_eq_ok_iff (opened : files.IsFolder folder location) (proper : IsName name)
    (noLink : ∀ target, files.entryAt? (location ++ [name]) ≠ some (.link target))
    {found : Location} :
    files.locate (folder.append ⟨name⟩) = .ok found ↔
      Takes (folder.append ⟨name⟩) name ∧ files.entryAt? (location ++ [name]) ≠ none ∧
        found = location ++ [name] := by
  rw [locate_eq_ok_iff_find, opened.find_eq_ok_iff proper noLink]
  refine and_congr_right fun _ => ?_
  cases entry : files.entryAt? (location ++ [name]) <;> simp [eq_comm]

/-- A name under which a regular file or nothing lies is written to where it is looked up. -/
theorem IsFolder.write_eq (opened : files.IsFolder folder location) (proper : IsName name)
    (holds : files.HoldsFileOrNothing (location ++ [name]))
    (takes : Takes (folder.append ⟨name⟩) name) (bytes : List UInt8) :
    files.write (folder.append ⟨name⟩) bytes =
      .ok (files.set (location ++ [name]) (.file bytes)) := by
  have noLink : ∀ target, files.entryAt? (location ++ [name]) ≠ some (.link target) := by
    intro target link
    obtain ⟨content, file⟩ := holds _ link
    cases file
  have found : files.find .file (folder.append ⟨name⟩) =
      .ok (if (files.entryAt? (location ++ [name])).isSome then .taken (location ++ [name])
        else .free (location ++ [name])) :=
    (opened.find_eq_ok_iff proper noLink).mpr ⟨takes, rfl⟩
  cases entry : files.entryAt? (location ++ [name]) with
  | none =>
      simp only [entry, Option.isSome_none] at found
      simp [write, found, bind, Except.bind, pure, Except.pure]
  | some kept =>
      obtain ⟨content, rfl⟩ := holds kept entry
      simp only [entry, Option.isSome_some, if_true] at found
      simp [write, found, entry, bind, Except.bind, pure, Except.pure]

theorem find_of_write {path : Path} {written : FileSystem} {bytes : List UInt8}
    (success : files.write path bytes = .ok written) :
    ∃ place, files.find .file path = .ok place := by
  cases found : files.find .file path with
  | error cause =>
      rw [write, found] at success
      cases success
  | ok place => exact ⟨place, rfl⟩

/-- The system takes a path to a name under which it has written a file. -/
theorem IsFolder.takes_of_write {written : FileSystem} {bytes : List UInt8}
    (opened : files.IsFolder folder location) (proper : IsName name)
    (noLink : ∀ target, files.entryAt? (location ++ [name]) ≠ some (.link target))
    (success : files.write (folder.append ⟨name⟩) bytes = .ok written) :
    Takes (folder.append ⟨name⟩) name := by
  obtain ⟨place, found⟩ := find_of_write success
  exact ((opened.find_eq_ok_iff proper noLink).mp found).1

theorem IsFolder.not_located (opened : files.IsFolder folder location) (proper : IsName name)
    (none : files.entryAt? (location ++ [name]) = none) (found : Location) :
    files.locate (folder.append ⟨name⟩) ≠ .ok found := by
  intro located
  exact ((opened.locate_eq_ok_iff proper (by simp [none])).mp located).2.1 none

theorem IsFolder.mem_namesIn (opened : files.IsFolder folder location) (proper : IsName name)
    {found : Location} (located : files.locate (folder.append ⟨name⟩) = .ok found) :
    name ∈ files.namesIn location :=
  FileSystem.mem_namesIn.mpr fun none => opened.not_located proper none found located

theorem IsFolder.leadsTo (opened : files.IsFolder folder location) (proper : IsName name)
    {content : List UInt8} (holds : files.entryAt? (location ++ [name]) = some (.file content))
    (takes : Takes (folder.append ⟨name⟩) name) :
    files.LeadsTo (folder.append ⟨name⟩) (location ++ [name]) content where
  located := (opened.locate_eq_ok_iff proper (by simp [holds])).mpr ⟨takes, by simp [holds], rfl⟩
  holds := holds

theorem isFile_iff {path : Path} :
    files.isFile path = true ↔ ∃ location content, files.LeadsTo path location content := by
  constructor
  · intro file
    unfold isFile at file
    split at file
    · next content looked =>
        unfold lookup at looked
        cases located : files.locate path with
        | error cause =>
            rw [located] at looked
            cases looked
        | ok location =>
            simp only [located, bind, Except.bind] at looked
            split at looked <;> cases looked
            next holds => exact ⟨location, content, located, holds⟩
    · cases file
  · rintro ⟨location, content, leads⟩
    simp only [isFile, leads.lookup_eq]

theorem SameShape.exists_file (same : SameShape left right) {content : List UInt8}
    (holds : left.entryAt? location = some (.file content)) :
    ∃ other, right.entryAt? location = some (.file other) := by
  have shape := same.shape location
  rw [holds] at shape
  cases behind : right.entryAt? location with
  | none => simp [behind] at shape
  | some entry => cases entry <;> simp_all [Entry.shape]

theorem SameShape.isFile_eq (same : SameShape left right) (path : Path) :
    left.isFile path = right.isFile path := by
  have one : ∀ {files others : FileSystem}, SameShape files others → files.isFile path = true →
      others.isFile path = true := by
    intro files others same file
    obtain ⟨location, content, leads⟩ := isFile_iff.mp file
    obtain ⟨other, behind⟩ := same.exists_file leads.holds
    exact isFile_iff.mpr ⟨location, other, same.locate_eq path ▸ leads.located, behind⟩
  exact Bool.eq_iff_iff.mpr ⟨one same, one same.symm⟩

theorem SameShape.namesIn_eq (same : SameShape left right) (location : Location) :
    left.namesIn location = right.namesIn location := by
  refine eq_of_ordered_names (ordered_namesIn _ _) (ordered_namesIn _ _) fun name => ?_
  rw [mem_namesIn, mem_namesIn, ne_eq, same.none_iff]

end FileSystem

end SqlColumns
