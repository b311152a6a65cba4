import SqlColumns.Proofs.Identifier.Lowered
import SqlColumns.Proofs.Keyed
import SqlColumns.Proofs.TextFile

/-!
# What a scan counts

Every spelling that is not blank becomes a target unless its pattern is refused; apart from that, a scan
fails only for files that it cannot read. The number under a spelling is that of its lower-case form in
the prepared text of the file.
-/

set_option autoImplicit false

namespace SqlColumns

theorem Identifier.eq_of_chars_eq {left right : Identifier} (same : left.chars = right.chars) :
    left = right := by
  cases left
  cases same
  rfl

namespace Scan

def Target.IsLowered (target : Target) : Prop :=
  target.identifier.chars = Text.lower target.spelling.toList

theorem lower_ne_nil {text : List Char} (spelled : text ≠ []) : Text.lower text ≠ [] :=
  fun none => spelled ((Identifier.lowered_lower text).eq_nil_iff.mp none)

theorem ne_nil_of_not_blank {spelling : String} (written : Text.isBlankString spelling = false) :
    spelling.toList ≠ [] := by
  intro none
  simp [Text.isBlankString, none] at written

section

variable [PatternLibrary] {spellings : List String} {found : List Target} {failure : Failure}

/-- The library takes the patterns of all spellings that are not blank, in lower case. -/
def Taken (spellings : List String) : Prop :=
  ∀ spelling ∈ spellings, Text.isBlankString spelling = false →
    PatternLibrary.refusal? (Text.lower spelling.toList) = none

def FirstRefused (spellings : List String) (failure : Failure) : Prop :=
  ∃ before spelling behind complaint, spellings = before ++ spelling :: behind ∧ Taken before ∧
    Text.isBlankString spelling = false ∧
    PatternLibrary.refusal? (Text.lower spelling.toList) = some complaint ∧
    failure = .refusedPattern (Text.lowerString spelling) complaint

theorem taken_cons_iff {spelling : String} :
    Taken (spelling :: spellings) ↔ (Text.isBlankString spelling = false →
      PatternLibrary.refusal? (Text.lower spelling.toList) = none) ∧ Taken spellings :=
  List.forall_mem_cons

theorem FirstRefused.not_taken (refused : FirstRefused spellings failure) : ¬ Taken spellings := by
  obtain ⟨before, spelling, behind, complaint, rfl, -, written, refusal, -⟩ := refused
  intro taken
  rw [taken spelling (List.mem_append_right _ List.mem_cons_self) written] at refusal
  cases refusal

/-- Spellings have targets exactly when their patterns are taken. -/
theorem targets_cases (spellings : List String) :
    (Taken spellings ∧ ∃ found, targets spellings = .ok found) ∨
      ∃ failure, targets spellings = .error failure ∧ FirstRefused spellings failure := by
  induction spellings with
  | nil => exact .inl ⟨by simp [Taken], [], rfl⟩
  | cons spelling rest ih =>
      cases blank : Text.isBlankString spelling with
      | true =>
          simp only [targets, blank, if_true, taken_cons_iff]
          rcases ih with ⟨taken, some⟩ | ⟨failure, failed, before, other, behind, complaint, split,
            earlier, refused⟩
          · exact .inl ⟨⟨by simp, taken⟩, some⟩
          · refine .inr ⟨failure, failed, spelling :: before, other, behind, complaint,
              by rw [split]; rfl, taken_cons_iff.mpr ⟨by simp [blank], earlier⟩, refused⟩
      | false =>
          have spelled := lower_ne_nil (ne_nil_of_not_blank blank)
          simp only [targets, blank, Bool.false_eq_true, if_false, taken_cons_iff]
          cases refusal : PatternLibrary.refusal? (Text.lower spelling.toList) with
          | some complaint =>
              have failed := Identifier.compile_eq_error_iff.mpr (.refused spelled refusal)
              rw [failed]
              exact .inr ⟨_, rfl, [], spelling, rest, complaint, rfl, by simp [Taken], blank, refusal,
                rfl⟩
          | none =>
              have built : Identifier.compile (Text.lower spelling.toList) = .ok ⟨_, spelled⟩ :=
                Identifier.compile_eq_ok_iff.mpr ⟨rfl, refusal⟩
              rw [built]
              rcases ih with ⟨taken, found, same⟩ | ⟨failure, failed, before, other, behind, complaint,
                split, earlier, refused⟩
              · rw [same]
                exact .inl ⟨⟨fun _ => rfl, taken⟩, _, rfl⟩
              · rw [failed]
                exact .inr ⟨failure, rfl, spelling :: before, other, behind, complaint,
                  by rw [split]; rfl, taken_cons_iff.mpr ⟨fun _ => refusal, earlier⟩, refused⟩

theorem exists_targets (taken : Taken spellings) : ∃ found, targets spellings = .ok found := by
  rcases targets_cases spellings with ⟨-, some⟩ | ⟨failure, -, refused⟩
  · exact some
  · exact absurd taken refused.not_taken

/-- Targets are those of the spellings that are not blank, each in lower case. -/
theorem targets_spec (result : targets spellings = .ok found) :
    (∀ target ∈ found, target.IsLowered ∧ target.spelling ∈ spellings ∧
      Text.isBlankString target.spelling = false) ∧
    ∀ spelling ∈ spellings, Text.isBlankString spelling = false →
      ∃ target ∈ found, target.spelling = spelling := by
  induction spellings generalizing found with
  | nil =>
      cases result
      simp
  | cons spelling rest ih =>
      cases blank : Text.isBlankString spelling with
      | true =>
          simp only [targets, blank, if_true] at result
          obtain ⟨listed, covers⟩ := ih result
          constructor
          · intro target member
            obtain ⟨lowered, inside, written⟩ := listed target member
            exact ⟨lowered, List.mem_cons_of_mem _ inside, written⟩
          · intro other member written
            rcases List.mem_cons.mp member with rfl | later
            · rw [blank] at written
              cases written
            · exact covers other later written
      | false =>
          simp only [targets, blank, Bool.false_eq_true, if_false] at result
          split at result
          · cases result
          · next identifier built =>
              split at result
              · cases result
              · next others later =>
                  cases result
                  obtain ⟨listed, covers⟩ := ih later
                  constructor
                  · intro target member
                    rcases List.mem_cons.mp member with rfl | inside
                    · exact ⟨(Identifier.compile_eq_ok_iff.mp built).1, List.mem_cons_self, blank⟩
                    · obtain ⟨lowered, among, written⟩ := listed target inside
                      exact ⟨lowered, List.mem_cons_of_mem _ among, written⟩
                  · intro other member written
                    rcases List.mem_cons.mp member with rfl | later
                    · exact ⟨_, List.mem_cons_self, rfl⟩
                    · obtain ⟨one, inside, spelled⟩ := covers other later written
                      exact ⟨one, List.mem_cons_of_mem _ inside, spelled⟩

end

def countOnto (text : List Char) (targets : List Target) (counts : Counts) : Counts :=
  targets.foldl
    (fun counts target =>
      let number := target.identifier.count text
      if 0 < number then counts.set target.spelling number else counts)
    counts

theorem countOnto_cons (text : List Char) (target : Target) (rest : List Target) (counts : Counts) :
    countOnto text (target :: rest) counts =
      countOnto text rest (if 0 < target.identifier.count text then
        counts.set target.spelling (target.identifier.count text) else counts) :=
  rfl

/-- Targets of one spelling count the same, so which of them sets the number does not matter. -/
theorem get?_countOnto {spelling : String} {identifier : Identifier} (text : List Char)
    (targets : List Target)
    (same : ∀ target ∈ targets, target.spelling = spelling → target.identifier = identifier)
    (counts : Counts) :
    (countOnto text targets counts).get? spelling =
      if (∃ target ∈ targets, target.spelling = spelling) ∧ 0 < identifier.count text then
        some (identifier.count text)
      else counts.get? spelling := by
  induction targets generalizing counts with
  | nil => simp [countOnto]
  | cons target rest ih =>
      rw [countOnto_cons, ih fun one member => same one (List.mem_cons_of_mem _ member)]
      have head := same target List.mem_cons_self
      by_cases own : target.spelling = spelling
      · rw [head own]
        by_cases some : 0 < identifier.count text
        · simp [some, own, Counts.get?_set]
        · simp [some]
      · have kept : Counts.get?
            (if 0 < target.identifier.count text then
              counts.set target.spelling (target.identifier.count text) else counts) spelling =
            counts.get? spelling := by
          split
          · rw [Counts.get?_set, if_neg (Ne.symm own)]
          · rfl
        simp [kept, own]

theorem get?_countAll {targets : List Target} {spelling : String} {identifier : Identifier}
    (text : List Char)
    (same : ∀ target ∈ targets, target.spelling = spelling → target.identifier = identifier)
    (member : ∃ target ∈ targets, target.spelling = spelling) :
    ((countAll targets text).get? spelling).getD 0 = identifier.count text := by
  have number : (countAll targets text).get? spelling = _ := get?_countOnto text targets same []
  rw [number]
  by_cases some : 0 < identifier.count text
  · simp [member, some]
  · have none : identifier.count text = 0 := by omega
    simp [none, Counts.get?]

/-- Whatever is added is the number of a target that occurs. -/
theorem countOnto_sound (text : List Char) (targets : List Target) {counts : Counts}
    (ordered : Keyed.Ordered counts) :
    Keyed.Ordered (countOnto text targets counts) ∧
      ∀ one ∈ countOnto text targets counts, one ∈ counts ∨
        ∃ target ∈ targets, one = (target.spelling, target.identifier.count text) ∧ 0 < one.2 := by
  induction targets generalizing counts with
  | nil => exact ⟨ordered, fun one member => .inl member⟩
  | cons target rest ih =>
      rw [countOnto_cons]
      by_cases some : 0 < target.identifier.count text
      · have next := Keyed.ordered_insert target.spelling (target.identifier.count text) ordered
        obtain ⟨sorted, sound⟩ := ih next
        rw [if_pos some, Counts.set_eq_insert]
        refine ⟨sorted, fun one member => ?_⟩
        rcases sound one member with inside | ⟨other, later, same⟩
        · rcases (Keyed.mem_insert ordered).mp inside with rfl | ⟨-, kept⟩
          · exact .inr ⟨target, List.mem_cons_self, rfl, some⟩
          · exact .inl kept
        · exact .inr ⟨other, List.mem_cons_of_mem _ later, same⟩
      · obtain ⟨sorted, sound⟩ := ih ordered
        rw [if_neg some]
        refine ⟨sorted, fun one member => ?_⟩
        rcases sound one member with kept | ⟨other, later, same⟩
        · exact .inl kept
        · exact .inr ⟨other, List.mem_cons_of_mem _ later, same⟩

/-- The counts of spellings in a text, in the order of the spellings: each one whose lower-case form
occurs in the lower-case text on one line, with the number of its occurrences. -/
structure CountsOf (spellings : List String) (text : List Char) (counts : Counts) : Prop where
  ordered : Keyed.Ordered counts
  mem_iff : ∀ spelling number, (spelling, number) ∈ counts ↔
    spelling ∈ spellings ∧ 0 < number ∧
      ∃ identifier : Identifier, identifier.chars = Text.lower spelling.toList ∧
        number = identifier.count (flattenLines (Text.lower text))

/-- There is one list of counts of spellings in a text. -/
theorem CountsOf.unique {spellings : List String} {text : List Char} {left right : Counts}
    (first : CountsOf spellings text left) (second : CountsOf spellings text right) :
    left = right :=
  first.ordered.eq_of_mem_iff second.ordered fun one =>
    (first.mem_iff one.1 one.2).trans (second.mem_iff one.1 one.2).symm

theorem countsOf_countAll [PatternLibrary] {spellings : List String} {found : List Target}
    (result : targets spellings = .ok found) (text : List Char) :
    CountsOf (spellings.filter fun spelling => !Text.isBlankString spelling) text
      (countAll found (prepared text)) := by
  obtain ⟨listed, covers⟩ := targets_spec result
  have nothing : Keyed.Ordered ([] : Counts) := .nil
  obtain ⟨ordered, sound⟩ := countOnto_sound (prepared text) found nothing
  refine ⟨ordered, fun spelling number => ?_⟩
  constructor
  · intro member
    rcases sound _ member with none | ⟨target, inside, same, some⟩
    · cases none
    · obtain ⟨rfl, rfl⟩ := Prod.mk.inj same
      obtain ⟨lowered, among, written⟩ := listed target inside
      exact ⟨List.mem_filter.mpr ⟨among, by simp [written]⟩, some, target.identifier, lowered, rfl⟩
  · rintro ⟨among, some, identifier, spelled, rfl⟩
    obtain ⟨member, written⟩ := List.mem_filter.mp among
    have own := covers spelling member (by simpa using written)
    have same : ∀ target ∈ found, target.spelling = spelling → target.identifier = identifier :=
      fun target among same =>
        Identifier.eq_of_chars_eq (by rw [(listed target among).1, same, spelled])
    have number := get?_countOnto (prepared text) found same []
    rw [if_pos ⟨own, some⟩] at number
    exact (Keyed.find?_eq_some_iff ordered.nodup).mp number

theorem countFiles_cons_eq_ok_iff {files : FileSystem} {targets : List Target} {path : Path}
    {rest : List Path} {counts : List FileCounts} :
    countFiles files targets (path :: rest) = .ok counts ↔ ∃ text later,
      TextFile.read files path = .ok text ∧ countFiles files targets rest = .ok later ∧
        counts = ⟨path, countAll targets (prepared text)⟩ :: later := by
  rw [countFiles, countFile]
  cases TextFile.read files path with
  | error failure => simp
  | ok text =>
      cases countFiles files targets rest with
      | error failure => simp
      | ok later => simp [eq_comm]

/-- Files that are read as before are scanned as before, with targets that count as before. -/
theorem countFiles_congr {files written : FileSystem} {found foundToo : List Target}
    {paths : List Path}
    (texts : ∀ path ∈ paths, TextFile.read written path = TextFile.read files path)
    (alike : ∀ text, countAll foundToo (prepared text) = countAll found (prepared text)) :
    countFiles written foundToo paths = countFiles files found paths := by
  induction paths with
  | nil => rfl
  | cons path rest ih =>
      obtain ⟨own, others⟩ := List.forall_mem_cons.mp texts
      simp only [countFiles, countFile, own, alike, ih others]

/-- Every count of a scan is that of the text of its file. -/
theorem mem_countFiles {files : FileSystem} {targets : List Target} {paths : List Path}
    {counts : List FileCounts} (result : countFiles files targets paths = .ok counts) :
    ∀ one ∈ counts, ∃ text, TextFile.read files one.path = .ok text ∧
      one.counts = countAll targets (prepared text) := by
  induction paths generalizing counts with
  | nil =>
      cases result
      simp
  | cons path rest ih =>
      obtain ⟨text, later, read, others, rfl⟩ := countFiles_cons_eq_ok_iff.mp result
      intro one member
      rcases List.mem_cons.mp member with rfl | inside
      · exact ⟨text, read, rfl⟩
      · exact ih others one inside

theorem paths_of_countFiles {files : FileSystem} {targets : List Target} {paths : List Path}
    {counts : List FileCounts} (result : countFiles files targets paths = .ok counts) :
    counts.map FileCounts.path = paths := by
  induction paths generalizing counts with
  | nil =>
      cases result
      rfl
  | cons path rest ih =>
      obtain ⟨text, later, -, others, rfl⟩ := countFiles_cons_eq_ok_iff.mp result
      rw [List.map_cons, ih others]

end Scan

/-- A scan that succeeds has the counts of every file in the order of the files. -/
theorem scanFiles_exact [PatternLibrary] {files : FileSystem} {paths : List Path} {set : TargetSet}
    {results : List FileCounts} (scanned : scanFiles files paths set = .ok results) :
    results.map FileCounts.path = paths ∧ ∀ result ∈ results, ∃ text,
      TextFile.read files result.path = .ok text ∧
      Scan.CountsOf (set.identifiers.filter fun spelling => !Text.isBlankString spelling) text
        result.counts := by
  unfold scanFiles at scanned
  split at scanned
  · cases scanned
  · next found targets =>
      refine ⟨Scan.paths_of_countFiles scanned, fun result member => ?_⟩
      obtain ⟨text, read, same⟩ := Scan.mem_countFiles scanned result member
      rw [same]
      exact ⟨text, read, Scan.countsOf_countAll targets text⟩

theorem scanFiles_single [PatternLibrary] {files : FileSystem} {path : Path} {text : List Char}
    {set : TargetSet} {found : List Scan.Target} (read : TextFile.read files path = .ok text)
    (targets : Scan.targets set.identifiers = .ok found) :
    scanFiles files [path] set = .ok [⟨path, Scan.countAll found (Scan.prepared text)⟩] := by
  simp [scanFiles, targets, Scan.countFiles, Scan.countFile, read]

/-- A file that can be read is scanned, and every scan counts the lower-case form of a spelling in the
prepared text of the file. -/
theorem scanFiles_spec [PatternLibrary] {files : FileSystem} {path : Path} {text : List Char}
    {set : TargetSet} {spelling : String} (read : TextFile.read files path = .ok text)
    (member : spelling ∈ set.identifiers) (taken : Scan.Taken set.identifiers)
    (written : Text.isBlankString spelling = false) (identifier : Identifier)
    (spelled : identifier.chars = Text.lower spelling.toList) :
    (∃ one, scanFiles files [path] set = .ok [one] ∧ one.path = path) ∧
    ∀ paths counts, scanFiles files paths set = .ok counts → ∀ one ∈ counts, one.path = path →
      (one.counts.get? spelling).getD 0 = identifier.count (Scan.prepared text) := by
  obtain ⟨found, targets⟩ := Scan.exists_targets taken
  obtain ⟨listed, covers⟩ := Scan.targets_spec targets
  constructor
  · exact ⟨_, scanFiles_single read targets, rfl⟩
  · intro paths counts result one inside here
    simp only [scanFiles, targets] at result
    obtain ⟨own, readOwn, same⟩ := Scan.mem_countFiles result one inside
    rw [here, read] at readOwn
    cases readOwn
    rw [same]
    refine Scan.get?_countAll _ (fun target among own => ?_) (covers spelling member written)
    refine Identifier.eq_of_chars_eq ?_
    rw [(listed target among).1, own, spelled]

end SqlColumns
