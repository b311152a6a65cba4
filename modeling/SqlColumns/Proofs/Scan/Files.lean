import SqlColumns.Proofs.Scan.Counting

/-!
# Scans of several files

A scan reports one file after the other, or fails for the first one that cannot be read, once the
library has taken the patterns of all spellings. What it reports depends on which spellings it is given,
not on their order or on how often each is given.
-/

set_option autoImplicit false

namespace SqlColumns

def FirstUnread (files : FileSystem) (paths : List Path) (failure : Failure) : Prop :=
  ∃ before path behind, paths = before ++ path :: behind ∧
    (∀ earlier ∈ before, ∃ text, TextFile.read files earlier = .ok text) ∧
    TextFile.read files path = .error failure

namespace Scan

variable {files : FileSystem} {paths : List Path} {found : List Target} {failure : Failure}

theorem firstUnread_of_countFiles (failed : countFiles files found paths = .error failure) :
    FirstUnread files paths failure := by
  induction paths with
  | nil => cases failed
  | cons path rest ih =>
      rw [countFiles, countFile] at failed
      cases read : TextFile.read files path with
      | error cause =>
          simp only [read, Except.error.injEq] at failed
          subst failed
          exact ⟨[], path, rest, rfl, by simp, read⟩
      | ok text =>
          cases later : countFiles files found rest with
          | ok others => simp [read, later] at failed
          | error cause =>
              simp only [read, later, Except.error.injEq] at failed
              subst failed
              obtain ⟨before, unread, behind, split, texts, unreadable⟩ := ih later
              refine ⟨path :: before, unread, behind, by rw [split]; rfl, ?_, unreadable⟩
              intro earlier member
              rcases List.mem_cons.mp member with rfl | inside
              · exact ⟨text, read⟩
              · exact texts earlier inside

/-!
## Order and repetition of spellings
-/

theorem CountsOf.congr {spellings others : List String} {text : List Char} {counts : Counts}
    (same : ∀ spelling, spelling ∈ others ↔ spelling ∈ spellings)
    (counted : CountsOf spellings text counts) : CountsOf others text counts := by
  constructor
  · exact counted.ordered
  · intro spelling number
    rw [same]
    exact counted.mem_iff spelling number

theorem countAll_congr [PatternLibrary] {spellings others : List String} {foundToo : List Target}
    (result : targets spellings = .ok found) (resultToo : targets others = .ok foundToo)
    (same : ∀ spelling, spelling ∈ others ↔ spelling ∈ spellings) (text : List Char) :
    countAll foundToo (prepared text) = countAll found (prepared text) := by
  have counted := countsOf_countAll result text
  have countedToo := countsOf_countAll resultToo text
  refine countedToo.unique (counted.congr ?_)
  intro spelling
  rw [List.mem_filter, List.mem_filter, same]

end Scan

/-- Scans for the same spellings are the same, unless a pattern is refused. -/
theorem scanFiles_congr [PatternLibrary] {files : FileSystem} {paths : List Path}
    {set other : TargetSet} (taken : Scan.Taken set.identifiers)
    (same : ∀ spelling, spelling ∈ other.identifiers ↔ spelling ∈ set.identifiers) :
    scanFiles files paths other = scanFiles files paths set := by
  have takenToo : Scan.Taken other.identifiers := fun spelling member =>
    taken spelling ((same spelling).mp member)
  obtain ⟨found, result⟩ := Scan.exists_targets taken
  obtain ⟨foundToo, resultToo⟩ := Scan.exists_targets takenToo
  have alike := Scan.countAll_congr result resultToo same
  simp only [scanFiles, result, resultToo, Scan.countFiles_congr (fun _ _ => rfl) alike]

/-- A scan reports every file in order, with the counts of exactly the spellings that are not blank
and occur in it, or it fails for the first file that cannot be read; unless the library refuses the
pattern of a spelling, for the first of which it fails whatever the files are. Scans for the same
spellings, whatever their order and repetition, are the same, or both fail for a pattern. -/
theorem scanFiles_reports_or_fails [PatternLibrary] (files : FileSystem) (paths : List Path)
    (set : TargetSet) :
    ((Scan.Taken set.identifiers ∧
        ((∃ results, scanFiles files paths set = .ok results ∧
            results.map FileCounts.path = paths ∧
            ∀ result ∈ results, ∃ text, TextFile.read files result.path = .ok text ∧
              Scan.CountsOf
                (set.identifiers.filter fun spelling => !Text.isBlankString spelling) text
                result.counts) ∨
          ∃ failure, scanFiles files paths set = .error failure ∧
            FirstUnread files paths failure)) ∨
      ∃ failure, Scan.FirstRefused set.identifiers failure ∧
        ∀ anyFiles anyPaths, scanFiles anyFiles anyPaths set = .error failure) ∧
    ∀ other : TargetSet, (∀ spelling, spelling ∈ other.identifiers ↔ spelling ∈ set.identifiers) →
      scanFiles files paths other = scanFiles files paths set ∨
      ∃ failure failureToo, Scan.FirstRefused set.identifiers failure ∧
        Scan.FirstRefused other.identifiers failureToo ∧
        scanFiles files paths set = .error failure ∧
        scanFiles files paths other = .error failureToo := by
  constructor
  · rcases Scan.targets_cases set.identifiers with ⟨taken, found, result⟩ | ⟨failure, failed, refused⟩
    · refine .inl ⟨taken, ?_⟩
      cases scanned : scanFiles files paths set with
      | ok results => exact .inl ⟨results, rfl, scanFiles_exact scanned⟩
      | error failure =>
          simp only [scanFiles, result] at scanned
          exact .inr ⟨failure, rfl, Scan.firstUnread_of_countFiles scanned⟩
    · exact .inr ⟨failure, refused, fun _ _ => by simp only [scanFiles, failed]⟩
  · intro other same
    rcases Scan.targets_cases set.identifiers with ⟨taken, -⟩ | ⟨failure, failed, refused⟩
    · exact .inl (scanFiles_congr taken same)
    · rcases Scan.targets_cases other.identifiers with
        ⟨takenToo, -⟩ | ⟨failureToo, failedToo, refusedToo⟩
      · exact absurd (fun spelling member => takenToo spelling ((same spelling).mpr member))
          refused.not_taken
      · exact .inr ⟨failure, failureToo, refused, refusedToo, by simp only [scanFiles, failed],
          by simp only [scanFiles, failedToo]⟩

/-!
## A word that is too long
-/

theorem Text.lowerAfter_replicate (before done : List Char) (number : Nat) :
    lowerAfter before done (List.replicate number 'a') =
      done.reverse ++ List.replicate number 'a' := by
  induction number generalizing before done with
  | zero => simp [lowerAfter]
  | succ number ih =>
      have own : lowerChar 'a' = ['a'] := by decide
      rw [List.replicate_succ, lowerAfter, if_neg (by decide), own, ih]
      simp

section

attribute [local instance] PatternLibrary.sizeLimited

theorem PatternLibrary.refusal?_replicate {number : Nat} (long : sizeLimit / 80 < number) :
    ∃ complaint, PatternLibrary.refusal? (List.replicate number 'a') = some complaint := by
  have size : sizeLimit < sizeOfPattern (List.replicate number 'a') := by
    have each : sizeOf 'a' = 80 := by decide
    rw [sizeOfPattern_replicate, each]
    exact (Nat.div_lt_iff_lt_mul (by decide)).mp long
  have letters : (List.replicate number 'a').any Char.isAlpha = true := by
    refine List.any_eq_true.mpr ⟨'a', List.mem_replicate.mpr ⟨by omega, rfl⟩, by decide⟩
  exact ⟨_, if_pos (by simp only [letters, size, decide_true, Bool.and_self])⟩

def Scan.wordOf (number : Nat) : String :=
  String.ofList (List.replicate number 'a')

theorem Scan.not_taken_wordOf {number : Nat} (long : PatternLibrary.sizeLimit / 80 < number) :
    ¬ Scan.Taken [Scan.wordOf number] := by
  intro taken
  obtain ⟨complaint, refusal⟩ := PatternLibrary.refusal?_replicate long
  have spelled : (Scan.wordOf number).toList = List.replicate number 'a' := String.toList_ofList
  have written : Text.isBlankString (Scan.wordOf number) = false := by
    rw [Text.isBlankString, spelled]
    refine Bool.eq_false_iff.mpr fun blank => ?_
    have own := List.all_eq_true.mp blank 'a' (List.mem_replicate.mpr ⟨by omega, rfl⟩)
    exact absurd own (by decide)
  have none := taken _ List.mem_cons_self written
  rw [spelled, Text.lower, Text.lowerAfter_replicate] at none
  rw [List.reverse_nil, List.nil_append, refusal] at none
  cases none

theorem Scan.refused_wordOf {number : Nat} (long : PatternLibrary.sizeLimit / 80 < number) :
    ¬ ((∃ results, scanFiles (singleScript []) [⟨"/a.sql"⟩] ⟨"s", [wordOf number]⟩ = .ok results) ∨
      ∃ failure, scanFiles (singleScript []) [⟨"/a.sql"⟩] ⟨"s", [wordOf number]⟩ = .error failure ∧
        FirstUnread (singleScript []) [⟨"/a.sql"⟩] failure) := by
  rcases targets_cases [wordOf number] with ⟨taken, -⟩ | ⟨failure, refused, -⟩
  · exact absurd taken (not_taken_wordOf long)
  · have failed : scanFiles (singleScript []) [⟨"/a.sql"⟩] ⟨"s", [wordOf number]⟩ =
        .error failure := by
      simp only [scanFiles, refused]
    rintro (⟨results, success⟩ | ⟨other, -, before, path, behind, split, -, unread⟩)
    · rw [failed] at success
      cases success
    · have read : TextFile.read (singleScript []) ⟨"/a.sql"⟩ = .ok [] :=
        TextFile.read_of_holdsText (singleScript_holdsText [])
      obtain rfl : path = ⟨"/a.sql"⟩ := by
        have member : path ∈ [(⟨"/a.sql"⟩ : Path)] := split ▸ by simp
        exact List.mem_singleton.mp member
      rw [read] at unread
      cases unread

/-- The only file can be read, and the scan fails for the only identifier. -/
theorem scanFiles_refused_longWord :
    ¬ ((∃ results, scanFiles (singleScript []) [⟨"/a.sql"⟩] ⟨"s", [Scan.wordOf 300000]⟩ =
        .ok results) ∨
      ∃ failure, scanFiles (singleScript []) [⟨"/a.sql"⟩] ⟨"s", [Scan.wordOf 300000]⟩ =
        .error failure ∧ FirstUnread (singleScript []) [⟨"/a.sql"⟩] failure) :=
  Scan.refused_wordOf (by decide)

end

end SqlColumns
