import SqlColumns.Proofs.Corpus.Exact
import SqlColumns.Proofs.Corpus.RootRules

/-!
# Filters of discovery

Hidden names can be left out and rules can be respected. With both, no file is found that rules alone
leave out. But a rule that keeps a hidden name brings it back, so with both filters more files can be
found than each of them lets through.
-/

set_option autoImplicit false

namespace SqlColumns

namespace Corpus

open FileSystem

variable {files : FileSystem} {root path : Path} {location : Location} {names : List String}
  {book : Rulebook}

/-- A hidden file, or one in a hidden directory, where rules keep each hidden name on the way. -/
structure IsSpared (files : FileSystem) (location : Location) (book : Rulebook)
    (names : List String) : Prop where
  script : IsSqlFile files location names
  hidden : ∃ name ∈ names, Path.hiddenName name = true
  kept : ∀ ahead, ahead ≠ [] → ahead <+: names → endsHidden ahead = true →
    book.verdict? (decide (ahead ≠ names)) ahead = some .kept

def Spares [UserRules] (files : FileSystem) (root path : Path) : Prop :=
  ∃ location names, files.IsFolder root location ∧ path = pathBelow root names ∧
    IsSpared files location (Rulebook.load files root location).1 names

/-- With rules, what is left out as hidden has no rule that keeps it. -/
theorem passes_both_iff : Passes (LeavesOut (some book) true) false names ↔
    Passes (LeavesOut (some book) false) false names ∧
      ∀ ahead, ahead ≠ [] → ahead <+: names → endsHidden ahead = true →
        book.verdict? (decide (ahead ≠ names)) ahead = some .kept := by
  have single : ∀ isDirectory ahead, ¬ LeavesOut (some book) true isDirectory ahead ↔
      ¬ LeavesOut (some book) false isDirectory ahead ∧
        (endsHidden ahead = true → book.verdict? isDirectory ahead = some .kept) := by
    intro isDirectory ahead
    rw [leavesOut_iff, leavesOut_iff]
    cases book.verdict? isDirectory ahead with
    | none => simp
    | some verdict => cases verdict <;> simp
  simp only [Passes, single, Bool.false_or]
  constructor
  · intro passes
    exact ⟨fun ahead some before => (passes ahead some before).1,
      fun ahead some before => (passes ahead some before).2⟩
  · rintro ⟨passes, kept⟩ ahead some before
    exact ⟨passes ahead some before, kept ahead some before⟩

/-- A file passes both filters when it passes the rules, and is not hidden or else spared. -/
theorem passes_both_iff_of_isSqlFile (script : IsSqlFile files location names) :
    Passes (LeavesOut (some book) true) false names ↔
      Passes (LeavesOut (some book) false) false names ∧
        (Passes (LeavesOut none true) false names ∨ IsSpared files location book names) := by
  rw [passes_both_iff, passes_hidden_iff]
  refine and_congr_right fun _ => ?_
  constructor
  · intro kept
    by_cases hidden : ∃ name ∈ names, Path.hiddenName name = true
    · exact .inr ⟨script, hidden, kept⟩
    · push Not at hidden
      exact .inl fun _ name member => Bool.eq_false_iff.mpr (hidden name member)
  · rintro (plain | spared)
    · intro ahead some before hidden
      obtain ⟨last, ends, own⟩ := (Option.any_eq_true _ _).mp hidden
      have shown := plain rfl last (before.subset (List.mem_of_getLast? ends))
      rw [own] at shown
      cases shown
    · exact spared.kept

theorem IsSpared.not_passes (spared : IsSpared files location book names) :
    ¬ Passes (LeavesOut none true) false names := by
  obtain ⟨name, member, hidden⟩ := spared.hidden
  intro passes
  have shown := passes_hidden_iff.mp passes rfl name member
  rw [hidden] at shown
  cases shown

/-- Where a discovery with rules succeeds, it succeeds when hidden names are left out too. -/
theorem unreached?_both (reached : unreached? files root location (some book) false = none) :
    unreached? files root location (some book) true = none := by
  rw [unreached?_eq_none_iff] at reached ⊢
  intro names member entered
  refine reached names member (enters_iff.mpr ?_)
  refine (enters_iff.mp entered).imp fun isDirectory ahead left => ?_
  rw [leavesOut_iff] at left ⊢
  exact left.imp_right fun hidden => absurd hidden.2.1 Bool.false_ne_true

theorem spares_iff [UserRules] (opened : files.IsFolder root location) :
    Spares files root path ↔ ∃ names, path = pathBelow root names ∧
      IsSpared files location (Rulebook.load files root location).1 names := by
  constructor
  · rintro ⟨other, names, openedToo, same, spared⟩
    obtain rfl := Except.ok.inj (opened.located.symm.trans openedToo.located)
    exact ⟨names, same, spared⟩
  · rintro ⟨names, same, spared⟩
    exact ⟨location, names, opened, same, spared⟩

theorem mem_both_iff (named : files.HasNames) :
    path ∈ shownFiles files root location (some book) true ↔
      path ∈ shownFiles files root location (some book) false ∧
        (path ∈ shownFiles files root location none true ∨
          ∃ names, path = pathBelow root names ∧ IsSpared files location book names) := by
  simp only [mem_shownFiles_iff_passes named]
  constructor
  · rintro ⟨names, script, passes, same⟩
    obtain ⟨ruled, plain | spared⟩ := (passes_both_iff_of_isSqlFile script).mp passes
    · exact ⟨⟨names, script, ruled, same⟩, .inl ⟨names, script, plain, same⟩⟩
    · exact ⟨⟨names, script, ruled, same⟩, .inr ⟨names, same, spared⟩⟩
  · rintro ⟨⟨names, script, ruled, rfl⟩, ⟨others, other, plain, same⟩ | ⟨others, same, spared⟩⟩
    · obtain rfl := script.eq_of_pathBelow named other same
      exact ⟨names, script, (passes_both_iff_of_isSqlFile script).mpr ⟨ruled, .inl plain⟩, rfl⟩
    · obtain rfl := script.eq_of_pathBelow named spared.script same
      exact ⟨names, script, (passes_both_iff_of_isSqlFile script).mpr ⟨ruled, .inr spared⟩, rfl⟩

theorem IsSpared.not_mem_shownFiles (named : files.HasNames)
    (spared : IsSpared files location book names) :
    pathBelow root names ∉ shownFiles files root location none true := by
  intro member
  obtain ⟨others, script, passes, same⟩ := (mem_shownFiles_iff_passes named).mp member
  obtain rfl := spared.script.eq_of_pathBelow named script same
  exact spared.not_passes passes

theorem shownFiles_of_discover [UserRules] {skipped : List Path} (opened : files.IsFolder root location)
    (own : isStandardInput root = false)
    (withoutHidden : discover files root ⟨true, false⟩ = .ok skipped) :
    skipped = shownFiles files root location none true := by
  cases discover_eq_ok_iff.mp withoutHidden with
  | standardInput openedToo standard =>
      rw [own] at standard
      cases standard
  | below openedToo ownToo rules reached =>
      obtain rfl := Except.ok.inj (opened.located.symm.trans openedToo.located)
      obtain ⟨respects, -⟩ | ⟨-, rfl⟩ := rulebook?_eq_ok_iff.mp rules
      · cases respects
      · rfl

/-- With both filters, the files are found that rules alone let through, if they are not hidden or if
rules keep each hidden name on their way. So they are those found with each filter unless rules spare
a hidden file. -/
theorem discover_both [UserRules] {skipped respected : List Path} (named : files.HasNames)
    (withoutHidden : discover files root ⟨true, false⟩ = .ok skipped)
    (withRules : discover files root ⟨false, true⟩ = .ok respected) :
    ∃ both, discover files root ⟨true, true⟩ = .ok both ∧ both.Sublist respected ∧
      (∀ path, path ∈ both ↔ path ∈ respected ∧ (path ∈ skipped ∨ Spares files root path)) ∧
      ((∀ path, path ∈ both ↔ path ∈ skipped ∧ path ∈ respected) ↔
        ∀ path ∈ respected, ¬ Spares files root path) := by
  cases discover_eq_ok_iff.mp withRules with
  | standardInput opened standard =>
      exact ⟨[], discover_of_isStandardInput opened standard, List.Sublist.refl _, by simp, by simp⟩
  | @below location book opened own rules reached =>
      obtain ⟨-, faultless, rfl⟩ | ⟨ignores, -⟩ := rulebook?_eq_ok_iff.mp rules
      · have skips := shownFiles_of_discover opened own withoutHidden
        have rulesToo : Filter.rulebook? ⟨true, true⟩ files root location =
            .ok (some (Rulebook.load files root location).1) :=
          rulebook?_eq_ok_iff.mpr (.inl ⟨rfl, faultless, rfl⟩)
        have found := discover_eq_ok_iff.mpr (.below opened own rulesToo (unreached?_both reached))
        have exact : ∀ path, path ∈ shownFiles files root location
            (some (Rulebook.load files root location).1) true ↔
              path ∈ shownFiles files root location (some (Rulebook.load files root location).1)
                false ∧ (path ∈ skipped ∨ Spares files root path) := by
          intro path
          rw [mem_both_iff named, spares_iff opened, skips]
        refine ⟨_, found, ?_, exact, ?_⟩
        · refine Path.sublist_of_before (before_shownFiles named) (before_shownFiles named) ?_
          exact fun path member => ((exact path).mp member).1
        · constructor
          · intro same path member spares
            have shown := ((same path).mp ((exact path).mpr ⟨member, .inr spares⟩)).1
            obtain ⟨names, rfl, spared⟩ := (spares_iff opened).mp spares
            exact spared.not_mem_shownFiles named (skips ▸ shown)
          · intro none path
            rw [exact path, and_comm]
            refine and_congr_left fun member => ?_
            exact or_iff_left (none path member)
      · cases ignores

section

attribute [local instance] UserRules.absent

def keptScript : FileSystem :=
  ⟨[([".h.sql"], .file []), ([".ignore"], .file (Text.encodeString "!.h.sql"))], [], [], by simp⟩

namespace KeptScript

def rules : IgnoreRules :=
  (IgnoreRules.ofBytes ⟨"/.ignore"⟩ (Text.encodeString "!.h.sql")).1

theorem readRules_eq : readRules keptScript ⟨"/.ignore"⟩ = (rules, []) := by
  have path : (Path.mk "/").append ⟨".ignore"⟩ = ⟨"/.ignore"⟩ := by decide
  have takes : Takes ((Path.mk "/").append ⟨".ignore"⟩) ".ignore" := by
    constructor <;> decide
  have proper : IsName ".ignore" := by decide
  have holds : keptScript.entryAt? [".ignore"] =
      some (.file (Text.encodeString "!.h.sql")) := by decide
  have leads := (isFolder_root keptScript).leadsTo proper holds takes
  have faultless : (IgnoreRules.ofBytes ⟨"/.ignore"⟩ (Text.encodeString "!.h.sql")).2 = [] := by
    decide +kernel
  rw [path] at leads
  rw [readRules, leads.read_eq]
  exact Prod.ext rfl faultless

theorem isSpared : IsSpared keptScript [] (rootRulebook rules) [".h.sql"] where
  script := ⟨⟨[], by decide⟩, ".h", "sql", by decide, by decide, by decide⟩
  hidden := ⟨".h.sql", by decide, by decide⟩
  kept := by
    intro ahead some before _
    obtain rfl | ⟨rest, rfl, short⟩ := List.prefix_cons_iff.mp before
    · exact absurd rfl some
    · obtain rfl := List.prefix_nil.mp short
      decide +kernel

theorem letsThrough_eq : letsThrough (some (rootRulebook rules)) false [".h.sql"] = true := by
  decide +kernel

end KeptScript

theorem discover_both_keptScript :
    ∃ both skipped, discover keptScript ⟨"/"⟩ ⟨true, true⟩ = .ok both ∧
      discover keptScript ⟨"/"⟩ ⟨true, false⟩ = .ok skipped ∧
      ⟨"/.h.sql"⟩ ∈ both ∧ ⟨"/.h.sql"⟩ ∉ skipped := by
  have named : keptScript.HasNames := by decide
  have folders : foldersBelow keptScript [] = [] := by decide
  have book := load_root (by decide) (by decide) rfl folders KeptScript.readRules_eq
  have spared := KeptScript.isSpared
  have path : ⟨"/.h.sql"⟩ = pathBelow ⟨"/"⟩ [".h.sql"] := by decide
  have discovered := discover_root (by decide) (by decide) rfl folders KeptScript.readRules_eq
  obtain ⟨both, found, -, exact, -⟩ :=
    discover_both named (discovered true false) (discovered false true)
  refine ⟨both, _, found, discovered true false, (exact _).mpr ⟨?_, .inr ?_⟩, ?_⟩
  · have passes := (letsThrough_iff spared.script.written).mp KeptScript.letsThrough_eq
    exact (mem_shownFiles_iff_passes named).mpr ⟨_, spared.script, passes, path⟩
  · refine (spares_iff (isFolder_root _)).mpr ⟨_, path, ?_⟩
    rw [book]
    exact spared
  · rw [path]
    exact spared.not_mem_shownFiles named

end

end Corpus

end SqlColumns
