import SqlColumns.Proofs.Corpus.Change

/-!
# Rules of the root

Where the root of a file system has neither a repository nor the file of rules for version control,
and there are no directories in it, the rules that count are those of its ignore file, for a user
without rules.
-/

set_option autoImplicit false

namespace SqlColumns

namespace Corpus

open FileSystem

variable {files : FileSystem} (versioned : files.entryAt? [".gitignore"] = none)
  (repository : files.entryAt? [".git"] = none)

include versioned in
theorem versioned_missing (found : Location) : files.locate ⟨"/.gitignore"⟩ ≠ .ok found := by
  have proper : IsName ".gitignore" := by decide
  exact (isFolder_root files).not_located proper versioned found

include repository

theorem repository_missing (found : Location) : files.locate ⟨"/.git"⟩ ≠ .ok found := by
  have proper : IsName ".git" := by decide
  exact (isFolder_root files).not_located proper repository found

theorem exclusions_missing (found : Location) :
    files.locate ⟨"/.git/info/exclude"⟩ ≠ .ok found := by
  intro located
  have opened := isFolder_root files
  have walked := (locate_eq_ok_iff.mp located).2.2
  have steps : steps "/.git/info/exclude" = [".git", "info", "exclude"] := by decide
  have origin : files.origin ⟨"/.git/info/exclude"⟩ = [] := rfl
  rw [steps, origin, walk, if_neg (by simp [opened.directory]), if_neg (by decide),
    if_neg (by decide), if_neg (by simp), if_neg (by decide), List.nil_append, repository] at walked
  cases walked

theorem isFile_repository : files.isFile ⟨"/.git"⟩ = false := by
  refine Bool.eq_false_iff.mpr fun file => ?_
  obtain ⟨location, content, leads⟩ := isFile_iff.mp file
  exact repository_missing repository location leads.located

theorem repositoryFolder?_eq : repositoryFolder? files ⟨"/"⟩ = .ok (some ⟨"/.git"⟩) := by
  have place : repositoryPlace ⟨"/"⟩ = ⟨"/.git"⟩ := by decide
  rw [repositoryFolder?, place, isFile_repository repository]
  rfl

/-- The root without a repository consults four files. -/
theorem consulted {file : Path} (consults : Consults files ⟨"/"⟩ file) :
    file ∈ [(⟨"/.ignore"⟩ : Path), ⟨"/.gitignore"⟩, ⟨"/.git"⟩, ⟨"/.git/info/exclude"⟩] := by
  cases consults with
  | own => decide
  | versioned => decide
  | repository => decide
  | pointer file =>
      have place : repositoryPlace ⟨"/"⟩ = ⟨"/.git"⟩ := by decide
      rw [place, isFile_repository repository] at file
      cases file
  | excluded same =>
      rw [repositoryFolder?_eq repository] at same
      cases same
      decide

/-- The rules that count below the root, when it is the only directory, the current one, and has no
rules but those of its ignore file. -/
def rootRulebook (rules : IgnoreRules) : Rulebook :=
  ⟨⟨"/"⟩, pathTo [], [], [([], (⟨⟨"/"⟩, rules, [], []⟩ : FolderRules))].filter
    fun one => !one.2.isEmpty, pathTo [], []⟩

attribute [local instance] UserRules.absent

include versioned

theorem load_root (here : files.current = []) (folders : foldersBelow files [] = [])
    {rules : IgnoreRules} (read : readRules files ⟨"/.ignore"⟩ = (rules, [])) :
    Rulebook.load files ⟨"/"⟩ [] = (rootRulebook rules, []) := by
  have second := readRules_of_not_located (versioned_missing versioned)
  have inside := readRules_of_not_located (exclusions_missing repository)
  have loaded : FolderRules.load files ⟨"/"⟩ = (⟨⟨"/"⟩, rules, [], []⟩, []) := by
    have own : ownRules ⟨"/"⟩ = ⟨"/.ignore"⟩ := by decide
    have other : versionedRules ⟨"/"⟩ = ⟨"/.gitignore"⟩ := by decide
    have excluded : exclusions ⟨"/.git"⟩ = ⟨"/.git/info/exclude"⟩ := by decide
    simp only [FolderRules.load, own, read, other, second, readExclusions,
      repositoryFolder?_eq repository, excluded, inside]
    rfl
  have root : pathBelow ⟨"/"⟩ [] = ⟨"/"⟩ := rfl
  have user : UserRules.load files = [] := rfl
  have above : above [] = [] := rfl
  simp only [Rulebook.load, here, user, folders, List.map_cons, List.map_nil, root, loaded, above,
    ite_self, List.filter_nil, List.reverse_nil, List.flatMap_nil, rootRulebook]

/-- Where there are no directories below the root, a discovery lets the files in it through or not,
and does nothing else. -/
theorem discover_root (here : files.current = []) (folders : foldersBelow files [] = [])
    {rules : IgnoreRules} (read : readRules files ⟨"/.ignore"⟩ = (rules, []))
    (skipHidden respectIgnore : Bool) :
    discover files ⟨"/"⟩ ⟨skipHidden, respectIgnore⟩ = .ok (shownFiles files ⟨"/"⟩ []
      (if respectIgnore then some (rootRulebook rules) else none) skipHidden) := by
  have opened := isFolder_root files
  have own : isStandardInput ⟨"/"⟩ = false := by decide
  have rulebook : Filter.rulebook? ⟨skipHidden, respectIgnore⟩ files ⟨"/"⟩ [] =
      .ok (if respectIgnore then some (rootRulebook rules) else none) := by
    simp only [Filter.rulebook?, load_root versioned repository here folders read]
    cases respectIgnore <;> rfl
  refine discover_eq_ok_iff.mpr (.below opened own rulebook ?_)
  rw [unreached?, folders]
  rfl

end Corpus

end SqlColumns
