import SqlColumns.Proofs.FileSystem.Contents
import SqlColumns.Proofs.Text.Utf8

/-!
# Texts of regular files

A path is readable as a text exactly when it leads to a regular file of well-formed bytes. Writing a
text to such a path never fails, and changes what is read from those paths that lead to this file.
-/

set_option autoImplicit false

namespace SqlColumns

theorem Text.encode_inj {left right : List Char} (same : encode left = encode right) :
    left = right := by
  have decoded := decode?_encode left
  rw [same, decode?_encode right] at decoded
  exact (Except.ok.inj decoded).symm

namespace FileSystem

def HoldsText (files : FileSystem) (path : Path) (location : Location) (text : List Char) : Prop :=
  files.LeadsTo path location (Text.encode text)

end FileSystem

namespace TextFile

open FileSystem

variable {files other : FileSystem} {path : Path} {location : Location} {text : List Char}

theorem read_eq_ok_iff_encode :
    read files path = .ok text ↔ files.read path = .ok (Text.encode text) := by
  unfold read
  cases files.read path with
  | error cause => simp
  | ok bytes =>
      rw [Except.ok.injEq, @eq_comm _ bytes, ← Text.decode?_eq_ok_iff]
      cases decoded : Text.decode? bytes <;> simp [decoded]

theorem read_of_holdsText (holds : files.HoldsText path location text) :
    read files path = .ok text :=
  read_eq_ok_iff_encode.mpr (LeadsTo.read_eq holds)

theorem read_eq_ok_iff (plain : files.IsPlain) :
    read files path = .ok text ↔ ∃ location, files.HoldsText path location text := by
  rw [read_eq_ok_iff_encode, FileSystem.read_eq_ok_iff plain]
  rfl

theorem write_of_holdsText (holds : files.HoldsText path location text) (behind : List Char) :
    write files path behind = .ok (files.set location (.file (Text.encode behind))) := by
  rw [write, holds.write_eq]

/-- What is read depends on the entry that the path leads to, and on no other content. -/
theorem read_congr (same : SameShape files other)
    (entry : ∀ location, files.locate path = .ok location →
      files.entryAt? location = other.entryAt? location) :
    read files path = read other path := by
  have content : files.read path = other.read path := by
    simp only [FileSystem.read, FileSystem.lookup, ← same.locate_eq path]
    cases located : files.locate path with
    | error cause => rfl
    | ok location =>
        simp only [bind, Except.bind]
        rw [entry location located]
  simp only [read, content]

end TextFile

def singleScript (text : List Char) : FileSystem :=
  ⟨[(["a.sql"], .file (Text.encode text))], [], [], by simp⟩

private theorem walk_singleScript (text : List Char) :
    (singleScript text).walk ⟨.entry, false, false⟩ FileSystem.linkLimit [] ["a.sql"] =
      .ok (.taken ["a.sql"]) := by
  rw [FileSystem.walk]
  change (singleScript text).walk ⟨.entry, false, false⟩ FileSystem.linkLimit ["a.sql"] [] = _
  rw [FileSystem.walk]
  rfl

theorem singleScript_holdsText (text : List Char) :
    (singleScript text).HoldsText ⟨"/a.sql"⟩ ["a.sql"] text where
  located := by
    have fine : FileSystem.refusal? ⟨"/a.sql"⟩ = none := by simp [FileSystem.refusal?]
    have short : FileSystem.isTooLong ⟨"/a.sql"⟩ = false := by decide
    have slash : FileSystem.endsInSlash "/a.sql" = false := by decide
    have steps : FileSystem.steps "/a.sql" = ["a.sql"] := by decide
    have origin : (singleScript text).origin ⟨"/a.sql"⟩ = [] := rfl
    simp only [FileSystem.locate, FileSystem.find, fine, short, slash, steps, origin,
      walk_singleScript, Bool.false_eq_true, if_false]
  holds := rfl

end SqlColumns
