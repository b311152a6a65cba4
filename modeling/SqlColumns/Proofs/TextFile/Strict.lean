import SqlColumns.Proofs.FileSystem.Write
import SqlColumns.Proofs.Text.WellFormed
import SqlColumns.Proofs.TextFile

/-!
# Strict reading

A file is a text when its bytes are well-formed from end to end, and then the text is written back as
the same bytes. Any other file is refused where its longest well-formed beginning ends.
-/

set_option autoImplicit false

namespace SqlColumns.TextFile

open FileSystem

variable {files : FileSystem} {path : Path} {content : List UInt8}

theorem encode_eq_iff_read (readable : files.read path = .ok content) {text : List Char} :
    Text.encode text = content ↔ read files path = .ok text := by
  rw [read_eq_ok_iff_encode, readable, Except.ok.injEq, eq_comm]

theorem read_of_decode?_error (readable : files.read path = .ok content) {offset : Nat}
    (broken : Text.decode? content = .error offset) :
    read files path = .error (.undecodable path offset) := by
  simp only [read, readable, broken]

theorem write_of_write {text : List Char} {written : FileSystem}
    (success : files.write path (Text.encode text) = .ok written) :
    write files path text = .ok written := by
  simp only [write, success]

/-- A file that can be read is a text exactly when its bytes are well-formed. The text has these bytes,
so writing it back changes nothing, and once the path leads to a file with any other content, writing it
gives this file the bytes again and changes no other one. A file that is not well-formed is refused, with
the length of its longest well-formed beginning. -/
theorem reads_wellFormed_or_refuses (readable : files.read path = .ok content) :
    ((∃ text, read files path = .ok text) ↔ Text.IsWellFormed content) ∧
    (∀ text, read files path = .ok text →
      Text.encode text = content ∧
      (∃ written, write files path text = .ok written ∧ written.read path = .ok content ∧
        ∀ place, written.entryAt? place = files.entryAt? place) ∧
      ∀ later location kept, later.LeadsTo path location kept →
        ∃ written, write later path text = .ok written ∧ written.LeadsTo path location content ∧
          ∀ other, other ≠ location → written.entryAt? other = later.entryAt? other) ∧
    (¬ Text.IsWellFormed content → ∃ offset,
      read files path = .error (.undecodable path offset) ∧
      (Failure.undecodable path offset).code = "DECODE_FAILED" ∧
      IsGreatest (Text.wellFormedLengths content) offset) := by
  refine ⟨?_, ?_, ?_⟩
  · simp only [Text.isWellFormed_iff, encode_eq_iff_read readable]
  · intro text success
    obtain rfl := (encode_eq_iff_read readable).mpr success
    refine ⟨rfl, ?_, ?_⟩
    · obtain ⟨written, back, same, others⟩ := exists_write_of_read readable
      exact ⟨written, write_of_write back, same, others⟩
    · intro later location kept leads
      obtain ⟨written, back, again, others⟩ := leads.exists_write (Text.encode text)
      exact ⟨written, write_of_write back, again, others⟩
  · intro broken
    cases result : Text.decode? content with
    | ok text => exact absurd (Text.exists_decode?_iff.mp ⟨text, result⟩) broken
    | error offset =>
        exact ⟨offset, read_of_decode?_error readable result, rfl, Text.isGreatest_of_decode? result⟩

def markedLine : List Char :=
  "\uFEFFid\r\n".toList

def cutOffBytes : List UInt8 :=
  Text.encode markedLine ++ [0xF0, 0x9F, 0x98]

def cutOffScript : FileSystem :=
  (singleScript []).set ["a.sql"] (.file cutOffBytes)

/-- A file that ends in the middle of a character is refused where this character starts; without it the
file is read and written back. -/
theorem reads_wellFormed_or_refuses_cutOffScript :
    cutOffScript.read ⟨"/a.sql"⟩ = .ok cutOffBytes ∧ cutOffBytes.length = 10 ∧
    ¬ Text.IsWellFormed cutOffBytes ∧
    read cutOffScript ⟨"/a.sql"⟩ = .error (.undecodable ⟨"/a.sql"⟩ 7) ∧
    read (singleScript markedLine) ⟨"/a.sql"⟩ = .ok markedLine ∧
    ∃ written, write (singleScript markedLine) ⟨"/a.sql"⟩ markedLine = .ok written ∧
      written.read ⟨"/a.sql"⟩ = .ok [0xEF, 0xBB, 0xBF, 0x69, 0x64, 0x0D, 0x0A] := by
  have decoded : Text.decode? cutOffBytes = .error 7 := by decide +kernel
  have bytes : Text.encode markedLine = [0xEF, 0xBB, 0xBF, 0x69, 0x64, 0x0D, 0x0A] := by decide
  have readable : cutOffScript.read ⟨"/a.sql"⟩ = .ok cutOffBytes :=
    (singleScript_holdsText []).puts.leads.read_eq
  have holds := singleScript_holdsText markedLine
  have success := read_of_holdsText holds
  obtain ⟨broken, longest⟩ := Text.decode?_eq_error_iff.mp decoded
  obtain ⟨offset, refused, -, greatest⟩ := (reads_wellFormed_or_refuses readable).2.2 broken
  obtain rfl : offset = 7 := greatest.unique longest
  obtain ⟨-, ⟨written, back, again, -⟩, -⟩ :=
    (reads_wellFormed_or_refuses holds.read_eq).2.1 markedLine success
  exact ⟨readable, by decide, broken, refused, success, written, back, bytes ▸ again⟩

end SqlColumns.TextFile
