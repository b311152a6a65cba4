import Mathlib
import SqlColumns.Proofs.Identifier.Words

/-!
# Counts behind a renaming

A renaming of one word identifier to another puts the new word wherever the old one stood alone. The
neighbours of a word are no part of it, so the new word stands alone there too: it gains the count that
the old one loses, and every other word keeps its own. Where the new word was not in the text before, a
renaming back finds the places of the old one again.
-/

set_option autoImplicit false

namespace SqlColumns.Identifier

open Text

/-- Two identifiers that differ even when capital and small ASCII letters count as the same. -/
def Differ (left right : Identifier) : Prop :=
  left.chars.map Char.toLower ≠ right.chars.map Char.toLower

section

variable {old new other : Identifier} {word : List Char} {behind : Option Char}

theorem IsWord.map_foldChar (spelled : other.IsWord) :
    other.chars.map foldChar = other.chars.map Char.toLower :=
  List.map_congr_left fun c member => foldChar_of_isWordChar (spelled c member)

theorem Differ.not_alike (differ : Differ old new) (oldWord : old.IsWord) (newWord : new.IsWord)
    (matched : Alike word old.chars) : ¬ Alike word new.chars := by
  intro both
  have same : old.chars.map foldChar = new.chars.map foldChar := matched.symm.trans both
  rw [oldWord.map_foldChar, newWord.map_foldChar] at same
  exact differ same

/-- What is an occurrence of one word is none of a different one. -/
theorem Differ.takesWord_eq_false (differ : Differ old new) (oldWord : old.IsWord)
    (newWord : new.IsWord) (takes : old.takesWord word behind = true) :
    new.takesWord word behind = false := by
  simp only [takesWord, Bool.and_eq_true, decide_eq_true_eq] at takes
  simp [takesWord, differ.not_alike oldWord newWord takes.1]

theorem takesWord_chars (new : Identifier) (takes : old.takesWord word behind = true) :
    new.takesWord new.chars behind = true := by
  simp only [takesWord, Bool.and_eq_true, decide_eq_true_eq] at takes ⊢
  exact ⟨rfl, takes.2⟩

/-- The word that stands in the place of a word is never the old one, and is the new one where
either of the two stood. -/
theorem takesWord_renamed (word : List Char) (behind : Option Char) (differ : Differ old new)
    (oldWord : old.IsWord) (newWord : new.IsWord) :
    old.takesWord (if old.takesWord word behind then new.chars else word) behind = false ∧
    (new.takesWord (if old.takesWord word behind then new.chars else word) behind).toNat =
      (new.takesWord word behind).toNat + (old.takesWord word behind).toNat := by
  cases takes : old.takesWord word behind with
  | true =>
      have gained := takesWord_chars new takes
      have lost := differ.takesWord_eq_false oldWord newWord takes
      have none := Differ.takesWord_eq_false (Ne.symm differ) newWord oldWord gained
      simp [gained, lost, none]
  | false => simp [takes]

/-- Whether a word is an occurrence of a third identifier does not change. -/
theorem takesWord_renamed_other (oldOther : Differ old other) (newOther : Differ new other)
    (oldWord : old.IsWord) (newWord : new.IsWord) (otherWord : other.IsWord) :
    other.takesWord (if old.takesWord word behind then new.chars else word) behind =
      other.takesWord word behind := by
  cases takes : old.takesWord word behind with
  | true =>
      have gained := takesWord_chars new takes
      have before := oldOther.takesWord_eq_false oldWord otherWord takes
      have after := newOther.takesWord_eq_false newWord otherWord gained
      simp [before, after]
  | false => simp

end

namespace Words

variable {old new other : Identifier}

theorem count_rename (differ : Differ old new) (oldWord : old.IsWord) (newWord : new.IsWord)
    (words : Words) :
    (words.rename old new.chars).count old = 0 ∧
    (words.rename old new.chars).count new = words.count new + words.count old := by
  induction words with
  | last word =>
      obtain ⟨none, gained⟩ := takesWord_renamed word none differ oldWord newWord
      simp only [rename, count, none, gained, Bool.toNat_false, and_self]
  | next word between rest ih =>
      obtain ⟨none, gained⟩ := takesWord_renamed word (some between) differ oldWord newWord
      obtain ⟨restNone, restGained⟩ := ih
      constructor
      · rw [rename, count, none, restNone, Bool.toNat_false]
      · rw [rename, count, gained, restGained, count, count]
        omega

theorem count_rename_other (oldOther : Differ old other) (newOther : Differ new other)
    (oldWord : old.IsWord) (newWord : new.IsWord) (otherWord : other.IsWord) (words : Words) :
    (words.rename old new.chars).count other = words.count other := by
  induction words with
  | last word =>
      simp only [rename, count,
        takesWord_renamed_other oldOther newOther oldWord newWord otherWord]
  | next word between rest ih =>
      simp only [rename, count, ih,
        takesWord_renamed_other oldOther newOther oldWord newWord otherWord]

/-- A word that was not there before stands for the old one alone, so renaming it back leaves the
spelling of the old word wherever this one stood. -/
theorem rename_back {words : Words} (absent : words.count new = 0) :
    (words.rename old new.chars).rename new old.chars = words.rename old old.chars := by
  have word_back : ∀ (word : List Char) (behind : Option Char),
      new.takesWord word behind = false →
        (if new.takesWord (if old.takesWord word behind then new.chars else word) behind
          then old.chars else if old.takesWord word behind then new.chars else word) =
            if old.takesWord word behind then old.chars else word := by
    intro word behind unmatched
    cases takes : old.takesWord word behind with
    | true => simp [takesWord_chars new takes]
    | false => simp [unmatched]
  induction words with
  | last word =>
      have unmatched : new.takesWord word none = false := by
        simpa only [count, Bool.toNat_eq_zero] using absent
      simp only [rename, word_back word none unmatched]
  | next word between rest ih =>
      simp only [count, Nat.add_eq_zero_iff, Bool.toNat_eq_zero] at absent
      obtain ⟨unmatched, others⟩ := absent
      simp only [rename, word_back word (some between) unmatched, ih others]

end Words

section

variable {text : List Char}

theorem replaceAll_eq_rename {old new : Identifier} (oldWord : old.IsWord)
    (noLongS : '\u017F' ∉ text) :
    old.replaceAll text new.chars = (Words.rename old new.chars (.ofText text)).text := by
  rw [← (Words.proper_ofText noLongS).replaceAll_text oldWord, Words.text_ofText]

theorem count_eq_count_ofText {identifier : Identifier} (spelled : identifier.IsWord)
    (noLongS : '\u017F' ∉ text) :
    identifier.count text = (Words.ofText text).count identifier := by
  rw [← (Words.proper_ofText noLongS).count_text spelled, Words.text_ofText]

theorem proper_renamed {old new : Identifier} (newWord : new.IsWord) (noLongS : '\u017F' ∉ text) :
    (Words.rename old new.chars (.ofText text)).Proper :=
  (Words.proper_ofText noLongS).rename fun c member => gluesBefore_of_isWordChar (newWord c member)

end

/-- In a text without a long s, renaming one word to another one leaves no occurrence of the old
word, adds its count to that of the new one, and changes the count of no third word. -/
theorem replaceAll_moves_counts {old new other : Identifier} (oldWord : old.IsWord)
    (newWord : new.IsWord) (otherWord : other.IsWord) (oldNew : Differ old new)
    (oldOther : Differ old other) (newOther : Differ new other) {text : List Char}
    (noLongS : '\u017F' ∉ text) :
    old.count (old.replaceAll text new.chars) = 0 ∧
    new.count (old.replaceAll text new.chars) = new.count text + old.count text ∧
    other.count (old.replaceAll text new.chars) = other.count text := by
  have proper := Words.proper_ofText noLongS
  have renamed : (Words.rename old new.chars (.ofText text)).Proper :=
    proper.rename fun c member => gluesBefore_of_isWordChar (newWord c member)
  have whole := Words.text_ofText text
  have made : old.replaceAll text new.chars = (Words.rename old new.chars (.ofText text)).text := by
    rw [← proper.replaceAll_text oldWord, whole]
  have counted : ∀ {identifier : Identifier}, identifier.IsWord →
      identifier.count text = (Words.ofText text).count identifier := by
    intro identifier spelled
    rw [← proper.count_text spelled, whole]
  obtain ⟨none, gained⟩ := Words.count_rename oldNew oldWord newWord (.ofText text)
  have kept := Words.count_rename_other oldOther newOther oldWord newWord otherWord (.ofText text)
  rw [made, renamed.count_text oldWord, renamed.count_text newWord, renamed.count_text otherWord,
    counted oldWord, counted newWord, counted otherWord]
  exact ⟨none, gained, kept⟩

def okWord : Identifier := ⟨"ok".toList, by decide⟩

def idWord : Identifier := ⟨"id".toList, by decide⟩

def keyWord : Identifier := ⟨"key".toList, by decide⟩

def kelvinText : List Char :=
  "select o\u212A, ok\u0130, \u0130OK, id, key from [ok]".toList

private theorem count_kelvinText :
    okWord.count kelvinText = 3 ∧ idWord.count kelvinText = 1 ∧ keyWord.count kelvinText = 1 := by
  cbv

/-- Three occurrences are renamed, one of them with a Kelvin sign in it and one behind a dotted
capital I; the one in front of such a letter does not stand alone. -/
theorem replaceAll_moves_counts_kelvinText :
    okWord.IsWord ∧ idWord.IsWord ∧ keyWord.IsWord ∧ Differ okWord idWord ∧
    Differ okWord keyWord ∧ Differ idWord keyWord ∧ '\u017F' ∉ kelvinText ∧
    okWord.count (okWord.replaceAll kelvinText idWord.chars) = 0 ∧
    idWord.count (okWord.replaceAll kelvinText idWord.chars) = 4 ∧
    keyWord.count (okWord.replaceAll kelvinText idWord.chars) = 1 := by
  have okSpelled : okWord.IsWord := by decide
  have idSpelled : idWord.IsWord := by decide
  have keySpelled : keyWord.IsWord := by decide
  have okId : Differ okWord idWord := by simp [Differ, okWord, idWord]
  have okKey : Differ okWord keyWord := by simp [Differ, okWord, keyWord]
  have idKey : Differ idWord keyWord := by simp [Differ, idWord, keyWord]
  have noLongS : '\u017F' ∉ kelvinText := by decide
  obtain ⟨lost, gained, kept⟩ :=
    replaceAll_moves_counts okSpelled idSpelled keySpelled okId okKey idKey noLongS
  obtain ⟨okCount, idCount, keyCount⟩ := count_kelvinText
  rw [okCount, idCount] at gained
  rw [keyCount] at kept
  exact ⟨okSpelled, idSpelled, keySpelled, okId, okKey, idKey, noLongS, lost, gained, kept⟩

/-- In a text without a long s and without a word, renaming another one to it and back leaves the text
with every occurrence of the other one in its own spelling. -/
theorem replaceAll_back {old new : Identifier} (oldWord : old.IsWord) (newWord : new.IsWord)
    {text : List Char} (noLongS : '\u017F' ∉ text) (absent : new.count text = 0) :
    new.replaceAll (old.replaceAll text new.chars) old.chars = old.replaceAll text old.chars := by
  have unknown : (Words.ofText text).count new = 0 := by
    rw [← count_eq_count_ofText newWord noLongS, absent]
  rw [replaceAll_eq_rename oldWord noLongS, replaceAll_eq_rename oldWord noLongS,
    (proper_renamed newWord noLongS).replaceAll_text newWord, Words.rename_back unknown]

def absentWord : Identifier := ⟨"new_1".toList, by decide⟩

/-- Both spellings of the word come back as its own one, behind and in front of what glues on one side
alone too. -/
theorem replaceAll_back_kelvinText :
    okWord.IsWord ∧ absentWord.IsWord ∧ '\u017F' ∉ kelvinText ∧ absentWord.count kelvinText = 0 ∧
    okWord.replaceAll kelvinText absentWord.chars =
      "select new_1, ok\u0130, \u0130new_1, id, key from [new_1]".toList ∧
    absentWord.replaceAll (okWord.replaceAll kelvinText absentWord.chars) okWord.chars =
      "select ok, ok\u0130, \u0130ok, id, key from [ok]".toList := by
  have okSpelled : okWord.IsWord := by decide
  have absentSpelled : absentWord.IsWord := by decide
  have noLongS : '\u017F' ∉ kelvinText := by decide
  have absent : absentWord.count kelvinText = 0 := by cbv
  have back := replaceAll_back okSpelled absentSpelled noLongS absent
  have there : okWord.replaceAll kelvinText absentWord.chars =
      "select new_1, ok\u0130, \u0130new_1, id, key from [new_1]".toList := by cbv
  have own : okWord.replaceAll kelvinText okWord.chars =
      "select ok, ok\u0130, \u0130ok, id, key from [ok]".toList := by cbv
  exact ⟨okSpelled, absentSpelled, noLongS, absent, there, back.trans own⟩

end SqlColumns.Identifier
