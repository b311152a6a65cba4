import SqlColumns.Proofs.Identifier.Pieces
import SqlColumns.Proofs.Text.Case

/-!
# Words of a text

A text is made of words and of the characters between them, where a word is as long as can be. An
identifier of word characters is found where a whole word matches it and the character behind the
word does not glue to it. A renaming to such an identifier puts words in the place of words, so it
moves the count of the one to the other and changes no other count.
-/

set_option autoImplicit false

namespace SqlColumns.Identifier

open Text

/-!
## Characters of words
-/

/-- An identifier of ASCII letters, ASCII digits and underscores alone. -/
def IsWord (identifier : Identifier) : Prop :=
  ∀ c ∈ identifier.chars, isWordChar c = true

instance : DecidablePred IsWord := fun identifier =>
  decidable_of_iff (identifier.chars.all isWordChar = true) List.all_eq_true

theorem ascii_of_isWordChar {c : Char} (word : isWordChar c = true) : c.toNat < 0x80 := by
  rw [isWordChar, Bool.or_eq_true, beq_iff_eq] at word
  rcases word with letter | rfl
  · exact ascii_of_isAlphanum letter
  · decide

private theorem ascii_forms : ∀ code < 0x80,
    isWordChar (Char.ofNat code) = true →
      foldChar (Char.ofNat code) = (Char.ofNat code).toLower ∧
      isWordChar (foldChar (Char.ofNat code)) = true ∧
      gluesBefore (Char.ofNat code) = true := by
  decide +kernel

private theorem ascii_folded : ∀ code < 0x80,
    isWordChar (foldChar (Char.ofNat code)) = true → gluesBefore (Char.ofNat code) = true := by
  decide +kernel

private theorem forms_of_isWordChar {c : Char} (word : isWordChar c = true) :
    foldChar c = c.toLower ∧ isWordChar (foldChar c) = true ∧ gluesBefore c = true := by
  obtain ⟨code, small, rfl⟩ := exists_eq_ofNat_of_ascii (ascii_of_isWordChar word)
  exact ascii_forms code small word

theorem foldChar_of_isWordChar {c : Char} (word : isWordChar c = true) : foldChar c = c.toLower :=
  (forms_of_isWordChar word).1

theorem isWordChar_foldChar {c : Char} (word : isWordChar c = true) :
    isWordChar (foldChar c) = true :=
  (forms_of_isWordChar word).2.1

theorem IsWord.isWordChar_of_mem {identifier : Identifier} (spelled : identifier.IsWord) {c : Char}
    (member : c ∈ identifier.chars.map foldChar) : isWordChar c = true := by
  obtain ⟨d, inside, rfl⟩ := List.mem_map.mp member
  exact isWordChar_foldChar (spelled d inside)

theorem gluesBefore_of_isWordChar {c : Char} (word : isWordChar c = true) :
    gluesBefore c = true :=
  (forms_of_isWordChar word).2.2

/-- What folds to a word character glues, but for the long s. -/
theorem gluesBefore_of_folded {c : Char} (noLongS : c ≠ '\u017F')
    (folded : isWordChar (foldChar c) = true) : gluesBefore c = true := by
  rcases ascii_of_foldChar (ascii_of_isWordChar folded) with ascii | rfl | longS
  · obtain ⟨code, small, rfl⟩ := exists_eq_ofNat_of_ascii ascii
    exact ascii_folded code small folded
  · decide
  · exact absurd longS noLongS

/-- What glues on the one side glues on the other; only the dotted capital I glues on one side
alone, and that is the other one. -/
theorem gluesAfter_of_gluesBefore {c : Char} (glues : gluesBefore c = true) :
    gluesAfter c = true := by
  unfold gluesBefore gluesAfter at *
  by_cases dotted : c = '\u0130'
  · subst dotted
    revert glues
    decide
  · rw [lowerChar, if_neg dotted] at glues ⊢
    exact glues

/-!
## Words and what is between them
-/

/-- A text from its first word on: words, which may be empty, with single characters between
them. -/
inductive Words where
  | last (word : List Char)
  | next (word : List Char) (between : Char) (rest : Words)

namespace Words

def text : Words → List Char
  | .last word => word
  | .next word between rest => word ++ between :: rest.text

/-- Words of characters that glue, and none of these between them. -/
inductive Proper : Words → Prop where
  | last {word : List Char} : (∀ c ∈ word, gluesBefore c = true) → Proper (.last word)
  | next {word : List Char} {between : Char} {rest : Words} :
      (∀ c ∈ word, gluesBefore c = true) → gluesBefore between = false →
      isWordChar (foldChar between) = false → Proper rest → Proper (.next word between rest)

def cons (c : Char) : Words → Words
  | .last word => .last (c :: word)
  | .next word between rest => .next (c :: word) between rest

def ofText : List Char → Words
  | [] => .last []
  | c :: rest => if gluesBefore c then (ofText rest).cons c else .next [] c (ofText rest)

theorem text_cons (c : Char) (words : Words) : (words.cons c).text = c :: words.text := by
  cases words <;> rfl

theorem text_ofText (text : List Char) : (ofText text).text = text := by
  induction text with
  | nil => rfl
  | cons c rest ih =>
      unfold ofText
      split
      · rw [text_cons, ih]
      · rw [Words.text, ih, List.nil_append]

theorem Proper.cons {c : Char} {words : Words} (glues : gluesBefore c = true)
    (proper : words.Proper) : (words.cons c).Proper := by
  cases proper with
  | last word =>
      exact .last (List.forall_mem_cons.mpr ⟨glues, word⟩)
  | next word apart unfolded rest =>
      exact .next (List.forall_mem_cons.mpr ⟨glues, word⟩) apart unfolded rest

theorem proper_ofText {text : List Char} (noLongS : '\u017F' ∉ text) : (ofText text).Proper := by
  induction text with
  | nil => exact .last (by simp)
  | cons c rest ih =>
      obtain ⟨own, others⟩ := not_or.mp fun either => noLongS (List.mem_cons.mpr either)
      unfold ofText
      split
      · next glues => exact (ih others).cons glues
      · next apart =>
          refine .next (by simp) (by simpa using apart) ?_ (ih others)
          rw [Bool.eq_false_iff]
          exact fun folded => apart (gluesBefore_of_folded (Ne.symm own) folded)

end Words

def takesWord (identifier : Identifier) (word : List Char) (behind : Option Char) : Bool :=
  decide (Alike word identifier.chars) && !behind.any gluesAfter

def wordPieces (identifier : Identifier) (word : List Char) (behind : Option Char) : List Piece :=
  if identifier.takesWord word behind then [.taken word] else word.map .passed

/-!
## The walk through a word
-/

section

variable {identifier : Identifier} {before : Option Char} {word rest : List Char}

/-- Nothing is found right behind a character that glues. -/
theorem occursAt?_of_gluesBefore {folded text : List Char} {c : Char}
    (glues : gluesBefore c = true) : occursAt? folded (some c) text = none := by
  cases occurs : occursAt? folded (some c) text with
  | none => rfl
  | some after =>
      obtain ⟨-, -, -, alone⟩ := occursAt?_eq_some_iff.mp occurs
      simp [standsAlone, glues] at alone

def EndsWord (text : List Char) : Prop :=
  ∀ c ∈ text.head?, isWordChar (foldChar c) = false

theorem occursAt?_of_endsWord (spelled : identifier.IsWord) (ends : EndsWord rest) :
    occursAt? (identifier.chars.map foldChar) before rest = none := by
  cases occurs : occursAt? (identifier.chars.map foldChar) before rest with
  | none => rfl
  | some after =>
      obtain ⟨found, rfl, alike, -⟩ := occursAt?_eq_some_iff.mp occurs
      cases found with
      | nil => exact absurd (List.map_eq_nil_iff.mp alike.symm) identifier.nonempty
      | cons c found =>
          have unfolded : isWordChar (foldChar c) = false := ends c (by simp)
          have member : foldChar c ∈ identifier.chars.map foldChar := by simp [← alike]
          rw [spelled.isWordChar_of_mem member] at unfolded
          cases unfolded

theorem pieces_of_endsWord (spelled : identifier.IsWord) (ends : EndsWord rest) :
    identifier.pieces before rest = identifier.pieces none rest := by
  cases rest with
  | nil => rw [pieces, pieces, piecesFrom_nil, piecesFrom_nil]
  | cons c rest =>
      rw [pieces, pieces, piecesFrom_of_none (occursAt?_of_endsWord spelled ends),
        piecesFrom_of_none (occursAt?_of_endsWord spelled ends)]

/-- What is found at the start of a word is the whole word. -/
theorem eq_word_of_occursAt? (spelled : identifier.IsWord)
    (glues : ∀ c ∈ word, gluesBefore c = true) (ends : EndsWord rest) {after : List Char}
    (occurs : occursAt? (identifier.chars.map foldChar) before (word ++ rest) = some after) :
    after = rest ∧ identifier.takesWord word rest.head? = true := by
  obtain ⟨found, split, alike, alone⟩ := occursAt?_eq_some_iff.mp occurs
  have behind : after.head?.any gluesAfter = false := by
    simp only [standsAlone, Bool.and_eq_true, Bool.not_eq_true'] at alone
    exact alone.2
  rcases List.append_eq_append_iff.mp split with ⟨more, rfl, rfl⟩ | ⟨left, rfl, rfl⟩
  · cases more with
    | nil =>
        refine ⟨rfl, ?_⟩
        rw [List.append_nil] at alike
        have matched : Alike word identifier.chars := alike
        simp only [List.nil_append] at behind ⊢
        simp [takesWord, matched, behind]
    | cons c more =>
        -- The identifier would go on behind the word.
        have unfolded : isWordChar (foldChar c) = false := ends c (by simp)
        have member : foldChar c ∈ identifier.chars.map foldChar := by simp [← alike]
        rw [spelled.isWordChar_of_mem member] at unfolded
        cases unfolded
  · cases left with
    | nil =>
        refine ⟨rfl, ?_⟩
        have matched : Alike found identifier.chars := alike
        simp only [List.nil_append, List.append_nil] at behind ⊢
        simp [takesWord, matched, behind]
    | cons c left =>
        -- The word would go on behind the identifier.
        have own := gluesAfter_of_gluesBefore (glues c (by simp))
        simp [own] at behind

/-- Behind the first character of a word, all the others are passed. -/
theorem pieces_behind_word {c : Char} (spelled : identifier.IsWord)
    (first : gluesBefore c = true) (glues : ∀ d ∈ word, gluesBefore d = true)
    (ends : EndsWord rest) :
    identifier.pieces (some c) (word ++ rest) =
      word.map .passed ++ identifier.pieces none rest := by
  induction word generalizing c with
  | nil => exact pieces_of_endsWord spelled ends
  | cons d word ih =>
      obtain ⟨own, others⟩ := List.forall_mem_cons.mp glues
      have step : identifier.pieces (some c) (d :: (word ++ rest)) =
          .passed d :: identifier.pieces (some d) (word ++ rest) :=
        piecesFrom_of_none (occursAt?_of_gluesBefore first)
      rw [List.cons_append, step, ih own others, List.map_cons, List.cons_append]

theorem pieces_word (spelled : identifier.IsWord) (apart : before.any gluesBefore = false)
    (glues : ∀ c ∈ word, gluesBefore c = true) (ends : EndsWord rest) :
    identifier.pieces before (word ++ rest) =
      identifier.wordPieces word rest.head? ++ identifier.pieces none rest := by
  unfold wordPieces
  split
  · next takes =>
      simp only [takesWord, Bool.and_eq_true, decide_eq_true_eq, Bool.not_eq_true'] at takes
      obtain ⟨matched, behind⟩ := takes
      have occurs : occursAt? (identifier.chars.map foldChar) before (word ++ rest) = some rest :=
        occursAt?_eq_some_iff.mpr ⟨word, rfl, matched, by simp [standsAlone, apart, behind]⟩
      have long : (identifier.chars.map foldChar).length = word.length := by
        rw [List.length_map, matched.length_eq]
      rw [pieces, piecesFrom_of_some occurs, long, List.take_left]
      exact congrArg _ (pieces_of_endsWord spelled ends)
  · next refused =>
      cases word with
      | nil => exact pieces_of_endsWord spelled ends
      | cons c word =>
          -- Nothing is found at the start of the word, and behind it every place is glued to.
          obtain ⟨own, others⟩ := List.forall_mem_cons.mp glues
          have none : occursAt? (identifier.chars.map foldChar) before (c :: (word ++ rest)) =
              none := by
            cases occurs : occursAt? (identifier.chars.map foldChar) before (c :: (word ++ rest)) with
            | none => rfl
            | some after => exact absurd (eq_word_of_occursAt? spelled glues ends occurs).2 refused
          have step : identifier.pieces before (c :: (word ++ rest)) =
              .passed c :: identifier.pieces (some c) (word ++ rest) :=
            piecesFrom_of_none none
          rw [List.cons_append, step, pieces_behind_word spelled own others ends, List.map_cons,
            List.cons_append]

end

/-!
## Occurrences in words
-/

namespace Words

variable {identifier : Identifier}

def pieces (identifier : Identifier) : Words → List Piece
  | .last word => identifier.wordPieces word none
  | .next word between rest =>
      identifier.wordPieces word (some between) ++ .passed between :: rest.pieces identifier

def count (identifier : Identifier) : Words → Nat
  | .last word => (identifier.takesWord word none).toNat
  | .next word between rest =>
      (identifier.takesWord word (some between)).toNat + rest.count identifier

def rename (identifier : Identifier) (replacement : List Char) : Words → Words
  | .last word => .last (if identifier.takesWord word none then replacement else word)
  | .next word between rest =>
      .next (if identifier.takesWord word (some between) then replacement else word) between
        (rest.rename identifier replacement)

/-- The walk through a text is the walk through its words. -/
theorem Proper.pieces_text {words : Words} (proper : words.Proper) (spelled : identifier.IsWord)
    {before : Option Char} (apart : before.any gluesBefore = false) :
    identifier.pieces before words.text = words.pieces identifier := by
  induction proper generalizing before with
  | @last word glues =>
      have ends : EndsWord [] := by simp [EndsWord]
      have whole := pieces_word spelled apart glues ends
      rw [List.append_nil, Identifier.pieces, Identifier.pieces, piecesFrom_nil,
        List.append_nil] at whole
      exact whole
  | @next word between rest glues own unfolded _ ih =>
      have ends : EndsWord (between :: rest.text) := by simpa [EndsWord] using unfolded
      have step : identifier.pieces none (between :: rest.text) =
          .passed between :: identifier.pieces (some between) rest.text :=
        piecesFrom_of_none (occursAt?_of_endsWord spelled ends)
      rw [text, pieces_word spelled apart glues ends, step, ih (by simpa using own)]
      rfl

theorem countP_wordPieces (identifier : Identifier) (word : List Char) (behind : Option Char) :
    (identifier.wordPieces word behind).countP Piece.isTaken =
      (identifier.takesWord word behind).toNat := by
  unfold wordPieces
  split
  · next takes => simp [takes, Piece.isTaken]
  · next refused =>
      have none : identifier.takesWord word behind = false := by simpa using refused
      rw [none, Bool.toNat_false, List.countP_map, List.countP_eq_zero]
      simp [Piece.isTaken]

theorem flatMap_wordPieces (identifier : Identifier) (word replacement : List Char)
    (behind : Option Char) :
    (identifier.wordPieces word behind).flatMap (Piece.replaced replacement) =
      if identifier.takesWord word behind then replacement else word := by
  unfold wordPieces
  split
  · simp [Piece.replaced]
  · simp [List.flatMap_map, Piece.replaced]

theorem Proper.count_text {words : Words} (proper : words.Proper) (spelled : identifier.IsWord) :
    identifier.count words.text = words.count identifier := by
  rw [count_eq_countP_pieces, proper.pieces_text spelled rfl]
  induction words with
  | last word => exact countP_wordPieces identifier word none
  | next word between rest ih =>
      cases proper with
      | next _ _ _ others =>
          have passed : Piece.isTaken (.passed between) ≠ true := by simp [Piece.isTaken]
          rw [pieces, List.countP_append, countP_wordPieces, List.countP_cons_of_neg passed,
            ih others, count]

theorem Proper.replaceAll_text {words : Words} (proper : words.Proper)
    (spelled : identifier.IsWord) (replacement : List Char) :
    identifier.replaceAll words.text replacement = (words.rename identifier replacement).text := by
  rw [replaceAll_eq_flatMap_pieces, proper.pieces_text spelled rfl]
  induction words with
  | last word => exact flatMap_wordPieces identifier word replacement none
  | next word between rest ih =>
      cases proper with
      | next _ _ _ others =>
          rw [pieces, List.flatMap_append, flatMap_wordPieces, List.flatMap_cons, ih others, rename,
            text]
          rfl

/-- Words in the place of words leave the rest as it is. -/
theorem Proper.rename {words : Words} (proper : words.Proper) {replacement : List Char}
    (glues : ∀ c ∈ replacement, gluesBefore c = true) :
    (words.rename identifier replacement).Proper := by
  have kept : ∀ {word : List Char} (behind : Option Char), (∀ c ∈ word, gluesBefore c = true) →
      ∀ c ∈ if identifier.takesWord word behind then replacement else word,
        gluesBefore c = true := by
    intro word behind own
    split
    · exact glues
    · exact own
  induction proper with
  | last own => exact .last (kept none own)
  | next own apart unfolded _ ih => exact .next (kept (some _) own) apart unfolded ih

end Words

end SqlColumns.Identifier
