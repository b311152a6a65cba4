import SqlColumns.Json.Parser
import SqlColumns.Json.Printer

/-!
# Reading the text of a value

The compact text of a value and the pretty one differ in the blanks between their parts. With any such
blanks a text reads back as its value, whatever follows it, as long as a number at its end is not
continued by what follows.
-/

set_option autoImplicit false

namespace SqlColumns.Json

/-!
## Strings
-/

theorem unit?_hexDigit : ∀ code < 0x20,
    unit? '0' '0' (hexDigit (code / 16)) (hexDigit (code % 16)) = some code := by
  decide

theorem readString_escapeChar (done : List Char) (c : Char) (rest : List Char) :
    readString done (escapeChar c ++ rest) = readString (c :: done) rest := by
  unfold escapeChar
  split
  · next quote => simp [quote, readString, shortEscape?]
  split
  · next backslash => simp [backslash, readString, shortEscape?]
  split
  · next lineFeed => simp [lineFeed, readString, shortEscape?]
  split
  · next carriage => simp [carriage, readString, shortEscape?]
  split
  · next tab => simp [tab, readString, shortEscape?]
  split
  · next back => simp [back, readString, shortEscape?]
  split
  · next feed => simp [feed, readString, shortEscape?]
  split
  · next control =>
      have plain : ¬ (0xD800 ≤ c.toNat ∧ c.toNat < 0xDC00) := by omega
      have valid : c.toNat.isValidChar := .inl (by omega)
      simp only [List.cons_append, List.nil_append, readString, unit?_hexDigit c.toNat control,
        plain, if_false, valid, if_true, Char.ofNat_toNat]
  · next noQuote noBackslash _ _ _ _ _ printed =>
      rw [List.cons_append, List.nil_append, readString]
      · simp [printed, noBackslash]
      all_goals simp_all

theorem readString_escaped (done : List Char) (text rest : List Char) :
    readString done (text.flatMap escapeChar ++ '"' :: rest) =
      some (String.ofList (done.reverse ++ text), rest) := by
  induction text generalizing done with
  | nil => simp [readString]
  | cons c text ih =>
      rw [List.flatMap_cons, List.append_assoc, readString_escapeChar, ih, List.reverse_cons,
        List.append_assoc, List.singleton_append]

/-- A printed string is a quote and what is read behind it. -/
theorem stringChars_append (value : String) (rest : List Char) :
    ∃ text, stringChars value ++ rest = '"' :: text ∧ readString [] text = some (value, rest) := by
  refine ⟨value.toList.flatMap escapeChar ++ '"' :: rest, by simp [stringChars], ?_⟩
  rw [readString_escaped, List.reverse_nil, List.nil_append, String.ofList_toList]

/-!
## Numbers
-/

/-- A text that no number goes on into. -/
def Ends (rest : List Char) : Prop :=
  ∀ c ∈ rest.head?, c.isDigit = false ∧ c ≠ '.' ∧ c ≠ 'e' ∧ c ≠ 'E'

theorem ends_nil : Ends [] := by
  simp [Ends]

theorem ends_comma (rest : List Char) : Ends (',' :: rest) := by
  simp [Ends]

def Gaps (text : List Char) : Prop :=
  ∀ c ∈ text, isGap c = true

theorem ends_gaps {gaps rest : List Char} (blank : Gaps gaps) (ends : Ends rest) :
    Ends (gaps ++ rest) := by
  cases gaps with
  | nil => exact ends
  | cons c gaps =>
      have own := blank c List.mem_cons_self
      simp only [isGap, Bool.or_eq_true, beq_iff_eq] at own
      rcases own with ((rfl | rfl) | rfl) | rfl <;> simp [Ends]

theorem ends_bracket (rest : List Char) : Ends (']' :: rest) := by
  simp [Ends]

theorem ends_brace (rest : List Char) : Ends ('}' :: rest) := by
  simp [Ends]

theorem isDigit_of_mem_natChars {value : Nat} {c : Char} (member : c ∈ natChars value) :
    c.isDigit = true :=
  Nat.isDigit_of_mem_toDigits (by decide) (by decide) member

theorem digitsValue_natChars (value : Nat) : digitsValue (natChars value) = value := by
  have shifted : (fun value c => value * 10 + (c.toNat - '0'.toNat)) =
      fun (value : Nat) (c : Char) => 10 * value + (c.toNat - '0'.toNat) := by
    funext value c
    rw [Nat.mul_comm]
  rw [digitsValue, shifted]
  exact Nat.ofDigitChars_ten_toDigits

theorem head?_natChars {value : Nat} (positive : 0 < value) :
    (natChars value).head? ≠ some '0' := by
  induction value using Nat.strongRecOn with
  | ind value ih =>
      rw [natChars, Nat.toDigits_eq_if (by decide)]
      split
      · next small =>
          have digits : ∀ digit < 10, 0 < digit → [digit.digitChar].head? ≠ some '0' := by decide
          exact digits value small positive
      · next large =>
          have first := ih (value / 10) (by omega) (by omega)
          rw [natChars] at first
          obtain ⟨c, more, own⟩ :=
            List.exists_cons_of_ne_nil (Nat.toDigits_ne_nil (n := value / 10) (b := 10))
          rw [own] at first ⊢
          exact first

theorem readNat_natChars (value : Nat) {rest : List Char} (ends : Ends rest) :
    readNat (natChars value ++ rest) = some (value, rest) := by
  have stops : rest.takeWhile Char.isDigit = [] ∧ rest.dropWhile Char.isDigit = rest := by
    cases rest with
    | nil => exact ⟨rfl, rfl⟩
    | cons c rest =>
        have other := (ends c rfl).1
        simp [other]
  have digits : (natChars value ++ rest).takeWhile Char.isDigit = natChars value := by
    rw [List.takeWhile_append_of_pos fun c member => isDigit_of_mem_natChars member, stops.1,
      List.append_nil]
  have behind : (natChars value ++ rest).dropWhile Char.isDigit = rest := by
    rw [List.dropWhile_append_of_pos fun c member => isDigit_of_mem_natChars member, stops.2]
  unfold readNat
  rw [digits, behind]
  split
  · next none => exact absurd none Nat.toDigits_ne_nil
  · next zero =>
      have own := digitsValue_natChars value
      rw [zero] at own
      rw [← own]
      rfl
  · next first more zero =>
      by_cases positive : 0 < value
      · exact absurd (by rw [zero]; rfl) (head?_natChars positive)
      · obtain rfl : value = 0 := by omega
        cases zero
        exact absurd rfl more
  · rw [digitsValue_natChars]

theorem intChars_cons (value : Int) :
    ∃ c more, intChars value = c :: more ∧ (c.isDigit = true ∨ c = '-') := by
  cases value with
  | ofNat value =>
      obtain ⟨c, more, own⟩ :=
        List.exists_cons_of_ne_nil (Nat.toDigits_ne_nil (n := value) (b := 10))
      exact ⟨c, more, own, .inl (isDigit_of_mem_natChars (own ▸ List.mem_cons_self))⟩
  | negSucc value => exact ⟨'-', natChars (value + 1), rfl, .inr rfl⟩

/-- What follows a number does not make a fraction of it. -/
private theorem whole (number : Int) (rest : List Char) : Ends rest → (match rest with
    | '.' :: _ | 'e' :: _ | 'E' :: _ => none
    | _ => some (number, rest)) = some (number, rest) := by
  intro ends
  split
  · exact absurd rfl (ends _ rfl).2.1
  · exact absurd rfl (ends _ rfl).2.2.1
  · exact absurd rfl (ends _ rfl).2.2.2
  · rfl

theorem readInt_intChars (value : Int) {rest : List Char} (ends : Ends rest) :
    readInt (intChars value ++ rest) = some (value, rest) := by
  unfold readInt
  cases value with
  | ofNat value =>
      split
      · next more sign =>
          obtain ⟨c, others, own⟩ :=
            List.exists_cons_of_ne_nil (Nat.toDigits_ne_nil (n := value) (b := 10))
          have digit : c.isDigit = true := isDigit_of_mem_natChars (own ▸ List.mem_cons_self)
          rw [intChars, natChars, own, List.cons_append, List.cons.injEq] at sign
          rw [sign.1] at digit
          cases digit
      · rw [intChars, readNat_natChars value ends]
        exact whole value rest ends
  | negSucc value =>
      rw [intChars, List.cons_append]
      simp only [readNat_natChars (value + 1) ends]
      exact whole (-((value + 1 : Nat) : Int)) rest ends

/-!
## Blanks between parts
-/

/-- The blanks of a text: those before every item, member and closing bracket of a level, and those
behind a colon. -/
structure Spacing where
  before : Nat → List Char
  behindColon : List Char
  before_gaps : ∀ level, Gaps (before level)
  colon_gaps : Gaps behindColon

def compactly : Spacing :=
  ⟨fun _ => [], [], fun _ => nofun, nofun⟩

theorem gaps_lineBreak (level : Nat) : Gaps (lineBreak level) :=
  List.forall_mem_cons.mpr ⟨by decide, fun _ blank => List.eq_of_mem_replicate blank ▸ by decide⟩

def prettily : Spacing :=
  ⟨lineBreak, [' '], gaps_lineBreak, List.forall_mem_singleton.mpr (by decide)⟩

mutual

def spacedChars (spacing : Spacing) (level : Nat) : Json → List Char
  | .null => ['n', 'u', 'l', 'l']
  | .bool true => ['t', 'r', 'u', 'e']
  | .bool false => ['f', 'a', 'l', 's', 'e']
  | .number value => intChars value
  | .string value => stringChars value
  | .array [] => ['[', ']']
  | .array (item :: items) =>
      '[' :: spacedItems spacing (level + 1) (item :: items) ++ (spacing.before level ++ [']'])
  | .object [] => ['{', '}']
  | .object (member :: members) =>
      '{' :: spacedMembers spacing (level + 1) (member :: members) ++
        (spacing.before level ++ ['}'])

def spacedItems (spacing : Spacing) (level : Nat) : List Json → List Char
  | [] => []
  | [item] => spacing.before level ++ spacedChars spacing level item
  | item :: items =>
      spacing.before level ++ spacedChars spacing level item ++ ',' :: spacedItems spacing level items

def spacedMembers (spacing : Spacing) (level : Nat) : List (String × Json) → List Char
  | [] => []
  | [(key, value)] =>
      spacing.before level ++ (stringChars key ++ ':' :: spacing.behindColon ++
        spacedChars spacing level value)
  | (key, value) :: members =>
      spacing.before level ++ (stringChars key ++ ':' :: spacing.behindColon ++
        spacedChars spacing level value ++ ',' :: spacedMembers spacing level members)

end

mutual

theorem compactChars_eq_spacedChars (level : Nat) (value : Json) :
    compactChars value = spacedChars compactly level value := by
  match value with
  | .null | .bool true | .bool false | .number _ | .string _ =>
      rw [compactChars, spacedChars]
  | .array [] | .object [] => rfl
  | .array (item :: items) =>
      rw [compactChars, spacedChars, compactItems_eq_spacedItems (level + 1) (item :: items)]
      rfl
  | .object (member :: members) =>
      rw [compactChars, spacedChars, compactMembers_eq_spacedMembers (level + 1) (member :: members)]
      rfl

theorem compactItems_eq_spacedItems (level : Nat) (items : List Json) :
    compactItems items = spacedItems compactly level items := by
  match items with
  | [] => rw [compactItems, spacedItems]
  | [item] =>
      rw [compactItems, spacedItems, compactChars_eq_spacedChars level item]
      rfl
  | item :: next :: items =>
      rw [compactItems, spacedItems, compactChars_eq_spacedChars level item,
        compactItems_eq_spacedItems level (next :: items)]
      · rfl
      all_goals simp

theorem compactMembers_eq_spacedMembers (level : Nat) (members : List (String × Json)) :
    compactMembers members = spacedMembers compactly level members := by
  match members with
  | [] => rw [compactMembers, spacedMembers]
  | [(key, value)] =>
      rw [compactMembers, spacedMembers, compactChars_eq_spacedChars level value]
      simp [compactly]
  | (key, value) :: next :: members =>
      rw [compactMembers, spacedMembers, compactChars_eq_spacedChars level value,
        compactMembers_eq_spacedMembers level (next :: members)]
      · simp [compactly]
      all_goals simp

end

mutual

theorem prettyChars_eq_spacedChars (level : Nat) (value : Json) :
    prettyChars level value = spacedChars prettily level value := by
  match value with
  | .null | .bool true | .bool false | .number _ | .string _ | .array [] | .object [] =>
      rw [prettyChars, spacedChars]
  | .array (item :: items) =>
      rw [prettyChars, spacedChars, prettyItems_eq_spacedItems (level + 1) (item :: items),
        List.append_assoc]
      rfl
  | .object (member :: members) =>
      rw [prettyChars, spacedChars, prettyMembers_eq_spacedMembers (level + 1) (member :: members),
        List.append_assoc]
      rfl

theorem prettyItems_eq_spacedItems (level : Nat) (items : List Json) :
    prettyItems level items = spacedItems prettily level items := by
  match items with
  | [] => rw [prettyItems, spacedItems]
  | [item] =>
      rw [prettyItems, spacedItems, prettyChars_eq_spacedChars level item]
      rfl
  | item :: next :: items =>
      rw [prettyItems, spacedItems, prettyChars_eq_spacedChars level item,
        prettyItems_eq_spacedItems level (next :: items)]
      · rfl
      all_goals simp

theorem prettyMembers_eq_spacedMembers (level : Nat) (members : List (String × Json)) :
    prettyMembers level members = spacedMembers prettily level members := by
  match members with
  | [] => rw [prettyMembers, spacedMembers]
  | [(key, value)] =>
      rw [prettyMembers, spacedMembers, prettyChars_eq_spacedChars level value]
      simp [prettily]
  | (key, value) :: next :: members =>
      rw [prettyMembers, spacedMembers, prettyChars_eq_spacedChars level value,
        prettyMembers_eq_spacedMembers level (next :: members)]
      · simp [prettily]
      all_goals simp

end

/-!
## Values
-/

theorem skipGaps_cons {c : Char} (solid : isGap c = false) (rest : List Char) :
    skipGaps (c :: rest) = c :: rest := by
  simp [skipGaps, solid]

theorem skipGaps_append {gaps : List Char} (blank : Gaps gaps) (rest : List Char) :
    skipGaps (gaps ++ rest) = skipGaps rest :=
  List.dropWhile_append_of_pos blank

/-- Blanks before a value are passed over. -/
theorem readValue_gaps {gaps : List Char} (blank : Gaps gaps) (fuel : Nat) (text : List Char) :
    readValue fuel (gaps ++ text) = readValue fuel text := by
  cases fuel with
  | zero => simp only [readValue]
  | succ fuel => simp only [readValue, skipGaps_append blank]

theorem ne_of_numeric {c : Char} (numeric : c.isDigit = true ∨ c = '-') :
    ∀ special ∈ [' ', '\n', '\r', '\t', 'n', 't', 'f', '"', '[', '{', ']'], c ≠ special := by
  rintro special member rfl
  rcases numeric with digit | rfl
  · have none : ∀ special ∈ [' ', '\n', '\r', '\t', 'n', 't', 'f', '"', '[', '{', ']'],
        special.isDigit = false := by simp
    rw [none c member] at digit
    cases digit
  · revert member
    decide

/-- No text of a value starts with a blank or a closing bracket. -/
theorem spacedChars_cons (spacing : Spacing) (level : Nat) (value : Json) :
    ∃ c more, spacedChars spacing level value = c :: more ∧ isGap c = false ∧ c ≠ ']' := by
  match value with
  | .null => exact ⟨'n', ['u', 'l', 'l'], rfl, by decide, by decide⟩
  | .bool true => exact ⟨'t', ['r', 'u', 'e'], rfl, by decide, by decide⟩
  | .bool false => exact ⟨'f', ['a', 'l', 's', 'e'], rfl, by decide, by decide⟩
  | .number value =>
      obtain ⟨c, more, own, numeric⟩ := intChars_cons value
      have other := ne_of_numeric numeric
      exact ⟨c, more, own, by simp [isGap, other], other _ (by decide)⟩
  | .string value => exact ⟨'"', _, rfl, by decide, by decide⟩
  | .array [] | .array (_ :: _) => exact ⟨'[', _, rfl, by decide, by decide⟩
  | .object [] | .object (_ :: _) => exact ⟨'{', _, rfl, by decide, by decide⟩

theorem readValue_number (fuel : Nat) (value : Int) {rest : List Char} (ends : Ends rest) :
    readValue (fuel + 1) (intChars value ++ rest) = some (.number value, rest) := by
  obtain ⟨c, more, own, numeric⟩ := intChars_cons value
  have read := readInt_intChars value ends
  have other := ne_of_numeric numeric
  rw [own, List.cons_append] at read ⊢
  rw [readValue, skipGaps_cons (by simp [isGap, other])]
  split <;> first
    | (next same => exact absurd (List.cons.inj same).1 (other _ (by decide)))
    | rw [read, Option.map_some]

theorem readValue_string (fuel : Nat) (value : String) (rest : List Char) :
    readValue (fuel + 1) (stringChars value ++ rest) = some (.string value, rest) := by
  obtain ⟨text, printed, read⟩ := stringChars_append value rest
  rw [printed, readValue, skipGaps_cons (by decide)]
  simp only [read, Option.map_some]

theorem readValue_array {fuel : Nat} {c : Char} {text more rest : List Char} {items : List Json}
    (first : skipGaps text = c :: more) (other : c ≠ ']')
    (read : readItems fuel text = some (items, rest)) :
    readValue (fuel + 1) ('[' :: text) = some (.array items, rest) := by
  rw [readValue, skipGaps_cons (by decide)]
  simp only [first]
  split
  · next same => exact absurd (List.cons.inj same).1 other
  · rw [read, Option.map_some]

theorem readItems_last {fuel : Nat} {gaps text rest : List Char} {item : Json} (blank : Gaps gaps)
    (read : readValue fuel text = some (item, gaps ++ ']' :: rest)) :
    readItems (fuel + 1) text = some ([item], rest) := by
  rw [readItems, read]
  simp only [Option.bind_eq_bind, Option.bind_some, skipGaps_append blank,
    skipGaps_cons (show isGap ']' = false by decide)]
  rfl

theorem readItems_more {fuel : Nat} {text behind rest : List Char} {item : Json}
    {items : List Json} (read : readValue fuel text = some (item, ',' :: behind))
    (others : readItems fuel behind = some (items, rest)) :
    readItems (fuel + 1) text = some (item :: items, rest) := by
  rw [readItems, read]
  change (readItems fuel behind >>= fun read => pure (item :: read.1, read.2)) = _
  rw [others]
  rfl

theorem readValue_object {fuel : Nat} {text more rest : List Char} {members : List (String × Json)}
    (first : skipGaps text = '"' :: more) (read : readMembers fuel text = some (members, rest)) :
    readValue (fuel + 1) ('{' :: text) = some (.object members, rest) := by
  rw [readValue, skipGaps_cons (by decide)]
  simp only [first, read, Option.map_some]
  rfl

section Members

variable {fuel : Nat} {before colon text gaps behind rest : List Char} {value : Json}
  {members : List (String × Json)}

theorem readMembers_last (key : String) (blank : Gaps before) (space : Gaps colon)
    (line : Gaps gaps) (read : readValue fuel text = some (value, gaps ++ '}' :: rest)) :
    readMembers (fuel + 1) (before ++ (stringChars key ++ ':' :: colon ++ text)) =
      some ([(key, value)], rest) := by
  obtain ⟨written, printed, name⟩ := stringChars_append key (':' :: (colon ++ text))
  rw [List.append_assoc, List.cons_append, printed, readMembers, skipGaps_append blank,
    skipGaps_cons (by decide)]
  simp only [name, Option.bind_eq_bind, Option.bind_some,
    skipGaps_cons (show isGap ':' = false by decide), readValue_gaps space, read,
    skipGaps_append line, skipGaps_cons (show isGap '}' = false by decide)]
  rfl

theorem readMembers_more (key : String) (blank : Gaps before) (space : Gaps colon)
    (read : readValue fuel text = some (value, ',' :: behind))
    (others : readMembers fuel behind = some (members, rest)) :
    readMembers (fuel + 1) (before ++ (stringChars key ++ ':' :: colon ++ text)) =
      some ((key, value) :: members, rest) := by
  obtain ⟨written, printed, name⟩ := stringChars_append key (':' :: (colon ++ text))
  rw [List.append_assoc, List.cons_append, printed, readMembers, skipGaps_append blank,
    skipGaps_cons (by decide)]
  simp only [name, Option.bind_eq_bind, Option.bind_some,
    skipGaps_cons (show isGap ':' = false by decide), readValue_gaps space, read,
    skipGaps_cons (show isGap ',' = false by decide), others]
  rfl

end Members

theorem skipGaps_spacedItems (spacing : Spacing) (level : Nat) (item : Json) (items : List Json)
    (rest : List Char) :
    ∃ c more, skipGaps (spacedItems spacing level (item :: items) ++ rest) = c :: more ∧ c ≠ ']' := by
  obtain ⟨c, more, own, solid, other⟩ := spacedChars_cons spacing level item
  cases items with
  | nil =>
      refine ⟨c, more ++ rest, ?_, other⟩
      rw [spacedItems, own, List.append_assoc, skipGaps_append (spacing.before_gaps level)]
      exact skipGaps_cons solid _
  | cons next items =>
      refine ⟨c, more ++ (',' :: spacedItems spacing level (next :: items) ++ rest), ?_, other⟩
      rw [spacedItems, own, List.append_assoc, List.append_assoc,
        skipGaps_append (spacing.before_gaps level)]
      · exact skipGaps_cons solid _
      · simp

theorem skipGaps_spacedMembers (spacing : Spacing) (level : Nat) (member : String × Json)
    (members : List (String × Json)) (rest : List Char) :
    ∃ more, skipGaps (spacedMembers spacing level (member :: members) ++ rest) = '"' :: more := by
  obtain ⟨key, value⟩ := member
  cases members with
  | nil =>
      rw [spacedMembers, List.append_assoc, skipGaps_append (spacing.before_gaps level)]
      exact ⟨_, skipGaps_cons (by decide) _⟩
  | cons next members =>
      rw [spacedMembers, List.append_assoc, skipGaps_append (spacing.before_gaps level)]
      · exact ⟨_, skipGaps_cons (by decide) _⟩
      · simp

/-!
The fuel has to cover the length of what is printed: every value, item and member takes one of it and
at least one character.
-/

mutual

theorem readValue_spacedChars (spacing : Spacing) (level : Nat) (value : Json) {fuel : Nat}
    {rest : List Char} (enough : (spacedChars spacing level value).length ≤ fuel)
    (ends : Ends rest) :
    readValue fuel (spacedChars spacing level value ++ rest) = some (value, rest) := by
  obtain ⟨c, more, own, -, -⟩ := spacedChars_cons spacing level value
  obtain ⟨fuel, rfl⟩ : ∃ less, fuel = less + 1 :=
    Nat.exists_eq_add_one.mpr (by rw [own, List.length_cons] at enough; omega)
  match value with
  | .null | .bool true | .bool false | .array [] | .object [] =>
      rw [spacedChars, readValue]
      rfl
  | .number value => exact readValue_number fuel value ends
  | .string value => exact readValue_string fuel value rest
  | .array (item :: items) =>
      have room : (spacedItems spacing (level + 1) (item :: items)).length < fuel := by
        simp only [spacedChars, List.length_append, List.length_cons, List.length_nil] at enough
        omega
      have read := readItems_spacedItems spacing (level + 1) (item :: items) (List.cons_ne_nil _ _)
        rest (spacing.before_gaps level) room
      obtain ⟨first, others, found, other⟩ := skipGaps_spacedItems spacing (level + 1) item items
        (spacing.before level ++ ']' :: rest)
      rw [spacedChars]
      simp only [List.cons_append, List.append_assoc, List.nil_append]
      exact readValue_array found other read
  | .object (member :: members) =>
      have room : (spacedMembers spacing (level + 1) (member :: members)).length ≤ fuel := by
        simp only [spacedChars, List.length_append, List.length_cons, List.length_nil] at enough
        omega
      have read := readMembers_spacedMembers spacing (level + 1) (member :: members)
        (List.cons_ne_nil _ _) rest (spacing.before_gaps level) room
      obtain ⟨others, found⟩ := skipGaps_spacedMembers spacing (level + 1) member members
        (spacing.before level ++ '}' :: rest)
      rw [spacedChars]
      simp only [List.cons_append, List.append_assoc, List.nil_append]
      exact readValue_object found read

theorem readItems_spacedItems (spacing : Spacing) (level : Nat) (items : List Json)
    (some : items ≠ []) {fuel : Nat} {gaps : List Char} (rest : List Char) (line : Gaps gaps)
    (enough : (spacedItems spacing level items).length < fuel) :
    readItems fuel (spacedItems spacing level items ++ (gaps ++ ']' :: rest)) =
      .some (items, rest) := by
  obtain ⟨fuel, rfl⟩ : ∃ less, fuel = less + 1 := Nat.exists_eq_add_one.mpr (by omega)
  have before := spacing.before_gaps level
  match items with
  | [] => exact absurd rfl some
  | [item] =>
      rw [spacedItems] at enough ⊢
      simp only [List.length_append] at enough
      rw [List.append_assoc]
      refine readItems_last line ((readValue_gaps before fuel _).trans ?_)
      exact readValue_spacedChars spacing level item (by omega) (ends_gaps line (ends_bracket rest))
  | item :: next :: items =>
      rw [spacedItems] at enough ⊢
      · simp only [List.length_append, List.length_cons] at enough
        rw [List.append_assoc, List.append_assoc, List.cons_append]
        refine readItems_more ((readValue_gaps before fuel _).trans ?_)
          (readItems_spacedItems spacing level (next :: items) (List.cons_ne_nil _ _) rest line
            (by omega))
        exact readValue_spacedChars spacing level item (by omega) (ends_comma _)
      all_goals simp

theorem readMembers_spacedMembers (spacing : Spacing) (level : Nat)
    (members : List (String × Json)) (some : members ≠ []) {fuel : Nat} {gaps : List Char}
    (rest : List Char) (line : Gaps gaps)
    (enough : (spacedMembers spacing level members).length ≤ fuel) :
    readMembers fuel (spacedMembers spacing level members ++ (gaps ++ '}' :: rest)) =
      .some (members, rest) := by
  have before := spacing.before_gaps level
  have space := spacing.colon_gaps
  match members with
  | [] => exact absurd rfl some
  | [(key, value)] =>
      rw [spacedMembers] at enough ⊢
      simp only [List.length_append, List.length_cons] at enough
      obtain ⟨fuel, rfl⟩ : ∃ less, fuel = less + 1 := Nat.exists_eq_add_one.mpr (by omega)
      rw [List.append_assoc, List.append_assoc]
      refine readMembers_last key before space line ?_
      exact readValue_spacedChars spacing level value (by omega) (ends_gaps line (ends_brace rest))
  | (key, value) :: next :: members =>
      rw [spacedMembers] at enough ⊢
      · simp only [List.length_append, List.length_cons] at enough
        obtain ⟨fuel, rfl⟩ : ∃ less, fuel = less + 1 := Nat.exists_eq_add_one.mpr (by omega)
        rw [List.append_assoc, List.append_assoc, List.append_assoc, List.cons_append]
        refine readMembers_more key before space
          (readValue_spacedChars spacing level value (by omega) (ends_comma _))
          (readMembers_spacedMembers spacing level (next :: members) (List.cons_ne_nil _ _) rest line
            (by omega))
      all_goals simp

end

/-!
## Depth
-/

section Depth

variable {items : List Json} {members others : List (String × Json)} {limit : Nat}

@[simp] theorem depthOfMembers_append :
    depthOfMembers (members ++ others) = max (depthOfMembers members) (depthOfMembers others) := by
  induction members with
  | nil => simp [depthOfMembers]
  | cons member members ih => simp [depthOfMembers, ih, Nat.max_assoc]

theorem depthOfItems_le_iff : depthOfItems items ≤ limit ↔ ∀ item ∈ items, item.depth ≤ limit := by
  induction items with
  | nil => simp [depthOfItems]
  | cons item items ih => rw [depthOfItems, Nat.max_le, ih, List.forall_mem_cons]

theorem depthOfItems_eq (some : items ≠ []) (all : ∀ item ∈ items, item.depth = limit) :
    depthOfItems items = limit := by
  obtain ⟨first, member⟩ := List.exists_mem_of_ne_nil items some
  refine Nat.le_antisymm (depthOfItems_le_iff.mpr fun item inside =>
    Nat.le_of_eq (all item inside)) ?_
  exact all first member ▸ depthOfItems_le_iff.mp (Nat.le_refl _) first member

end Depth

theorem parse?_spacedChars (spacing : Spacing) (value : Json) :
    parse? (String.ofList (spacedChars spacing 0 value)) =
      if value.depth ≤ deepest then some value else none := by
  have read := readValue_spacedChars spacing 0 value
    (show (spacedChars spacing 0 value).length ≤ 2 * (spacedChars spacing 0 value).length + 2 by
      omega) ends_nil
  rw [List.append_nil] at read
  rw [parse?, String.toList_ofList, read]
  simp [skipGaps]

/-- The compact text of a value stands for this value, unless the value is too deep. -/
theorem parse?_compact (value : Json) :
    parse? (compact value) = if value.depth ≤ deepest then some value else none := by
  rw [compact, compactChars_eq_spacedChars 0]
  exact parse?_spacedChars compactly value

/-- So does the pretty text. -/
theorem parse?_pretty (value : Json) :
    parse? (pretty value) = if value.depth ≤ deepest then some value else none := by
  rw [pretty, prettyChars_eq_spacedChars]
  exact parse?_spacedChars prettily value

end SqlColumns.Json
