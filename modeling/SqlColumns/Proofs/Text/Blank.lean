import SqlColumns.Text.Blank

/-!
# Texts without blanks at their ends

Trimming gives a text without blanks at its ends, and changes no text that is one already.
-/

set_option autoImplicit false

namespace SqlColumns.Text

structure IsTight (text : List Char) : Prop where
  first : ∀ c, text.head? = some c → isBlank c = false
  last : ∀ c, text.getLast? = some c → isBlank c = false

theorem trimEnd_isPrefix (text : List Char) : trimEnd text <+: text := by
  have ending : text.reverse.dropWhile isBlank <:+ text.reverse := List.dropWhile_suffix _
  rw [← List.reverse_prefix, List.reverse_reverse] at ending
  exact ending

theorem isBlank_of_head?_dropWhile {text : List Char} {c : Char}
    (first : (text.dropWhile isBlank).head? = some c) : isBlank c = false := by
  have stops := List.head?_dropWhile_not isBlank text
  rw [first] at stops
  exact stops

theorem isTight_trim (text : List Char) : IsTight (trim text) := by
  constructor
  · intro c first
    obtain ⟨rest, cut⟩ := List.head?_eq_some_iff.mp first
    obtain ⟨behind, whole⟩ := trimEnd_isPrefix (trimStart text)
    rw [trim] at cut
    rw [cut] at whole
    exact isBlank_of_head?_dropWhile (by rw [← trimStart, ← whole]; rfl)
  · intro c last
    rw [trim, trimEnd, List.getLast?_reverse] at last
    exact isBlank_of_head?_dropWhile last

theorem dropWhile_isBlank_eq {text : List Char}
    (first : ∀ c, text.head? = some c → isBlank c = false) : text.dropWhile isBlank = text := by
  cases text with
  | nil => rfl
  | cons c rest => exact List.dropWhile_cons_of_neg (by rw [first c rfl]; decide)

theorem IsTight.trim_eq {text : List Char} (tight : IsTight text) : trim text = text := by
  have last : ∀ c, text.reverse.head? = some c → isBlank c = false := by
    intro c ending
    rw [List.head?_reverse] at ending
    exact tight.last c ending
  rw [trim, trimStart, dropWhile_isBlank_eq tight.first, trimEnd, dropWhile_isBlank_eq last,
    List.reverse_reverse]

theorem IsTight.trimString_eq {text : String} (tight : IsTight text.toList) :
    trimString text = text := by
  rw [trimString, tight.trim_eq, String.ofList_toList]

theorem trimString_trimString (text : String) :
    trimString (trimString text) = trimString text := by
  refine IsTight.trimString_eq ?_
  rw [trimString, String.toList_ofList]
  exact isTight_trim text.toList

end SqlColumns.Text
