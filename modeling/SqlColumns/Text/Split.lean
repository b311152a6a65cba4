/-!
# Splitting texts

The pieces of a text between occurrences of a separator; there is always one more piece than
separators.
-/

set_option autoImplicit false

namespace SqlColumns.Text

def split (separator : Char) : List Char → List (List Char)
  | [] => [[]]
  | c :: rest =>
      if c = separator then [] :: split separator rest
      else
        match split separator rest with
        | [] => [[c]]
        | head :: tail => (c :: head) :: tail

theorem split_ne_nil (separator : Char) (text : List Char) : split separator text ≠ [] := by
  cases text with
  | nil => simp [split]
  | cons c rest =>
      simp only [split]
      split
      · simp
      · split <;> simp

def splitString (separator : Char) (text : String) : List String :=
  (split separator text.toList).map String.ofList

end SqlColumns.Text
