import SqlColumns.Text.Case.Tables

/-!
# Case mapping

Lower-casing of whole texts, with the word-final form of sigma, and simple case folding, under
which characters are compared one by one. Folding is lower-casing followed by the removal of
variants, but for a few capital letters that have a lower-case form and fold to themselves.
-/

set_option autoImplicit false

namespace SqlColumns.Text

/-- The one-character lower-case form; the dotted capital I has none and stays. -/
def lowerSimple (c : Char) : Char :=
  Char.ofNat (CaseRun.apply unfoldedRuns (CaseRun.apply lowerRuns c.toNat))

/-- The lower-case form of a character on its own. Only the dotted capital I has two
characters: `i` and a combining dot above. -/
def lowerChar (c : Char) : List Char :=
  if c = '\u0130' then ['i', '\u0307'] else [lowerSimple c]

def foldChar (c : Char) : Char :=
  Char.ofNat (CaseRun.apply variantRuns (CaseRun.apply lowerRuns c.toNat))

def isCased (c : Char) : Bool :=
  inRanges casedRanges c.toNat

def isCaseIgnorable (c : Char) : Bool :=
  inRanges caseIgnorableRanges c.toNat

def casedAhead (text : List Char) : Bool :=
  match text.dropWhile isCaseIgnorable with
  | [] => false
  | c :: _ => isCased c

/-- Lower-cases a text of which `before` has been passed, the nearest character first. A capital
sigma with a cased character before it and none after it takes its final form. -/
def lowerAfter (before : List Char) : List Char → List Char → List Char
  | done, [] => done.reverse
  | done, c :: rest =>
      if c = 'Σ' then
        let final := casedAhead before && !casedAhead rest
        lowerAfter (c :: before) ((if final then 'ς' else 'σ') :: done) rest
      else lowerAfter (c :: before) ((lowerChar c).reverse ++ done) rest

def lower (text : List Char) : List Char :=
  lowerAfter [] [] text

def lowerString (text : String) : String :=
  String.ofList (lower text.toList)

end SqlColumns.Text
