import SqlColumns.Corpus.Glob.Expression
import SqlColumns.FileSystem
import SqlColumns.Text.Lines

/-!
# Ignore rules

An ignore file has one rule a line. A rule names paths by a glob, seen from the directory of the
file, and either ignores them or keeps them; the last rule that names a path decides. A line that
cannot be read is left out and has a fault. One glob that is nested too deep leaves a file without
rules.
-/

set_option autoImplicit false

namespace SqlColumns

/-- Whether rules leave a path out or keep it. -/
inductive Verdict where
  | ignored
  | kept
  deriving DecidableEq, Repr

/-- What is wrong with a file of rules: a glob on a line of it, a line that is not UTF-8, a glob
that is nested too deep, known by its number among those looked up together or by its regular
expression, or a file that tells where rules are and cannot be read. -/
inductive RuleFault where
  | badGlob (file : Path) (line : Nat) (glob : String) (fault : Glob.Fault)
  | notText (file : Path) (line : Nat)
  | tooDeep (number : Nat)
  | tooDeepExtension (expression : String)
  | notPointer (file : Path)
  | unreadable (file : Path) (cause : OsError)
  deriving DecidableEq, Repr

def notTextMessage : String := "stream did not contain valid UTF-8"

def RuleFault.message : RuleFault → String
  | .badGlob file line glob fault =>
      s!"{file.shown}: line {line}: error parsing glob '{glob}': {fault.message}"
  | .notText file line => s!"{file.shown}: line {line}: {notTextMessage}"
  | .tooDeep number => s!"error parsing pattern {number}"
  | .tooDeepExtension expression => s!"error parsing glob '{expression}': error parsing pattern 0"
  | .notPointer file => s!"{file.shown}: {notTextMessage}"
  | .unreadable file cause => s!"{file.shown}: {cause.message}"

/-- A rule: its glob, its verdict, and whether it is about directories only. -/
structure IgnoreRule where
  glob : Glob
  verdict : Verdict
  onlyDirectories : Bool
  deriving Repr

namespace IgnoreRule

/-- A line without blanks at its end, unless it ends in an escaped space. -/
def trimmed (line : List Char) : List Char :=
  if ['\\', ' '].isSuffixOf line then line else Text.trimEnd line

/-- A pattern without the slash at its end, and without a backslash before that. -/
def withoutSlash (pattern : List Char) : List Char :=
  let body := pattern.dropLast
  if body.getLast? = some '\\' then body.dropLast else body

/-- The glob of a pattern: one without a slash names paths in all directories below, and one that
ends in two stars names what is inside a directory, not the directory. -/
def widened (anchored : Bool) (pattern : List Char) : List Char :=
  let deep :=
    if anchored || pattern.contains '/' || pattern == ['*', '*'] then pattern
    else ['*', '*', '/'] ++ pattern
  if ['/', '*', '*'].isSuffixOf deep then deep ++ ['/', '*'] else deep

def ofPattern (verdict : Verdict) (anchored : Bool) (pattern : List Char) :
    Except Glob.Fault IgnoreRule :=
  let onlyDirectories := pattern.getLast? == some '/'
  let body := if onlyDirectories then withoutSlash pattern else pattern
  (Glob.parse (widened anchored body)).map fun glob => ⟨glob, verdict, onlyDirectories⟩

/-- The rule of a pattern that a slash in front ties to the directory of the file. -/
def ofAnchored (verdict : Verdict) : List Char → Except Glob.Fault IgnoreRule
  | '/' :: pattern => ofPattern verdict true pattern
  | pattern => ofPattern verdict false pattern

/-- The rule that a trimmed line spells, comments and empty lines aside. -/
def ofText : List Char → Except Glob.Fault IgnoreRule
  | '\\' :: '!' :: pattern => ofPattern .ignored false ('!' :: pattern)
  | '\\' :: '#' :: pattern => ofPattern .ignored false ('#' :: pattern)
  | '!' :: pattern => ofAnchored .kept pattern
  | pattern => ofAnchored .ignored pattern

/-- What a line spells, blanks at its end aside; nothing for a comment or an empty line. -/
def spelled? (line : List Char) : Option (List Char) :=
  match line with
  | '#' :: _ => none
  | _ => if (trimmed line).isEmpty then none else some (trimmed line)

/-- A rule that names a path, in bytes and seen from the directory of the rule. -/
def names (rule : IgnoreRule) (isDirectory : Bool) (path : List UInt8) : Bool :=
  (isDirectory || !rule.onlyDirectories) && rule.glob.accepts path

end IgnoreRule

abbrev IgnoreRules := List IgnoreRule

namespace IgnoreRules

/-- The lines of a file without byte order marks in front of the first one. -/
def withoutMarks : List (Option (List Char)) → List (Option (List Char))
  | some line :: lines => some (line.dropWhile (· == '\uFEFF')) :: lines
  | lines => lines

/-- The rules and the faults of the lines of a file from the one with the given number. The file is
read no further than to a line that is not UTF-8. -/
def readLines (file : Path) (number : Nat) :
    List (Option (List Char)) → IgnoreRules × List RuleFault
  | [] => ([], [])
  | none :: _ => ([], [.notText file number])
  | some line :: lines =>
      let (rules, faults) := readLines file (number + 1) lines
      match IgnoreRule.spelled? line with
      | none => (rules, faults)
      | some text =>
          match IgnoreRule.ofText text with
          | .ok rule => (rule :: rules, faults)
          | .error fault => (rules, .badGlob file number (String.ofList text) fault :: faults)

/-- Faults of the lines of a file that count: a line that is not UTF-8 is no fault on its own. -/
def counted : List RuleFault → List RuleFault
  | [.notText _ _] => []
  | faults => faults

/-- The fault of the first glob that is nested too deep, those looked up by their extension coming
first. -/
def tooDeep? (rules : IgnoreRules) : Option RuleFault :=
  let globs := rules.map IgnoreRule.glob
  let together := globs.filter fun glob => glob.lookup == .together
  match globs.find? fun glob => glob.lookup == .extension && glob.isTooDeep with
  | some glob => some (.tooDeepExtension glob.expression)
  | none => (together.findIdx? Glob.isTooDeep).map .tooDeep

def ofBytes (file : Path) (bytes : List UInt8) : IgnoreRules × List RuleFault :=
  let (rules, faults) := readLines file 1 (withoutMarks (Text.lines bytes))
  match tooDeep? rules with
  | some fault => ([], counted faults ++ [fault])
  | none => (rules, counted faults)

def verdict? (rules : IgnoreRules) (isDirectory : Bool) (path : List UInt8) : Option Verdict :=
  (rules.reverse.find? fun rule => rule.names isDirectory path).map IgnoreRule.verdict

end IgnoreRules

end SqlColumns
