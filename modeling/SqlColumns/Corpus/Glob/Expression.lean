import SqlColumns.Corpus.Glob.Matching

/-!
# Globs as regular expressions

What a glob matches can be said by a regular expression over bytes. Only so many parts of it may be
nested, the whole and each group, choice, row, repetition and class being a part, so a glob can be
too deep even though it is spelled well.
-/

set_option autoImplicit false

namespace SqlColumns.Glob

/-- Characters that a regular expression gives a meaning to. -/
def isMeta (c : Char) : Bool :=
  "\\.+*?()|[]\x7b\x7d^$#&-~".toList.contains c

/-- A byte in a regular expression: an ASCII character, escaped where it has a meaning, or a number
of two hexadecimal digits. -/
def byteText (byte : UInt8) : String :=
  let digit (value : Nat) : String := String.singleton (Nat.digitChar (value % 16))
  if byte < 0x80 then
    let c := Char.ofNat byte.toNat
    if isMeta c then "\\" ++ String.singleton c else String.singleton c
  else "\\x" ++ digit (byte.toNat / 16) ++ digit byte.toNat

def charText (c : Char) : String :=
  String.join ((String.utf8EncodeChar c).map byteText)

def rangeText (range : Char × Char) : String :=
  if range.1 = range.2 then charText range.1 else charText range.1 ++ "-" ++ charText range.2

mutual

def Token.expression : Token → String
  | .literal c => charText c
  | .any => "[^/]"
  | .star => "[^/]*"
  | .oneOf negated ranges =>
      "[" ++ (if negated then "^" else "") ++ String.join (ranges.map rangeText) ++ "]"
  | .deepStart => "(?:/?|.*/)"
  | .deepMiddle => "(?:/|/.*/)"
  | .deepEnd => "/.*"
  | .choice [] => ""
  | .choice (branch :: branches) =>
      "(?:" ++ rowExpression branch ++ choiceExpression branches ++ ")"

def rowExpression : List Token → String
  | [] => ""
  | token :: tokens => token.expression ++ rowExpression tokens

def choiceExpression : List (List Token) → String
  | [] => ""
  | branch :: branches => "|" ++ rowExpression branch ++ choiceExpression branches

end

def expression (glob : Glob) : String :=
  "(?-u)^" ++ (if glob.isEverything then ".*" else rowExpression glob.tokens) ++ "$"

/-- The depth of a row of parts: that of the only one, or one more than the greatest. -/
def rowDepth : List Nat → Nat
  | [] => 0
  | [part] => part
  | parts => parts.foldr max 0 + 1

/-- The depth of a class: it is a row inside when it lists more than one range of bytes. -/
def classDepth (ranges : List (Char × Char)) : Nat :=
  if (ranges.flatMap byteRanges).length = 1 then 1 else 2

mutual

def Token.depths : Token → List Nat
  | .literal c => (String.utf8EncodeChar c).map fun _ => 0
  | .any => [1]
  | .star => [2]
  | .oneOf _ ranges => [classDepth ranges]
  | .deepStart | .deepMiddle => [4]
  | .deepEnd => [0, 1]
  | .choice [] => []
  | .choice [branch] => [rowDepth (rowDepths branch) + 1]
  | .choice (branch :: branches) =>
      [max (rowDepth (rowDepths branch)) (choiceDepth branches) + 2]

def rowDepths : List Token → List Nat
  | [] => []
  | token :: tokens => token.depths ++ rowDepths tokens

def choiceDepth : List (List Token) → Nat
  | [] => 0
  | branch :: branches => max (rowDepth (rowDepths branch)) (choiceDepth branches)

end

/-- How deep parts of the regular expression of a glob are nested. -/
def depth (glob : Glob) : Nat :=
  if glob.isEverything then 2 else (rowDepths glob.tokens).foldr max 0 + 1

def depthLimit : Nat := 250

def isTooDeep (glob : Glob) : Bool :=
  decide (depthLimit < glob.depth)

/-- How paths are looked up in a glob: by its text alone, by the extension that it ends in and its
regular expression, by their last names alone, or together with other globs by their regular
expressions. -/
inductive Lookup where
  | text
  | extension
  | name
  | together
  deriving DecidableEq, Repr

def Token.literal? : Token → Option Char
  | .literal c => some c
  | _ => none

def literalText? (tokens : List Token) : Option (List Char) :=
  match tokens.mapM Token.literal? with
  | some (c :: rest) => some (c :: rest)
  | _ => none

def isExtension (text : List Char) : Bool :=
  text.all fun c => c != '.' && c != '/'

/-- Tokens whose text alone decides: characters below any directory or below none, all names with
an extension, or everything below a directory. -/
def isTextual : List Token → Bool
  | .deepStart :: .star :: .literal '.' :: extension =>
      extension.isEmpty || (literalText? extension).any isExtension
  | .deepStart :: tokens => (literalText? tokens).isSome
  | tokens =>
      (literalText? tokens).isSome ||
        (match tokens.getLast? with
          | some .deepEnd => (tokens.dropLast.mapM Token.literal?).isSome
          | _ => false)

def endsInExtension : List Token → Bool
  | .literal c :: tokens => c == '.' || (c != '/' && endsInExtension tokens)
  | _ => false

/-- A token that never reaches over a slash. Branches are not looked into. -/
def Token.staysInName : Token → Bool
  | .literal c => c != '/'
  | .any | .star => true
  | .oneOf negated ranges => negated == ranges.any fun range => range.1 ≤ '/' && '/' ≤ range.2
  | _ => false

def isNamePattern : List Token → Bool
  | .deepStart :: first :: rest => (first :: rest).all Token.staysInName
  | _ => false

def lookup (glob : Glob) : Lookup :=
  if isTextual glob.tokens then .text
  else if endsInExtension glob.tokens.reverse then .extension
  else if isNamePattern glob.tokens then .name
  else .together

end SqlColumns.Glob
