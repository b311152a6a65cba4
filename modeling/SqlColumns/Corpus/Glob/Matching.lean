import SqlColumns.Corpus.Glob

/-!
# Matching globs

The places that a glob can have reached in a path are marked, one mark before each byte and one
behind the last; a token moves the marks. So a choice joins marks, a run spreads them, and the time
taken does not grow with the number of ways in which a glob can match.
-/

set_option autoImplicit false

namespace SqlColumns.Glob

def slash : UInt8 := 0x2F

/-- Marks behind the bytes that are allowed and marked in front. -/
def step (allowed : UInt8 → Bool) (path : List UInt8) (marks : List Bool) : List Bool :=
  false :: List.zipWith (fun marked byte => marked && allowed byte) marks path

/-- Marks wherever a run of allowed bytes leads from a mark; `reached` says whether a run has come
this far. -/
def spread (allowed : UInt8 → Bool) (reached : Bool) : List UInt8 → List Bool → List Bool
  | _, [] => []
  | [], mark :: _ => [mark || reached]
  | byte :: path, mark :: marks =>
      (mark || reached) :: spread allowed ((mark || reached) && allowed byte) path marks

def join (left right : List Bool) : List Bool :=
  List.zipWith (· || ·) left right

def stepAll (bytes path : List UInt8) (marks : List Bool) : List Bool :=
  bytes.foldl (fun moved byte => step (· == byte) path moved) marks

def stepSlash (path : List UInt8) (marks : List Bool) : List Bool :=
  step (· == slash) path marks

def spreadAll (path : List UInt8) (marks : List Bool) : List Bool :=
  spread (fun _ => true) false path marks

/-- The ranges of bytes that a range of characters stands for: of two different characters, all
bytes of the first but the last one, the range from there to the first byte of the second, and its
other bytes. -/
def byteRanges (range : Char × Char) : List (UInt8 × UInt8) :=
  let lows := String.utf8EncodeChar range.1
  let highs := String.utf8EncodeChar range.2
  if range.1 = range.2 then lows.map fun byte => (byte, byte)
  else
    lows.dropLast.map (fun byte => (byte, byte)) ++
      (lows.getLast?.toList.zip highs.head?.toList) ++
      highs.tail.map fun byte => (byte, byte)

def inside (ranges : List (UInt8 × UInt8)) (byte : UInt8) : Bool :=
  ranges.any fun range => range.1 ≤ byte && byte ≤ range.2

mutual

def Token.move (path : List UInt8) : Token → List Bool → List Bool
  | .literal c, marks => stepAll (String.utf8EncodeChar c) path marks
  | .any, marks => step (· != slash) path marks
  | .star, marks => spread (· != slash) false path marks
  | .oneOf negated ranges, marks =>
      let bytes := ranges.flatMap byteRanges
      step (fun byte => inside bytes byte != negated) path marks
  | .deepStart, marks =>
      join marks (stepSlash path (spreadAll path marks))
  | .deepMiddle, marks =>
      let behind := stepSlash path marks
      join behind (stepSlash path (spreadAll path behind))
  | .deepEnd, marks => spreadAll path (stepSlash path marks)
  | .choice [], marks => marks
  | .choice (branch :: branches), marks =>
      join (moveAll path branch marks) (moveAny path branches marks)

def moveAll (path : List UInt8) : List Token → List Bool → List Bool
  | [], marks => marks
  | token :: tokens, marks => moveAll path tokens (token.move path marks)

def moveAny (path : List UInt8) : List (List Token) → List Bool → List Bool
  | [], marks => marks.map fun _ => false
  | branch :: branches, marks => join (moveAll path branch marks) (moveAny path branches marks)

end

/-- A path in bytes that belongs to the glob: a mark moves from the front to the end. -/
def accepts (glob : Glob) (path : List UInt8) : Bool :=
  let start := true :: path.map fun _ => false
  glob.isEverything || (moveAll path glob.tokens start).getLast?.getD false

end SqlColumns.Glob
