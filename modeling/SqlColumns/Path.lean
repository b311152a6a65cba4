import SqlColumns.Text.Blank
import SqlColumns.Text.Split
import SqlColumns.Text.Utf8

/-!
# Paths

A path is a text, in which bytes that are no part of a character have a way to be written. Its
components decide which file it means and how paths compare: empty segments and single dots between
slashes do not count, except for a leading dot. What a path looks like below a root is the rest of
its own text, so spellings inside it survive, but for those bytes.
-/

set_option autoImplicit false

namespace SqlColumns

/-- A path as it is written. Behind a NUL, a byte that is no part of a character stands as the
character of its number, and so does the byte of a NUL itself. -/
structure Path where
  text : String
  deriving DecidableEq, Repr, Inhabited

namespace Path

/-- How a text is written in a path. -/
def escaped (text : List Char) : List Char :=
  text.flatMap fun c => if c = '\x00' then ['\x00', '\x00'] else [c]

def ofText (text : String) : Path :=
  ⟨String.ofList (escaped text.toList)⟩

/-- How bytes are written in a path, behind some that are passed over. -/
def escapedBehind : Nat → List UInt8 → List Char
  | _, [] => []
  | passed + 1, _ :: rest => escapedBehind passed rest
  | 0, byte :: rest =>
      match Text.takeChar? (byte :: rest) with
      | some (c, _) => escaped [c] ++ escapedBehind (c.utf8Size - 1) rest
      | none => '\x00' :: Char.ofNat byte.toNat :: escapedBehind 0 rest

def ofBytes (bytes : List UInt8) : Path :=
  ⟨String.ofList (escapedBehind 0 bytes)⟩

/-- Whether what is written in a path is a text. -/
def isText : List Char → Bool
  | [] => true
  | [c] => c != '\x00'
  | c :: second :: rest =>
      if c = '\x00' then second == '\x00' && isText rest else isText (second :: rest)

def standsForByte (c : Char) : Bool :=
  c == '\x00' || (0x80 ≤ c.toNat && c.toNat < 0x100)

def bytesOf : List Char → List UInt8
  | [] => []
  | [c] => String.utf8EncodeChar c
  | c :: second :: rest =>
      if c = '\x00' ∧ standsForByte second then UInt8.ofNat second.toNat :: bytesOf rest
      else String.utf8EncodeChar c ++ bytesOf (second :: rest)

/-- What is printed for what is written in a path. -/
def printed (text : List Char) : List Char :=
  Text.decodeLossy (bytesOf text)

def shown (path : Path) : String :=
  String.ofList (printed path.text.toList)

/-- What a path is made of. -/
inductive Component where
  | root
  | here
  | up
  | name (text : String)
  deriving DecidableEq, Repr

def segments (text : List Char) : List (List Char) :=
  Text.split '/' text

def join : List (List Char) → List Char
  | [] => []
  | [segment] => segment
  | segment :: rest => segment ++ '/' :: join rest

/-- Cutting a text at its slashes and joining the pieces gives the text back. -/
theorem join_segments (text : List Char) : join (segments text) = text := by
  unfold segments
  induction text with
  | nil => rfl
  | cons c rest ih =>
      have nonempty := Text.split_ne_nil '/' rest
      simp only [Text.split]
      cases pieces : Text.split '/' rest with
      | nil => contradiction
      | cons head tail =>
          rw [pieces] at ih
          split
          · simp_all [join]
          · cases tail <;> simp_all [join]

/-- An empty segment or a single dot, which leads nowhere. -/
def idle (segment : List Char) : Bool :=
  segment == [] || segment == ['.']

def componentOf (segment : List Char) : Component :=
  if segment = ['.', '.'] then .up else .name (String.ofList segment)

/-- What a path starts with before its other components, and the segments of those. -/
def lead : List (List Char) → Option Component × List (List Char)
  | [] :: second :: rest => (some .root, second :: rest)
  | ['.'] :: rest => (some .here, rest)
  | other => (none, other)

def componentsOf (text : List Char) : List Component :=
  let (first, body) := lead (segments text)
  first.toList ++ (body.filter fun segment => !idle segment).map componentOf

def components (path : Path) : List Component :=
  componentsOf path.text.toList

/-- Two paths are alike when their components are. -/
def Same (left right : Path) : Prop :=
  left.components = right.components

instance (left right : Path) : Decidable (Same left right) :=
  inferInstanceAs (Decidable (_ = _))

def isAbsolute (path : Path) : Bool :=
  path.text.toList.head? == some '/'

/-- Components in order: the root, a leading dot, the parent, then names by their bytes. -/
def Component.precedes : Component → Component → Bool
  | .root, .root => false
  | .root, _ => true
  | _, .root => false
  | .here, .here => false
  | .here, _ => true
  | _, .here => false
  | .up, .up => false
  | .up, _ => true
  | _, .up => false
  | .name left, .name right => decide (left < right)

/-- Lists of components in order: at the first difference, or the shorter one first. -/
def precedesOrSame : List Component → List Component → Bool
  | [], _ => true
  | _ :: _, [] => false
  | left :: lefts, right :: rights =>
      if left = right then precedesOrSame lefts rights else left.precedes right

def le (left right : Path) : Bool :=
  precedesOrSame left.components right.components

def dropLeading : Nat → List (List Char) → List (List Char)
  | 0, body => body
  | _ + 1, [] => []
  | count + 1, segment :: body =>
      if idle segment then dropLeading (count + 1) body else dropLeading count body

def trimLeading (body : List (List Char)) : List (List Char) :=
  body.dropWhile idle

def trimTrailing (body : List (List Char)) : List (List Char) :=
  (body.reverse.dropWhile idle).reverse

/-- The text of a path behind its first `count` components; the whole text but for its end when
nothing is dropped. -/
def textBehind (count : Nat) (text : List Char) : List Char :=
  let (first, body) := lead (segments text)
  match count, first with
  | 0, some .root => '/' :: join (trimTrailing body)
  | 0, some _ => join (['.'] :: trimTrailing body)
  | 0, none => join (trimTrailing body)
  | count + 1, some _ => join (trimTrailing (trimLeading (dropLeading count body)))
  | count + 1, none => join (trimTrailing (trimLeading (dropLeading (count + 1) body)))

def forwardSlashes (text : List Char) : String :=
  String.ofList (text.map fun c => if c = '\\' then '/' else c)

def normalized (path : Path) : String :=
  forwardSlashes (printed path.text.toList)

/-- The rest of a path below a root, when it lies there. -/
def relativeTo? (root path : Path) : Option String :=
  if root.components.isPrefixOf path.components then
    some (forwardSlashes (printed (textBehind root.components.length path.text.toList)))
  else none

/-- How a path is shown: relative to the root where it lies below it, else as given. -/
def display (root path : Path) : String :=
  (relativeTo? root path).getD path.normalized

/-- A path inside another one; an absolute one stays what it is. -/
def append (base inner : Path) : Path :=
  if inner.isAbsolute then inner
  else if base.text.isEmpty || base.text.toList.getLast? == some '/' then
    ⟨base.text ++ inner.text⟩
  else ⟨base.text ++ "/" ++ inner.text⟩

/-- A path that a sheet gives, blanks around it aside, seen from the root of the run. -/
def resolveUnder (root : Path) (raw : String) : Path :=
  append root (ofText (Text.trimString raw))

def fileName? (path : Path) : Option String :=
  match path.components.getLast? with
  | some (.name text) => some text
  | _ => none

/-- The parts of a name before and behind its last dot; a dot in front divides nothing. -/
def splitName (name : String) : String × Option String :=
  let backwards := name.toList.reverse
  let behind := backwards.takeWhile (· != '.')
  match backwards.dropWhile (· != '.') with
  | _ :: before =>
      if before.isEmpty then (name, none)
      else (String.ofList before.reverse, some (String.ofList behind.reverse))
  | [] => (name, none)

def stem? (path : Path) : Option String :=
  path.fileName?.map fun name => (splitName name).1

def extension? (path : Path) : Option String :=
  path.fileName?.bind fun name => (splitName name).2

/-- A file name with the given extension, upper and lower case ASCII letters being the same. -/
def hasExtension (path : Path) (extension : String) : Bool :=
  path.extension?.any fun own => own.toLower == extension.toLower

def hiddenName (name : String) : Bool :=
  name.toList.head? == some '.'

/-- A path whose last name is a text that is hidden. -/
def isHidden (path : Path) : Bool :=
  path.fileName?.any fun name => isText name.toList && hiddenName name

end Path

end SqlColumns
