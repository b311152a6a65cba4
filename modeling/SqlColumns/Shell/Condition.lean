import SqlColumns.Shell.Entries

/-!
# Conditions

What the words of a test say: of files, texts and numbers, with "not", "and" and "or" and brackets.
A word that looks like a sign may also be a text that a sign works on, which the words around it
tell.
-/

set_option autoImplicit false

namespace SqlColumns.Shell

namespace Condition

def single : List String :=
  ["-n", "-z", "-e", "-r", "-w", "-x", "-f", "-d", "-s", "-L", "-h", "-b", "-c", "-p", "-S", "-t",
    "-u", "-g", "-k", "-O", "-G"]

def double : List String :=
  ["=", "!=", "<", ">", "-eq", "-ne", "-lt", "-le", "-gt", "-ge", "-nt", "-ot", "-ef"]

def isDouble (word : String) : Bool :=
  double.contains word

def holdsOf (scene : Scene) (sign word : String) : Bool :=
  let path := pathOf word
  let files := scene.files
  let location := files.locate path
  let mode := (location.toOption.map files.modeAt).getD 0
  let entry := (files.lookup path).toOption
  match sign with
  | "-n" => !word.isEmpty
  | "-z" => word.isEmpty
  | "-e" | "-r" | "-w" | "-O" | "-G" => location.isOk
  | "-x" => mode &&& 0o111 != 0
  | "-f" => files.isFile path
  | "-d" => files.isDirectory path
  | "-s" => ((files.size path).toOption.getD 0) != 0
  | "-L" | "-h" =>
      match lookupOwn? files path with
      | some (.link _) => true
      | _ => false
  | "-c" =>
      match entry with
      | some (.device _) => true
      | _ => false
  | "-u" => mode &&& 0o4000 != 0
  | "-g" => mode &&& 0o2000 != 0
  | "-k" => mode &&& 0o1000 != 0
  | _ => false

/-- Why words are no condition. -/
inductive Fault where
  | unexpected (word : String)
  | missing (sign : String)
  | unclosed
  | noNumber (word : String)
  deriving DecidableEq, Repr

def Fault.message : Fault → String
  | .unexpected word =>
      if word.isEmpty then "unexpected operator" else s!"{word}: unexpected operator"
  | .missing sign => s!"{sign}: argument expected"
  | .unclosed => "closing paren expected"
  | .noNumber word => s!"Illegal number: {word}"

def number (word : String) : Except Fault Int :=
  match decimal? word with
  | some value => .ok value
  | none => .error (.noNumber word)

def holdsBetween (scene : Scene) (sign left right : String) : Except Fault Bool := do
  let there (word : String) : Option Location := (scene.files.locate (pathOf word)).toOption
  match sign with
  | "=" => return left == right
  | "!=" => return left != right
  | "<" => return decide (left < right)
  | ">" => return decide (right < left)
  | "-eq" => return (← number left) == (← number right)
  | "-ne" => return (← number left) != (← number right)
  | "-lt" => return decide ((← number left) < (← number right))
  | "-le" => return decide ((← number left) ≤ (← number right))
  | "-gt" => return decide ((← number left) > (← number right))
  | "-ge" => return decide ((← number left) ≥ (← number right))
  | "-ef" => return (there left).isSome && there left == there right
  | "-nt" => return (there left).isSome && (there right).isNone
  | _ => return (there left).isNone && (there right).isSome

/-- What the word in front of others is. -/
inductive Kind where
  | ending
  | text
  | single
  | double
  | negation
  | conjunction
  | disjunction
  | opening
  | closing
  deriving DecidableEq, Repr

def kindOf : List String → Kind
  | [] => .ending
  | word :: rest =>
      if single.contains word then
        match rest with
        | [] => .text
        | [_] => .single
        | next :: _ => if isDouble next then .text else .single
      else if isDouble word then .double
      else if word = "!" then .negation
      else if word = "-a" then .conjunction
      else if word = "-o" then .disjunction
      else if word = "(" then if rest.isEmpty then .text else .opening
      else if word = ")" then .closing
      else .text

mutual

/-- What words joined by "or" say, of which the first is of a kind, and the words from the last one
that was looked at. -/
def disjunction (scene : Scene) : Nat → Kind → List String → Except Fault (Bool × List String)
  | 0, _, words => .ok (false, words)
  | fuel + 1, kind, words => do
      let (holds, words) ← conjunction scene fuel kind words
      if kindOf (words.drop 1) = .disjunction then
        let behind := words.drop 2
        let (other, behind) ← disjunction scene fuel (kindOf behind) behind
        return (holds || other, behind)
      else return (holds, words)

def conjunction (scene : Scene) : Nat → Kind → List String → Except Fault (Bool × List String)
  | 0, _, words => .ok (false, words)
  | fuel + 1, kind, words => do
      let (holds, words) ← negation scene fuel kind words
      if kindOf (words.drop 1) = .conjunction then
        let behind := words.drop 2
        let (other, behind) ← conjunction scene fuel (kindOf behind) behind
        return (holds && other, behind)
      else return (holds, words)

def negation (scene : Scene) : Nat → Kind → List String → Except Fault (Bool × List String)
  | 0, _, words => .ok (false, words)
  | fuel + 1, kind, words => do
      if kind = .negation then
        let behind := words.drop 1
        let (holds, behind) ←
          negation scene fuel (kindOf behind) (if behind.isEmpty then words else behind)
        return (!holds, behind)
      else primary scene fuel kind words

/-- What words without "not", "and" and "or" say. -/
def primary (scene : Scene) : Nat → Kind → List String → Except Fault (Bool × List String)
  | 0, _, words => .ok (false, words)
  | fuel + 1, kind, words => do
      match kind, words with
      | .ending, _ | _, [] => return (false, words)
      | .opening, _ :: inside =>
          if kindOf inside = .closing then return (false, inside)
          let (holds, behind) ← disjunction scene fuel (kindOf inside) inside
          if kindOf (behind.drop 1) = .closing then return (holds, behind.drop 1)
          else throw .unclosed
      | .single, [sign] => throw (.missing sign)
      | .single, sign :: word :: rest => return (holdsOf scene sign word, word :: rest)
      | _, word :: rest =>
          match kindOf rest, rest with
          | .double, [sign] => throw (.missing sign)
          | .double, sign :: right :: behind =>
              return (← holdsBetween scene sign word right, right :: behind)
          | _, _ => return (!word.isEmpty, word :: rest)

end

/-- What words say whose first one is of a kind; the last one looked at has to be the last. -/
def whole (scene : Scene) (kind : Kind) (words : List String) : Except Fault Bool := do
  let (holds, behind) ← disjunction scene (4 * words.length + 8) kind words
  match behind with
  | word :: _ :: _ => throw (.unexpected word)
  | _ => return holds

/-- What words say. Of three words the middle one is a sign if it can be, and three or four words
may have brackets or "not" around the others. -/
def holds (scene : Scene) (words : List String) : Except Fault Bool :=
  match words with
  | [] => .ok false
  | ["!", sign, word] =>
      if isDouble sign then whole scene .text words
      else (whole scene (kindOf [sign, word]) [sign, word]).map (!·)
  | [left, sign, right] =>
      if isDouble sign then whole scene .text words
      else if left = "(" ∧ right = ")" then whole scene (kindOf [sign]) [sign]
      else whole scene (kindOf words) words
  | ["!", left, sign, right] =>
      if isDouble sign then (whole scene .text [left, sign, right]).map (!·)
      else (whole scene (kindOf [left, sign, right]) [left, sign, right]).map (!·)
  | ["(", left, right, ")"] => whole scene (kindOf [left, right]) [left, right]
  | _ => whole scene (kindOf words) words

end Condition

end SqlColumns.Shell
