import SqlColumns.Shell.Basic

/-!
# Options

The words behind the name of a program fall into options and operands. An option is a letter behind
a dash, alone or with others, or a name behind two dashes that may be cut short; some of them have a
value. Two dashes alone end the options.
-/

set_option autoImplicit false

namespace SqlColumns.Shell

/-- The options of a program: their letters, with a colon behind those that have a value and two
behind those that may have one, and names for letters. -/
structure Grammar where
  letters : String
  names : List (String × Char)

/-- An option that was given, and its value. -/
structure Choice where
  letter : Char
  value : Option String
  deriving DecidableEq, Repr

/-- Whether an option has a value. -/
inductive Valued where
  | never
  | always
  | perhaps
  deriving DecidableEq, Repr

namespace Grammar

/-- Whether the option with a letter has a value, if there is such an option. -/
def valued? (grammar : Grammar) (letter : Char) : Option Valued :=
  if letter = ':' then none
  else
    match grammar.letters.toList.dropWhile (· != letter) with
    | _ :: ':' :: ':' :: _ => some .perhaps
    | _ :: ':' :: _ => some .always
    | _ :: _ => some .never
    | [] => none

/-- The options in letters behind a dash, and the words behind them; or a complaint. -/
def readLetters (grammar : Grammar) :
    List Char → List String → Except String (List Choice × List String)
  | [], words => .ok ([], words)
  | letter :: more, words =>
      match grammar.valued? letter, more, words with
      | none, _, _ => .error ("invalid option -- '" ++ String.singleton letter ++ "'")
      | some .never, _, _ => do
          let (choices, words) ← readLetters grammar more words
          return (⟨letter, none⟩ :: choices, words)
      | some .perhaps, [], _ => .ok ([⟨letter, none⟩], words)
      | some .always, [], [] =>
          .error ("option requires an argument -- '" ++ String.singleton letter ++ "'")
      | some .always, [], value :: words => .ok ([⟨letter, some value⟩], words)
      | _, _ :: _, _ => .ok ([⟨letter, some (String.ofList more)⟩], words)

/-- The option of a name behind two dashes, perhaps with a value, and the words behind it; or a
complaint. -/
def readName (grammar : Grammar) (text : String) (words : List String) :
    Except String (Choice × List String) := do
  let name := String.ofList (text.toList.takeWhile (· != '='))
  let value :=
    if text.toList.contains '=' then some (String.ofList (text.toList.drop (name.length + 1)))
    else none
  let near := grammar.names.filter fun one => one.1.startsWith name
  let exact := near.filter fun one => one.1 == name
  let letters := (near.map (·.2)).eraseDups
  let quoted := "'--" ++ text ++ "'"
  match exact, near with
  | [], [] => throw ("unrecognized option " ++ quoted)
  | (full, letter) :: _, _ | [], (full, letter) :: _ =>
      if exact.isEmpty && 1 < letters.length then
        let possible := String.join (near.map fun one => " '--" ++ one.1 ++ "'")
        throw (s!"option {quoted} is ambiguous; possibilities:" ++ possible)
      let called := "'--" ++ full ++ "'"
      match (grammar.valued? letter).getD .never, value, words with
      | .never, some _, _ => throw (s!"option {called} doesn" ++ "'t allow an argument")
      | .never, none, _ | .perhaps, none, _ => return (⟨letter, none⟩, words)
      | .always, none, [] => throw s!"option {called} requires an argument"
      | .always, none, value :: words => return (⟨letter, some value⟩, words)
      | _, some value, _ => return (⟨letter, some value⟩, words)

/-- The options among words, and the operands; or a complaint. When they are `ordered`, the first
operand ends the options. At most `fuel` words are looked at. -/
def readWords (grammar : Grammar) (ordered : Bool) :
    Nat → List String → Except String (List Choice × List String)
  | 0, words => .ok ([], words)
  | _, [] => .ok ([], [])
  | fuel + 1, word :: words =>
      match word.toList with
      | ['-', '-'] => .ok ([], words)
      | '-' :: '-' :: name => do
          let (choice, words) ← grammar.readName (String.ofList name) words
          let (choices, operands) ← readWords grammar ordered fuel words
          return (choice :: choices, operands)
      | '-' :: letter :: more => do
          let (first, words) ← grammar.readLetters (letter :: more) words
          let (choices, operands) ← readWords grammar ordered fuel words
          return (first ++ choices, operands)
      | _ =>
          if ordered then .ok ([], word :: words)
          else do
            let (choices, operands) ← readWords grammar ordered fuel words
            return (choices, word :: operands)

/-- The options among words, and the operands; or a complaint. -/
def read (grammar : Grammar) (ordered : Bool) (words : List String) :
    Except String (List Choice × List String) :=
  grammar.readWords ordered words.length words

end Grammar

def given (choices : List Choice) (letter : Char) : Bool :=
  choices.any (·.letter == letter)

def valuesOf (choices : List Choice) (letter : Char) : List String :=
  choices.filterMap fun choice => if choice.letter = letter then choice.value else none

def valueOf? (choices : List Choice) (letter : Char) : Option String :=
  (valuesOf choices letter).getLast?

def lastOf? (choices : List Choice) (letters : String) : Option Char :=
  ((choices.filter fun choice => letters.toList.contains choice.letter).getLast?).map (·.letter)

/-- What a program does with its words where it starts. -/
abbrev Utility := Scene → List String → Ended

def Scene.hint (scene : Scene) : String :=
  "Try '" ++ scene.called ++ " --help' for more information.\n"

/-- A complaint about the words of a program, and the way to help. -/
def Scene.misuse (scene : Scene) (code : Nat) (complaint : String) : Ended :=
  scene.ended code "" s!"{scene.called}: {complaint}\n{scene.hint}"

/-- A program that reads its options, exits with `code` where it cannot, and goes on with `body`. -/
def withOptions (code : Nat) (grammar : Grammar) (ordered : Bool)
    (body : Scene → List Choice → List String → Ended) : Utility := fun scene words =>
  match grammar.read ordered words with
  | .error complaint => scene.misuse code complaint
  | .ok (choices, operands) => body scene choices operands

end SqlColumns.Shell
