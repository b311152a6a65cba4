import SqlColumns.Shell.Script.Expansion

/-!
# Redirections

What a number of a process stands for can be sent to a file, read from a file or from a text, or be
the same as what another number stands for.
-/

set_option autoImplicit false

namespace SqlColumns.Shell.Script

def openMessage (creating : Bool) (cause : OsError) : String :=
  match cause, creating with
  | .notFound, true | .notDirectory, true => "Directory nonexistent"
  | .notFound, false | .notDirectory, false => "No such file"
  | _, _ => plainMessage cause

/-- A redirection whose words are known: of a number, and to a file with a name or to a text. -/
structure Target where
  number : Nat
  kind : Option MoveKind
  text : String
  deriving DecidableEq, Repr

def targetOf (substitute : Substitution) : Move → Running Target
  | .file number kind pieces => do
      let text := (← fieldOf substitute pieces).text
      let isNumber := text.length = 1 ∧ text.toList.all Char.isDigit
      if kind = .copy ∧ text ≠ "-" ∧ !isNumber then fail Syntax.Fault.descriptor.message
      return ⟨number, some kind, text⟩
  | .document number pieces => do
      let glyphs ← expand substitute nestLimit pieces
      return ⟨number, none, (wholeField (← get).joint glyphs).text⟩

/-- The number of a process that a path names, if it names one. -/
def descriptor? (name : String) : Option Nat :=
  match name with
  | "/dev/stdin" => some 0
  | "/dev/stdout" => some 1
  | "/dev/stderr" => some 2
  | _ => if name.startsWith "/dev/fd/" then count? (String.ofList (name.toList.drop 8)) else none

/-- The channel of the file with a name, which is made if it is not there. -/
def openFile (kind : MoveKind) (name : String) : Running Channel := do
  let state ← get
  let refuse {α : Type} (reason : String) : Running α := fail s!"cannot create {name}: {reason}"
  let path := pathOf name
  let isNew := !(state.files.lookup path).isOk
  if state.has 'C' ∧ kind = .write ∧ state.files.isFile path then refuse "File exists"
  let content := if kind = .write then [] else (state.files.read path).toOption.getD []
  let kept : Bool :=
    match state.files.lookup path with
    | .ok (.device _) => true
    | _ => false
  match state.files.write path (if kept then [] else content) with
  | .error cause => refuse (openMessage true cause)
  | .ok files =>
      match files.locate path with
      | .error cause => refuse (openMessage true cause)
      | .ok location =>
          let mode := 0o666 &&& (0o7777 ^^^ state.mask)
          let files :=
            if isNew ∧ mode ≠ 0o644 then files.setMode location mode else files
          set { state with files := files }
          match files.entryAt? location with
          | some (.device .full) => return .full
          | some (.device _) => return .nowhere
          | _ => return .file location

/-- Makes a number stand for what another one stands for. -/
def copyDescriptor (number source : Nat) : Running Unit := do
  let state ← get
  match state.channel? source with
  | some channel => set (state.direct number (some channel))
  | none => fail s!"{inBase 10 source}: Bad file descriptor"

def redirect (target : Target) : Running Unit := do
  let state ← get
  let number := target.number
  match target.kind, descriptor? target.text with
  | none, _ => set (state.attach number ⟨target.text, false⟩)
  | some .copy, _ =>
      match count? target.text with
      | some source => copyDescriptor number source
      | none => set (state.direct number none)
  | some _, some source => copyDescriptor number source
  | some .read, none =>
      match state.scene "" |>.read target.text with
      | .ok text => set (state.attach number ⟨text, true⟩)
      | .error cause => fail s!"cannot open {target.text}: {openMessage false cause}"
  | some .readWrite, none =>
      let _ ← openFile .readWrite target.text
      let state ← get
      match state.scene "" |>.read target.text with
      | .ok text => set (state.attach number ⟨text, true⟩)
      | .error _ => return
  | some kind, none =>
      let channel ← openFile kind target.text
      modify fun state => state.direct number (some channel)

/-- Runs something with redirections, and takes these back unless they are to stay. Where one fails,
the run does not go on if it is `strict`; otherwise only this part of it has failed. -/
def redirected (substitute : Substitution) (moves : List Move) (strict : Bool)
    (body : Running Unit) (stay : Bool) : Running Unit := do
  let targets ← moves.mapM (targetOf substitute)
  within
    (do
      match ← attempt (targets.forM redirect) with
      | .ok _ => body
      | .error .fault => if strict then throw .fault else exitWith 2
      | .error cause => throw cause)
    fun before after => if stay then after else { after with channels := before.channels }

end SqlColumns.Shell.Script
