import SqlColumns.Shell.Records.Run

/-!
# Working on records

The program that runs programs over records: its options, and where the program comes from.
-/

set_option autoImplicit false

namespace SqlColumns.Shell.Tools

namespace Processing

/-- What options tell: the separator of fields, variables, and the files with the program. -/
structure Order where
  separator : Option String
  settings : List (String × String)
  files : List String

/-- Why a program is not run: because only something about it is told, or because of a complaint. -/
inductive Refusal where
  | told (text : String)
  | wrong (complaint : String)

def usage : String :=
  "Usage: mawk [Options] [Program] [file ...]\n\nProgram:\n" ++
  "    The -f option value is the name of a file containing program text.\n" ++
  "    If no -f option is given, a \"--\" ends option processing; the following\n" ++
  "    parameters are the program text.\n\nOptions:\n" ++
  "    -f program-file  Program  text is read from file instead of from the\n" ++
  "                     command-line.  Multiple -f options are accepted.\n" ++
  "    -F value         sets the field separator, FS, to value.\n" ++
  "    -v var=value     assigns value to program variable var.\n" ++
  "    --               unambiguous end of options.\n\n" ++
  "    Implementation-specific options are prefixed with \"-W\".  They can be\n" ++
  "    abbreviated:\n\n" ++
  "    -W version       show version information and exit.\n" ++
  "    -W compat        pre-POSIX 2001.\n" ++
  "    -W dump          show assembler-like listing of program and exit.\n" ++
  "    -W help          show this message and exit.\n" ++
  "    -W interactive   set unbuffered output, line-buffered input.\n" ++
  "    -W exec file     use file as program as well as last option.\n" ++
  "    -W posix         stricter POSIX checking.\n" ++
  "    -W random=number set initial random seed.\n" ++
  "    -W sprintf=number adjust size of sprintf buffer.\n" ++
  "    -W usage         show this message and exit.\n"

def withOption (order : Order) (letter : Char) (value : String) : Except Refusal Order :=
  match letter with
  | 'F' => .ok { order with separator := some value }
  | 'f' => .ok { order with files := order.files ++ [value] }
  | 'v' =>
      match Records.Running.assignment? value with
      | some one => .ok { order with settings := order.settings ++ [one] }
      | none => .error (.wrong s!"improper assignment: -v {value}")
  | _ =>
      let isFor (name : String) : Bool := value.toList.isPrefixOf name.toList
      if isFor "version" then .error (.told "mawk 1.3.4 20240123\n")
      else if isFor "help" || isFor "usage" then .error (.told usage)
      else .ok order

def readOrder : Nat → Order → List String → Except Refusal (Order × List String)
  | 0, order, words => .ok (order, words)
  | _ + 1, order, [] => .ok (order, [])
  | fuel + 1, order, word :: words =>
      match word.toList with
      | ['-', '-'] => .ok (order, words)
      | '-' :: letter :: behind =>
          if word = "--version" then .error (.told "mawk 1.3.4 20240123\n")
          else if word = "--help" ∨ word = "--usage" then .error (.told usage)
          else if !"FfvW".toList.contains letter then
            .error (.wrong s!"not an option: {word}")
          else
            match behind, words with
            | [], [] =>
                .error (.wrong ("option -" ++ String.singleton letter ++ " lacks argument"))
            | [], value :: words => do readOrder fuel (← withOption order letter value) words
            | behind, words => do
                readOrder fuel (← withOption order letter (String.ofList behind)) words
      | _ => .ok (order, word :: words)

def programIn (scene : Scene) (names : List String) : Except Refusal String := do
  let texts ← names.mapM fun name =>
    match if name = "-" then .ok scene.input.text else scene.read name with
    | .ok text => .ok text
    | .error cause =>
        .error (Refusal.wrong ("cannot open \"" ++ name ++ s!"\" ({plainMessage cause})"))
  return String.join texts

end Processing

def process (launch : Launcher) : Utility := fun scene words =>
  let complain (complaints : List String) : Ended :=
    scene.ended 2 "" (String.join (complaints.map fun one => s!"{scene.called}: {one}\n"))
  match Processing.readOrder (words.length + 1) ⟨none, [], []⟩ words with
  | .error (.told text) => scene.success text
  | .error (.wrong complaint) => complain [complaint]
  | .ok (order, operands) =>
      if order.files.isEmpty ∧ operands.isEmpty then scene.success Processing.usage
      else
        let text := if order.files.isEmpty then .ok (operands.headD "")
          else Processing.programIn scene order.files
        let operands := if order.files.isEmpty then operands.drop 1 else operands
        match text with
        | .error (.told text) => scene.success text
        | .error (.wrong complaint) => complain [complaint]
        | .ok text =>
            match Records.programOf text with
            | .error complaints =>
                let source := (order.files.getLast?).elim "" (· ++ ": ")
                complain (complaints.map fun one => source ++ one)
            | .ok program =>
                let settings := order.settings ++
                  (order.separator.map fun value => ("FS", value)).toList
                Records.perform ⟨program, launch, scene⟩ operands settings

end SqlColumns.Shell.Tools
