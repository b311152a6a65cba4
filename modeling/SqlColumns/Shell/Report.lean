import SqlColumns.Shell.Subtree

/-!
# Reports

What a program has written so far, and what has become of the files that it works on. A program that
works on several names goes on behind those that it has to complain of.
-/

set_option autoImplicit false

namespace SqlColumns.Shell

/-- What a program writes, in order, and whether it has complained. -/
structure Report where
  written : List (Stream × String)
  failed : Bool

def Report.print (report : Report) (text : String) : Report :=
  if text.isEmpty then report else { report with written := report.written ++ [(.output, text)] }

def Report.complain (report : Report) (complaint : String) : Report :=
  ⟨report.written ++ [(.errors, complaint)], true⟩

def Report.ended (report : Report) (scene : Scene) (code : Nat) : Ended :=
  ⟨.exited (if report.failed then code else 0), report.written, scene.input, scene.files⟩

/-- Work on files: how far they have come, what was written, and what is left to read. -/
structure Work where
  files : FileSystem
  report : Report
  input : String

def Scene.work (scene : Scene) : Work :=
  ⟨scene.files, ⟨[], false⟩, scene.input.text⟩

def Work.print (work : Work) (text : String) : Work :=
  { work with report := work.report.print text }

def Work.tell (work : Work) (wanted : Bool) (line : String) : Work :=
  if wanted then work.print (line ++ "\n") else work

def Work.complain (work : Work) (complaint : String) : Work :=
  { work with report := work.report.complain complaint }

def Work.become (work : Work) (files : FileSystem) : Work :=
  { work with files }

/-- Asks something: whether the answer is yes, and the work behind it. -/
def Work.ask (work : Work) (question : String) : Bool × Work :=
  let written := work.report.written ++ [(.errors, question)]
  let answer := work.input.toList.takeWhile (· != '\n')
  let input := String.ofList (work.input.toList.drop (answer.length + 1))
  let agreed := answer.head?.any fun c => c == 'y' || c == 'Y'
  (agreed, ⟨work.files, { work.report with written }, input⟩)

def Work.ended (work : Work) (scene : Scene) : Ended :=
  { work.report.ended scene 1 with
    files := work.files
    left := { scene.input with text := work.input } }

def Scene.doEach (scene : Scene) (names : List String) (step : Work → String → Work) : Ended :=
  (names.foldl step scene.work).ended scene

end SqlColumns.Shell
