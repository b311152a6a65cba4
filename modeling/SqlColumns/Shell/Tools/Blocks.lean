import SqlColumns.Shell.Report
import SqlColumns.Shell.Tools.Printing

/-!
# Programs on blocks

Programs that take files apart: one copies blocks of bytes, and one writes parts of a file to files
of their own.
-/

set_option autoImplicit false

namespace SqlColumns.Shell.Tools

def blocksOf (size : Nat) : Nat → List Char → List (List Char)
  | 0, _ | _, [] => []
  | fuel + 1, text => text.take size :: blocksOf size fuel (text.drop size)

def blockConversions : List String :=
  ["ucase", "lcase", "notrunc", "sync", "noerror", "fsync", "fdatasync", "swab", "excl", "nocreat"]

def copyBlocks : Utility := fun scene words =>
  let operands := words.map fun word =>
    let name := word.toList.takeWhile (· != '=')
    (word, String.ofList name, if name.length = word.length then none
      else some (String.ofList (word.toList.drop (name.length + 1))))
  let known := ["if", "of", "bs", "ibs", "obs", "cbs", "count", "skip", "seek", "conv", "status",
    "iflag", "oflag"]
  let value (name : String) : Option String :=
    ((operands.filter fun one => one.2.1 == name).getLast?).bind (·.2.2)
  let numbers := ["bs", "ibs", "obs", "cbs", "count", "skip", "seek"].filterMap value
  let conversions := ((value "conv").map (·.splitOn ",")).getD []
  let unknown := operands.find? fun one => one.2.2.isNone || !known.contains one.2.1
  let wrong := numbers.find? fun text => (sizedCount? text).isNone
  let strange := conversions.find? fun name => !blockConversions.contains name
  match unknown, wrong, strange with
  | some (word, _), _, _ => scene.misuse 1 s!"unrecognized operand {cited word}"
  | none, some text, _ => scene.failure 1 s!"invalid number: {cited text}"
  | none, none, some name => scene.misuse 1 s!"invalid conversion: {cited name}"
  | none, none, none =>
      let number (name : String) : Option Nat := (value name).bind sizedCount?
      let input := (number "bs" <|> number "ibs").getD 512
      let output := (number "bs" <|> number "obs").getD 512
      if input = 0 ∨ output = 0 then scene.failure 1 "invalid number: '0'"
      else
        let reading := match value "if" with
          | some name => (name, scene.read name)
          | none => ("-", .ok scene.input.text)
        match reading with
        | (name, .error cause) =>
            let start := if cause = .isDirectory then s!"error reading {quoted name}"
              else s!"failed to open {quoted name}"
            scene.failure 1 s!"{start}: {plainMessage cause}"
        | (name, .ok text) =>
            let text := text.toList.drop (((number "skip").getD 0) * input)
            let part := match number "count" with
              | some count => text.take (count * input)
              | none => text
            let has (name : String) : Bool := conversions.contains name
            let written := (blocksOf input (part.length + 1) part).flatMap fun block =>
              let block := if has "ucase" then block.map Char.toUpper
                else if has "lcase" then block.map Char.toLower else block
              if has "sync" then block ++ List.replicate (input - block.length) '\x00' else block
            let records (size length : Nat) : String :=
              s!"{inBase 10 (length / size)}+{inBase 10 (if length % size = 0 then 0 else 1)}"
            let told := s!"{records input part.length} records in\n" ++
              s!"{records output written.length} records out\n"
            let copied := match written.length with
              | 1 => "1 byte copied, 0 s, Infinity B/s\n"
              | length => s!"{inBase 10 length} bytes copied, 0 s, Infinity B/s\n"
            let news := match value "status" with
              | some "none" => ""
              | some "noxfer" => told
              | _ => told ++ copied
            let fromInput := (value "if").isNone || isInput name
            let left := if fromInput then
                { scene.input with text := String.ofList (text.drop part.length) }
              else scene.input
            match value "of" with
            | none => { scene.ended 0 (String.ofList written) news with left }
            | some target =>
                let old := ((scene.files.read (pathOf target)).toOption.map Octets.ofBytes).getD ""
                let place := ((number "seek").getD 0) * output
                let front := old.toList.take place ++
                  List.replicate (place - old.length) '\x00'
                let behind := if has "notrunc" then old.toList.drop (place + written.length) else []
                let text := String.ofList (front ++ written ++ behind)
                match scene.write scene.files false target text with
                | .ok files => { scene.ended 0 "" news with files, left }
                | .error .noSpace =>
                    scene.failure 1 s!"error writing {quoted target}: {plainMessage .noSpace}"
                | .error cause =>
                    scene.failure 1 s!"failed to open {quoted target}: {plainMessage cause}"

def suffixOf (digits : Bool) (width number : Nat) : String :=
  let base := if digits then 10 else 26
  String.ofList ((List.range width).map fun place =>
    let digit := number / Nat.pow base (width - 1 - place) % base
    Char.ofNat (digit + if digits then '0'.toNat else 'a'.toNat))

def lineGroups (count : Nat) : Nat → List String → List String
  | 0, _ | _, [] => []
  | fuel + 1, lines => String.join (lines.take count) :: lineGroups count fuel (lines.drop count)

def equalParts (count : Nat) (text : List Char) : List String :=
  let size := text.length / count
  let extra := text.length % count
  (List.range count).map fun index =>
    let start := index * size + min index extra
    let stop := (index + 1) * size + min (index + 1) extra
    String.ofList ((text.take stop).drop start)

/-- Writes parts of a file to files of their own. -/
def split : Utility :=
  withOptions 1 ⟨"a:b:C:del:n:tuxS:", [("suffix-length", 'a'), ("bytes", 'b'), ("lines", 'l'),
    ("number", 'n'), ("numeric-suffixes", 'd'), ("additional-suffix", 'S'),
    ("elide-empty-files", 'e')]⟩ false fun scene choices names =>
      let wrong (kind text : String) : Ended :=
        scene.failure 1 s!"invalid number of {kind}: {cited text}"
      let chosen := (choices.filter fun choice => "bln".toList.contains choice.letter).getLast?
      let text := (chosen.bind (·.value)).getD "1000"
      let letter := (chosen.map (·.letter)).getD 'l'
      match names, (sizedCount? text).filter (0 < ·) with
      | _ :: _ :: extra :: _, _ => extraOperand 1 extra scene names
      | _, none =>
          wrong (match letter with | 'b' => "bytes" | 'n' => "chunks" | _ => "lines") text
      | _, some count =>
          let refused (name : String) (_ : OsError) : String :=
            s!"cannot open {quoted name} for reading"
          let readings := scene.readings refused (names.take 1)
          match complaintsIn readings with
          | complaint :: _ => scene.ended 1 "" complaint
          | [] =>
              let whole := String.join ((textsIn readings).map (·.2))
              let parts := match letter with
                | 'b' => (blocksOf count (whole.length + 1) whole.toList).map String.ofList
                | 'n' => equalParts count whole.toList
                | _ => lineGroups count (whole.length + 1) (linesOf whole)
              let parts := if given choices 'e' then parts.filter (!·.isEmpty) else parts
              let start := (names[1]?).getD "x"
              let width := ((valueOf? choices 'a').bind count?).getD 2
              let ending := (valueOf? choices 'S').getD ""
              let work := parts.zipIdx.foldl (fun (work : Work) (part, index) =>
                let name := start ++ suffixOf (given choices 'd') width index ++ ending
                match scene.write work.files false name part with
                | .ok files => work.become files
                | .error cause =>
                    work.complain s!"{scene.called}: {plainlyQuoted name}: {plainMessage cause}\n")
                scene.work
              (work.ended scene).afterReadingOf (names.take 1)

end SqlColumns.Shell.Tools
