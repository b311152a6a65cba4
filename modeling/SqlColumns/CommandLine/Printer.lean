import SqlColumns.CommandLine.Setting

/-!
# Writing command lines

An invocation as words: one word for each option with its value behind a sign of equality, one word
for each flag that is set, the common ones in front of the word for the command and the others
behind it.
-/

set_option autoImplicit false

namespace SqlColumns

namespace CommandLine

def Setting.word (setting : Setting) (value : String) : String :=
  if setting.isFlag then "--" ++ setting.long else "--" ++ setting.long ++ "=" ++ value

def flagIf (setting : Setting) (isSet : Bool) : List (Setting × String) :=
  if isSet then [(setting, "")] else []

def optionIf (setting : Setting) (value : Option String) : List (Setting × String) :=
  value.toList.map fun text => (setting, text)

def BookOptions.settings (book : BookOptions) : List (Setting × String) :=
  [(.workbook, book.workbook.text)] ++ book.sheets.map (fun name => (Setting.sheet, name)) ++
    [(.resultSheet, book.resultSheet)]

def layoutSettings (layout : Layout) : List (Setting × String) :=
  [(.columnHeader, layout.columnHeader), (.changeTypeHeader, layout.changeTypeHeader),
    (.renameMarker, layout.renameMarker), (.oldHeader, layout.oldHeader),
    (.newHeader, layout.newHeader), (.fileHeader, layout.fileHeader)]

def Action.name : Action → CommandName
  | .sheets _ => .sheets
  | .scan _ => .scan
  | .rename _ => .rename
  | .doctor => .doctor

def Action.settings : Action → List (Setting × String)
  | .sheets workbook => [(.workbook, workbook.text)]
  | .scan options =>
      options.book.settings ++ layoutSettings options.layout ++
        flagIf .noWrite options.noWrite ++ flagIf .skipHidden options.skipHidden ++
        flagIf .respectIgnore options.respectIgnore
  | .rename options =>
      options.book.settings ++ layoutSettings options.layout ++
        flagIf .dryRun options.dryRun ++ flagIf .push options.push ++
        optionIf .defaultBranch options.defaultBranch ++ optionIf .branch options.branch ++
        optionIf .message options.message
  | .doctor => []

end CommandLine

namespace Invocation

def commonSettings (invocation : Invocation) : List (CommandLine.Setting × String) :=
  [(.root, invocation.root.text), (.format, invocation.format)] ++
    CommandLine.flagIf .noColour invocation.noColour ++
    CommandLine.flagIf .quiet invocation.quiet ++
    CommandLine.flagIf .verbose invocation.verbose ++
    CommandLine.flagIf .pretty invocation.pretty

def words (invocation : Invocation) : List String :=
  invocation.commonSettings.map (fun one => one.1.word one.2) ++
    [invocation.action.name.word] ++
    invocation.action.settings.map fun one => one.1.word one.2

end Invocation

end SqlColumns
