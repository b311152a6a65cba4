import SqlColumns.Shell.Tools.Making

/-!
# Programs that copy, move and link files

What these programs work on has a name of its own and gets another one: the last word, or the same
name inside of it where it leads to a directory.
-/

set_option autoImplicit false

namespace SqlColumns.Shell.Tools

/-- The names that work is done on, and where they go: into a directory, or to one path. -/
structure Goal where
  names : List String
  target : String
  folder : Bool

/-- The goal that operands tell: `given` is a directory that an option tells, and `single` says that
the last operand is no directory even where it is one. -/
def goalOf (scene : Scene) (isFolder : String → Bool) (given : Option String) (single : Bool)
    (operands : List String) : Except Ended Goal :=
  let refused (kind name : String) : Except Ended Goal :=
    let cause := match scene.files.lookup (pathOf name) with
      | .ok _ => OsError.notDirectory
      | .error cause => cause
    .error (scene.failure 1 s!"target {kind}{quoted name}: {plainMessage cause}")
  match given, operands.getLast?, operands.dropLast with
  | _, none, _ => .error (missingOperand 1 "file operand" scene operands)
  | some target, _, _ =>
      if isFolder target then .ok ⟨operands, target, true⟩ else refused "directory " target
  | none, some last, [] =>
      .error (missingOperand 1 s!"destination file operand after {quoted last}" scene operands)
  | none, some target, [name] => .ok ⟨[name], target, !single && isFolder target⟩
  | none, some target, names =>
      if single then extraOperand 1 target scene operands |> .error
      else if isFolder target then .ok ⟨names, target, true⟩
      else refused "" target

def Goal.pathFor (goal : Goal) (name : String) : String :=
  if goal.folder then inside goal.target (lastName name "") else goal.target

def isWithin (outer inner : Location) : Bool :=
  outer.isPrefixOf inner

/-- How files are copied: with what is in directories, following links, keeping permissions, never
over what is there, with words about it, and after questions; and whether links are made instead. -/
structure Copying where
  deep : Bool
  follows : Bool
  keeping : Bool
  never : Bool
  told : Bool
  asking : Bool
  forced : Bool
  links : Option Bool

/-- The place of a path that something is copied to: the file that it leads to, or its own last
link. -/
def targetPlace (files : FileSystem) (follows : Bool) (path : Path) :
    Except OsError FileSystem.Place :=
  if follows then files.find .file path else ownPlace files path

/-- Copies a tree into directories, in order; what cannot be copied is complained of. -/
def copyTree (scene : Scene) (how : Copying) (source target : Location) (name path : String)
    (work : Work) : Work :=
  let tree := (FileSystem.inOrder (work.files.subtree source)).filter fun one =>
    !isWithin target (source ++ one.1)
  tree.foldl (fun work (below, entry) =>
    let place := target ++ below
    let shown (start : String) : String :=
      below.foldl (fun path step => inside path (Octets.ofText step)) start
    let line := s!"{quoted (shown name)} -> {quoted (shown path)}"
    let mode := if how.keeping then work.files.modeAt (source ++ below)
      else work.files.modeAt (source ++ below) &&& (0o7777 ^^^ scene.mask)
    let put : Work :=
      (work.become ((work.files.set place entry).setMode place mode)).tell how.told line
    match work.files.entryAt? place, entry with
    | some .directory, .directory => work
    | some .directory, _ =>
        let other := quoted (shown path)
        work.complain s!"{scene.called}: cannot overwrite directory {other} with non-directory\n"
    | some _, .directory =>
        let complaint := s!"{quoted (shown path)} with directory {quoted (shown name)}"
        work.complain s!"{scene.called}: cannot overwrite non-directory {complaint}\n"
    | some _, _ => if how.never then work else put
    | none, _ => put) work

def copyFile (scene : Scene) (how : Copying) (source : Location) (name path : String)
    (work : Work) : Work :=
  let complain (reason : String) : Work := work.complain s!"{scene.called}: {reason}\n"
  let told (work : Work) : Work := work.tell how.told s!"{quoted name} -> {quoted path}"
  let entry := (work.files.entryAt? source).getD (.file [])
  let isLink := match entry with
    | .link _ => true
    | _ => false
  let content :=
    if isInput name then Octets.toBytes scene.input.text
    else ((work.files.read (FileSystem.pathTo source)).toOption).getD []
  let mode := work.files.modeAt source
  let ownFree := match ownPlace work.files (pathOf path) with
    | .ok (.taken _) => false
    | _ => true
  match targetPlace work.files (!isLink && how.links.isNone) (pathOf path) with
  | .error cause =>
      let cause := if cause = .isDirectory then .notDirectory else cause
      complain s!"cannot create regular file {quoted path}: {plainMessage cause}"
  | .ok (.free location) =>
      let hasMode := if how.keeping then mode else mode &&& (0o7777 ^^^ scene.mask)
      let put (entry : Entry) : Work := told (work.become (work.files.set location entry))
      match how.links, isLink with
      | some true, _ =>
          if name.startsWith "/" ∨ !path.toList.contains '/' then put (.link (pathOf name).text)
          else complain
            s!"{quoted path}: can make relative symbolic links only in current directory"
      | _, true => put entry
      | _, false =>
          if !ownFree ∧ how.links.isNone then
            complain s!"not writing through dangling symlink {quoted path}"
          else
            let made := work.files.set location (.file content)
            told (work.become (if hasMode = 0o644 then made else made.setMode location hasMode))
  | .ok (.taken location) =>
      if location = source then complain s!"{quoted name} and {quoted path} are the same file"
      else if work.files.entryAt? location = some .directory then
        complain s!"cannot overwrite directory {quoted path} with non-directory"
      else if how.never then work
      else
        let (agreed, work) :=
          if how.asking then work.ask s!"{scene.called}: overwrite {quoted path}? "
          else (true, work)
        if !agreed then { work with report := { work.report with failed := true } }
        else if isLink || how.links.isSome then
          let entry := if how.links = some true then .link (pathOf name).text else entry
          if !isLink ∧ !how.forced then
            let kind := if how.links = some true then "symbolic" else "hard"
            complain s!"cannot create {kind} link {quoted path} to {quoted name}: File exists"
          else told (work.become (work.files.set location entry))
        else
          match work.files.write (pathOf path) content with
          | .ok files =>
              let files := if how.keeping then files.setMode location mode else files
              told (work.become files)
          | .error cause =>
              complain s!"cannot create regular file {quoted path}: {plainMessage cause}"

def copyOne (scene : Scene) (how : Copying) (goal : Goal) (work : Work) (name : String) : Work :=
  let path := goal.pathFor name
  let complain (reason : String) : Work := work.complain s!"{scene.called}: {reason}\n"
  let found := if isInput name then .ok ["dev", "stdin"]
    else if how.follows then work.files.locate (pathOf name)
    else ownLocation work.files (pathOf name)
  match found with
  | .error cause => complain s!"cannot stat {quoted name}: {plainMessage cause}"
  | .ok source =>
      if work.files.entryAt? source = some .directory then
        if !how.deep then complain s!"-r not specified; omitting directory {quoted name}"
        else
          match work.files.find .entry (pathOf path) with
          | .error cause =>
              complain s!"cannot create directory {quoted path}: {plainMessage cause}"
          | .ok (.free target) | .ok (.taken target) =>
              let copied := copyTree scene how source target name path work
              if isWithin source target then
                let start := s!"{scene.called}: cannot copy a directory, {quoted name}"
                copied.complain (start ++ s!", into itself, {quoted path}\n")
              else copied
      else
        match work.files.lookup (pathOf path) with
        | .error .notDirectory =>
            if path.endsWith "/" then
              complain s!"cannot create regular file {quoted path}: {plainMessage .notDirectory}"
            else complain s!"cannot stat {quoted path}: {plainMessage .notDirectory}"
        | _ => copyFile scene how source name path work

def leadsToFolder (scene : Scene) (name : String) : Bool :=
  scene.files.isDirectory (pathOf name)

def copy : Utility :=
  withOptions 1 ⟨"abdfHilLnprRst:TuvxP", [("archive", 'a'), ("force", 'f'), ("interactive", 'i'),
    ("link", 'l'), ("dereference", 'L'), ("no-clobber", 'n'), ("no-dereference", 'P'),
    ("preserve", 'p'), ("recursive", 'r'), ("symbolic-link", 's'), ("target-directory", 't'),
    ("no-target-directory", 'T'), ("update", 'u'), ("verbose", 'v'),
    ("one-file-system", 'x')]⟩ false fun scene choices operands =>
      let has (letters : String) : Bool :=
        choices.any fun choice => letters.toList.contains choice.letter
      let deep := has "arR"
      let follows := match lastOf? choices "aPdLH" with
        | some 'L' => true
        | some 'H' => true
        | some _ => false
        | none => !deep
      let overwriting := lastOf? choices "fin"
      let how : Copying :=
        { deep
          follows
          keeping := has "ap"
          never := overwriting = some 'n'
          told := has "v"
          asking := overwriting = some 'i'
          forced := has "f"
          links := if has "s" then some true else if has "l" then some false else none }
      match goalOf scene (leadsToFolder scene) (valueOf? choices 't') (has "T") operands with
      | .error ended => ended
      | .ok goal => scene.doEach goal.names (copyOne scene how goal)

/-- How files are moved: never over what is there, with words about it, and after questions. -/
structure Moving where
  never : Bool
  told : Bool
  asking : Bool

def moveOne (scene : Scene) (how : Moving) (goal : Goal) (work : Work) (name : String) : Work :=
  let path := goal.pathFor name
  let complain (reason : String) : Work := work.complain s!"{scene.called}: {reason}\n"
  let bare (name : String) : Path :=
    let stripped := String.ofList (withoutSlashes name)
    pathOf (if stripped.isEmpty then name else stripped)
  match ownLocation work.files (pathOf name) with
  | .error cause => complain s!"cannot stat {quoted name}: {plainMessage cause}"
  | .ok _ =>
      let source := (ownLocation work.files (bare name)).toOption.getD []
      let isFolder := work.files.entryAt? source == some .directory
      match ownPlace work.files (if isFolder then bare path else pathOf path) with
      | .error .notDirectory =>
          if path.endsWith "/" then
            complain s!"cannot move {quoted name} to {quoted path}: {plainMessage .notDirectory}"
          else complain s!"cannot stat {quoted path}: {plainMessage .notDirectory}"
      | .error cause =>
          complain s!"cannot move {quoted name} to {quoted path}: {plainMessage cause}"
      | .ok (.free target) =>
          if path.endsWith "/" ∧ !isFolder then
            complain s!"cannot move {quoted name} to {quoted path}: {plainMessage .notDirectory}"
          else if isWithin source target then
            complain s!"cannot move {quoted name} to a subdirectory of itself, {quoted path}"
          else
            (work.become (work.files.move source target)).tell how.told
              s!"renamed {quoted name} -> {quoted path}"
      | .ok (.taken target) =>
          let ontoFolder := work.files.entryAt? target == some .directory
          if source = target then complain s!"{quoted name} and {quoted path} are the same file"
          else if ontoFolder ∧ !isFolder then
            complain s!"cannot overwrite directory {quoted path} with non-directory"
          else if isFolder ∧ !ontoFolder then
            let other := s!"{quoted path} with directory {quoted name}"
            complain s!"cannot overwrite non-directory {other}"
          else if isWithin source target then
            complain s!"cannot move {quoted name} to a subdirectory of itself, {quoted path}"
          else if how.never then complain s!"not replacing {quoted path}"
          else if ontoFolder ∧ !work.files.isEmptyAt target then
            complain s!"cannot overwrite {quoted path}: Directory not empty"
          else
            let (agreed, work) :=
              if how.asking then work.ask s!"{scene.called}: overwrite {quoted path}? "
              else (true, work)
            if !agreed then { work with report := { work.report with failed := true } }
            else
              (work.become (work.files.move source target)).tell how.told
                s!"renamed {quoted name} -> {quoted path}"

def move : Utility :=
  withOptions 1 ⟨"bfint:TuvZ", [("force", 'f'), ("interactive", 'i'), ("no-clobber", 'n'),
    ("target-directory", 't'), ("no-target-directory", 'T'), ("update", 'u'), ("verbose", 'v')]⟩
    false fun scene choices operands =>
      let overwriting := lastOf? choices "fin"
      let how : Moving := ⟨overwriting = some 'n', given choices 'v', overwriting = some 'i'⟩
      let single := given choices 'T'
      match goalOf scene (leadsToFolder scene) (valueOf? choices 't') single operands with
      | .error ended => ended
      | .ok goal => scene.doEach goal.names (moveOne scene how goal)

/-- How links are made: with paths in them, in place of what is there, never over what is there, as
paths from where they lie, following links, and with words about it. -/
structure Linking where
  soft : Bool
  forced : Bool
  relative : Bool
  follows : Bool
  told : Bool

def pathBetween (folder location : Location) : String :=
  let shared := ((folder.zip location).takeWhile fun one => one.1 == one.2).length
  let steps := List.replicate (folder.length - shared) ".." ++ location.drop shared
  if steps.isEmpty then "." else "/".intercalate steps

def linkTo (scene : Scene) (how : Linking) (work : Work) (name path : String) : Work :=
  let complain (reason : String) : Work := work.complain s!"{scene.called}: {reason}\n"
  let kind := if how.soft then "symbolic" else "hard"
  let arrow := if how.soft then "->" else "=>"
  let refused (reason : String) : Work :=
    complain s!"failed to create {kind} link {quoted path}{reason}"
  let found :=
    if how.follows then work.files.locate (pathOf name) else ownLocation work.files (pathOf name)
  let entry : Except OsError Entry :=
    match how.soft, found with
    | true, _ => .ok (.link (pathOf name).text)
    | false, .error cause => .error cause
    | false, .ok location => .ok ((work.files.entryAt? location).getD (.file []))
  match entry with
  | .error cause => complain s!"failed to access {quoted name}: {plainMessage cause}"
  | .ok .directory => complain s!"{plainlyQuoted name}: hard link not allowed for directory"
  | .ok entry =>
      let put (location : Location) : Work :=
        let entry := match how.soft, how.relative, found with
          | true, true, .ok source => .link (pathBetween location.dropLast source)
          | _, _, _ => entry
        let mode := found.toOption.bind work.files.ownMode?
        (work.become (work.files.setLike location entry (if how.soft then none else mode))).tell
          how.told s!"{quoted path} {arrow} {quoted name}"
      if name.isEmpty then refused s!" {arrow} {quoted name}: {plainMessage .notFound}"
      else
        match ownPlace work.files (pathOf path) with
        | .error cause =>
            let reason := if how.soft then "" else s!" {arrow} {quoted name}"
            refused s!"{reason}: {plainMessage cause}"
        | .ok (.free location) =>
            if path.endsWith "/" then
              let reason := if how.soft then "" else s!" {arrow} {quoted name}"
              refused s!"{reason}: {plainMessage .notFound}"
            else put location
        | .ok (.taken location) =>
            if how.forced then
              if work.files.entryAt? location = some .directory then
                complain s!"{plainlyQuoted path}: cannot overwrite directory"
              else if (ownLocation work.files (pathOf name)).toOption = some location then
                complain s!"{quoted name} and {quoted path} are the same file"
              else put location
            else refused ": File exists"

def link : Utility :=
  withOptions 1 ⟨"bdfFiLnPrst:Tv", [("symbolic", 's'), ("force", 'f'), ("interactive", 'i'),
    ("no-dereference", 'n'), ("relative", 'r'), ("target-directory", 't'),
    ("no-target-directory", 'T'), ("verbose", 'v'), ("logical", 'L'), ("physical", 'P')]⟩ false
    fun scene choices operands =>
      let how : Linking :=
        { soft := given choices 's'
          forced := given choices 'f'
          relative := given choices 'r'
          follows := lastOf? choices "LP" == some 'L'
          told := given choices 'v' }
      let isFolder (name : String) : Bool :=
        leadsToFolder scene name &&
          !(given choices 'n' &&
            match lookupOwn? scene.files (pathOf name) with
            | some (.link _) => true
            | _ => false)
      match operands with
      | [name] =>
          if given choices 't' then
            match goalOf scene isFolder (valueOf? choices 't') false operands with
            | .error ended => ended
            | .ok goal =>
                scene.doEach [name] fun work name => linkTo scene how work name (goal.pathFor name)
          else
            scene.doEach [name] fun work name =>
              linkTo scene how work name (inside "." (lastName name ""))
      | _ =>
          match goalOf scene isFolder (valueOf? choices 't') (given choices 'T') operands with
          | .error ended => ended
          | .ok goal =>
              scene.doEach goal.names fun work name =>
                linkTo scene how work name (goal.pathFor name)

def linkPlainly : Utility :=
  withOptions 1 ⟨"", []⟩ false fun scene _ operands =>
    match operands with
    | [] => missingOperand 1 "operand" scene operands
    | [name] => missingOperand 1 s!"operand after {quoted name}" scene operands
    | [name, path] =>
        let refused (reason : String) : Ended :=
          scene.failure 1 s!"cannot create link {quoted path} to {quoted name}: {reason}"
        match ownLocation scene.files (pathOf name), ownPlace scene.files (pathOf path) with
        | .error cause, _ | _, .error cause => refused (plainMessage cause)
        | _, .ok (.taken _) => refused "File exists"
        | .ok source, .ok (.free location) =>
            match scene.files.entryAt? source with
            | some .directory => refused "Operation not permitted"
            | entry =>
                let mode := scene.files.ownMode? source
                let files := scene.files.setLike location (entry.getD (.file [])) mode
                { scene.success "" with files }
    | _ :: _ :: extra :: _ => extraOperand 1 extra scene operands

/-- Copies files and gives them permissions, or makes directories. -/
def install : Utility :=
  withOptions 1 ⟨"bcCdDg:m:o:pst:Tv", [("directory", 'd'), ("mode", 'm'), ("owner", 'o'),
    ("group", 'g'), ("target-directory", 't'), ("no-target-directory", 'T'), ("verbose", 'v')]⟩
    false fun scene choices operands =>
      let mode := match valueOf? choices 'm' with
        | some text => (Mode.change? text 0 false 0).getD 0o755
        | none => 0o755
      if given choices 'd' then
        if operands.isEmpty then missingOperand 1 "file operand" scene operands
        else
          scene.doEach operands fun work name =>
            makeFolders scene (some mode) (given choices 'v') work (pathPrefixes name)
      else
        match goalOf scene (leadsToFolder scene) (valueOf? choices 't') (given choices 'T')
            operands with
        | .error ended => ended
        | .ok goal =>
            let how : Copying :=
              { deep := false
                follows := true
                keeping := false
                never := false
                told := given choices 'v'
                asking := false
                forced := false
                links := none }
            scene.doEach goal.names fun work name =>
              let parts := pathPrefixes (folderName (goal.pathFor name))
              let work :=
                if given choices 'D' then makeFolders scene none false work parts else work
              if work.files.isDirectory (pathOf name) then
                work.complain s!"{scene.called}: omitting directory {quoted name}\n"
              else
                let copied := copyOne scene how goal work name
                match copied.files.locate (pathOf (goal.pathFor name)) with
                | .ok location => copied.become (copied.files.setMode location mode)
                | .error _ => copied

end SqlColumns.Shell.Tools
