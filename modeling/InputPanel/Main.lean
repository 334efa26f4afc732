import InputPanel.Command

/-!
# The program

Looks up on the disk what a command is about, carries the command out, and
writes back what has changed. While a person answers, the command is carried out
again for each answer; what it shows then begins with what has been shown.
-/

namespace InputPanel.Program

def diskPath (place : Location) : String := "/" ++ "/".intercalate place

def entryAt (place : Location) : IO (Option Entry) := do
  let path := (← IO.currentDir) / diskPath place
  match ← path.metadata.toBaseIO with
  | .error _ => return none
  | .ok found =>
    match found.type with
    | .dir => return some .directory
    | .file => return some (.file (← IO.FS.readBinFile path).toList)
    | _ => return some (.file [])

/-- The entries of the disk that paths pass or lead to. -/
def lookUp (working : Location) (paths : List FilePath) : IO FileTree := do
  let tree : FileTree := ⟨[], working⟩
  let places := paths.flatMap fun path => (tree.origin path).passed path.names
  let places := (Location.passed [] working ++ places).eraseDups.filter (· != [])
  let entries ← places.filterMapM fun place => do
    return (← entryAt place).map fun entry => (place, entry)
  return { tree with entries }

def writeBack (before after : FileTree) : IO Unit := do
  for (place, entry) in after.entries do
    if before.entry? place != some entry then
      match entry with
      | .directory => IO.FS.createDirAll (diskPath place)
      | .file bytes => IO.FS.writeBinFile (diskPath place) ⟨bytes.toArray⟩
  for (place, _) in before.entries do
    if (after.entry? place).isNone then IO.FS.removeFile (diskPath place)

/-- The variables that settings and an environment file look at. -/
def readEnvironment (files : FileTree) : IO (OrderedMap String) := do
  let text := (EnvironmentFile.bytes? files).bind fun bytes => (FileTree.textOf bytes).toOption
  let s := (text.getD "").toList
  let bound := (EnvironmentFile.bindings (s.length + 1) s).map Prod.fst
  let names := Setting.all.map Setting.variableName ++ EnvironmentFile.referencedNames s ++ bound
  names.foldlM (fun environment name => do
    match ← IO.getEnv name with
    | some value => return environment.set name value
    | none => return environment) OrderedMap.empty

def readSurroundings (paths : List FilePath) : IO Surroundings := do
  let working := (FilePath.ofText (← IO.currentDir).toString).names
  let home := FilePath.ofText ((← IO.getEnv "HOME").getD "/")
  let configFile := { home with names := home.names ++ [".config", "userinput", "config.json"] }
  let variablesFiles := (EnvironmentFile.places working).map fun place => ⟨true, place⟩
  let files ← lookUp working (variablesFiles ++ configFile :: paths)
  return { files, environment := ← readEnvironment files, configFile }

/-- The family of the platform, told by what only one kind of platform has. -/
def readFamily : IO String := do
  if (← IO.getEnv "OS") == some "Windows_NT" then return Family.windows
  else if (← entryAt ["System", "Library", "CoreServices"]).isSome then return Family.mac
  else return Family.unix

def eventText : Event → String
  | .print text => text ++ "\n"
  | .prompt text => text
  | .hidden text => text
  | .table title columns rows =>
    String.join ((title :: (columns :: rows).map (" | ".intercalate ·)).map (· ++ "\n"))

def showEvents (events : List Event) : IO Unit := do
  for event in events do IO.print (eventText event)
  (← IO.getStdout).flush

/-- The events up to the first question that has no answer, counted. -/
def countToOpen (answered : Nat) : List Event → Option Nat
  | [] => none
  | event :: rest =>
    match event.isQuestion, answered with
    | true, 0 => some 1
    | true, answered + 1 => (countToOpen answered rest).map (· + 1)
    | false, answered => (countToOpen answered rest).map (· + 1)

/-- Carries out what is asked for, and reads an answer wherever one is waited for; `shown` events
have been shown. -/
partial def converse (complete : List String → Completion) (isInteractive : Bool)
    (answers : List String) (shown : Nat) : IO Completion := do
  let made := complete answers
  match if isInteractive then countToOpen answers.length made.events else none with
  | none =>
    showEvents (made.events.drop shown)
    return made
  | some count =>
    showEvents ((made.events.take count).drop shown)
    let line ← (← IO.getStdin).getLine
    if line.isEmpty then
      showEvents (made.events.drop count)
      return made
    else
      let answer := (AnswerSource.linesOf line.toList).headD ""
      converse complete isInteractive (answers ++ [answer]) count

def run (words : List String) : IO UInt32 := do
  let invocation := Invocation.ofWords words
  let (paths, isInteractive, least) := match invocation with
    | .perform _ least command => (command.paths, command.isInteractive, least)
    | _ => ([], false, Level.warning)
  let surroundings ← readSurroundings paths
  let family ← readFamily
  let made ← converse (fun answers => invocation.complete surroundings family answers)
    isInteractive [] 0
  IO.print made.printed
  for line in Notice.lines least made.notices do IO.eprintln line
  for failure in made.failure do IO.eprintln failure.label
  writeBack surroundings.files made.files
  return made.exitCode.toNat.toUInt32

end InputPanel.Program

def main (words : List String) : IO UInt32 := InputPanel.Program.run words
