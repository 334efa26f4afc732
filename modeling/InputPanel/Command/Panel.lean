import InputPanel.Command.Task
import InputPanel.Invocation
import InputPanel.Plugin.Validators
import InputPanel.Preset
import InputPanel.Session.Interview
import InputPanel.Text.Decoding

/-!
# Commands on panels

A panel may be asked, filled from a property file, turned into a template of one,
or looked at. A document that is missing, one that is of no use, and variables
that cannot be preset have exit codes of their own.
-/

namespace InputPanel

namespace ExitCode

def panelFailed : Int := 1

def documentError : Int := 2

def fileNotFound : Int := 3

def invalidArgument : Int := 4

end ExitCode

namespace Task

/-- The id of the panel that is meant: the one asked for, else the configured one, if any. -/
def panelId (request : PanelRequest) (config : Config) : Option Data :=
  match request.panel.filter fun id => id != "" with
  | some id => some (.text id)
  | none => if (config.value .panelId).isTrue then some (config.value .panelId) else none

def openPanel (request : PanelRequest) (config : Config) : Task LoadedPanel := do
  let files ← files
  if !files.has request.document then
    giveUp ("Spec file not found: " ++ request.document.text) ExitCode.fileNotFound
  else
    match LoadedPanel.load (← readers) files request.document (panelId request config) with
    | .ok loaded =>
      note loaded.notices
      return loaded.value
    | .error (.useless error) => giveUp error.brief ExitCode.documentError
    | .error (.broken failure) => throw (.failure failure)

/-- What is said of bytes that are no UTF-8. -/
def faultText (fault : Text.EncodingFault) : String :=
  let place :=
    if fault.length = 1 then
      "byte 0x" ++ String.ofList (Text.hexDigits 2 fault.first.toNat) ++ " in position " ++
        toString fault.position
    else
      "bytes in position " ++ toString fault.position ++ "-" ++
        toString (fault.position + fault.length - 1)
  "'utf-8' codec can't decode " ++ place ++ ": " ++ fault.reason

/-- What is said of a failure in the content of a file that counts as a bad argument. -/
def contentMessage? (files : FileTree) (path : FilePath) : Failure → Option String
  | .undecodable =>
    match files.read path with
    | .ok bytes => some (((Text.encodingFault? bytes).map faultText).getD "")
    | .error _ => none
  | .badValue => some ""
  | .unencodable => some ""
  | .untranslatable => some ""
  | .malformedJson => some ""
  | _ => none

/-- What is preset, unless it cannot be. -/
def orGiveUp {α : Type} (properties : Option FilePath) (made : Except PresetTrouble α) :
    Task α := do
  let files ← files
  match made with
  | .ok a => return a
  | .error (.assignment error) => giveUp error.message ExitCode.invalidArgument
  | .error (.file (.useless error)) => giveUp error.brief ExitCode.invalidArgument
  | .error (.file (.broken failure)) =>
    match properties.bind fun path => contentMessage? files path failure with
    | some message => giveUp message ExitCode.invalidArgument
    | none => throw (.failure failure)

def session (request : PanelRequest) (config : Config) (loaded : LoadedPanel) : Task Session := do
  let packs := request.packs.map Text.commaSeparated
  let settings ← expect (config.settings (← get).running packs none)
  return ⟨loaded.panel, some loaded.registry, Factory.standard, settings⟩

/-- The events up to the first question. -/
def untilQuestion : List Event → List Event
  | [] => []
  | event :: rest => if event.isQuestion then [event] else event :: untilQuestion rest

/-- Carries on a dialogue with answers from a source. -/
def converse {α : Type} (source : AnswerSource) (dialogue : Dialogue α) (store : Store) :
    Task (Outcome α) := do
  let outcome := dialogue store source.answers
  display (outcome.events.map source.view)
  note outcome.notices
  return outcome

/-- Begins a dialogue whose answers cannot be read; this shows when the first one is needed. -/
def converseUnread {α : Type} (dialogue : Dialogue α) (store : Store) (failure : Failure) :
    Task (Outcome α) := do
  let outcome := dialogue store []
  display ((untilQuestion outcome.events).map (AnswerSource.stream "").view)
  note outcome.notices
  if outcome.events.any Event.isQuestion then throw (.failure failure) else return outcome

/-- Carries on a dialogue with the answers of a file, or those that a person gives. -/
def converseWith {α : Type} (answers : Option FilePath) (dialogue : Dialogue α) (store : Store) :
    Task (Outcome α) := do
  match answers with
  | none => converse (.terminal (← get).answers) dialogue store
  | some path =>
    match (← files).readText path with
    | .ok text => converse (.stream text) dialogue store
    | .error .undecodable => converseUnread dialogue store .undecodable
    | .error failure => throw (.failure failure)

def saveStore (output : Option FilePath) (store : Store) : Task Unit :=
  match output with
  | some path => write path (Properties.write store)
  | none => return ()

def storeData (store : Store) : Data :=
  .map (store.toList.map fun (name, value) => (.text name, .text value))

/-- Asks a panel, and saves the variables when it is complete. -/
def askPanel (request : PanelRequest) (properties answers output : Option FilePath) :
    Task Unit := do
  let config ← config
  let loaded ← openPanel request config
  let store ← orGiveUp properties (Store.preset (← readers) (← files) properties request.assignments)
  let session ← session request config loaded
  let outcome ← converseWith answers session.run store
  if !(← expect outcome.value) then giveUp "Panel was not completed" ExitCode.panelFailed
  saveStore output outcome.store
  let message := "Panel complete (" ++ toString outcome.store.size ++ " variables)"
  report fun r => r.success message [("variables", storeData outcome.store)]
  finish

/-- Fills the variables of a panel from a property file. -/
def fillPanel (request : PanelRequest) (properties : FilePath) (output : Option FilePath) :
    Task Unit := do
  let config ← config
  let loaded ← openPanel request config
  let values ← orGiveUp (some properties)
    ((Properties.load (← readers) (← files) properties).mapError .file)
  let store ← orGiveUp none (Store.preset (← readers) (← files) none request.assignments)
  let session ← session request config loaded
  let store ← expectNoted (session.applyProperties values store)
  saveStore output store
  let message := "Applied " ++ toString store.size ++ " variables"
  report fun r => r.success message [("variables", storeData store)]
  if !(← get).report.isJson then
    display (store.toList.map fun (name, value) => .print ("  " ++ name ++ "=" ++ value))
  finish

/-- Writes the template of a panel to a file, or prints it. -/
def writeTemplate (request : PanelRequest) (output : Option FilePath) : Task Unit := do
  let config ← config
  let loaded ← openPanel request config
  let session ← session request config loaded
  match output with
  | none => print (← expectNoted (session.template OrderedMap.empty))
  | some path =>
    write path ""
    write path (← expectNoted (session.template OrderedMap.empty))
    report fun r => r.success ("Template written to " ++ path.text) [("output", .text path.text)]
    finish

/-- A choice by its value, or by its text if it has no value. -/
def choiceText (choice : Choice) : String :=
  ((choice.value.filter fun s => s != "").or choice.text).getD ""

/-- What a field offers, and the number of what is selected. -/
def offer : Field → List String
  | .password field => [toString field.inputs.length ++ " components", ""]
  | field =>
    [", ".intercalate (field.choices.map choiceText),
      if field.choices.isEmpty then "" else toString field.selectedIndex]

/-- The cells that describe a field, after its number. -/
def cells (field : Field) : List String :=
  [field.kind.name, field.target.getD "", field.preset.getD ""] ++ offer field

def numbered : Nat → List Field → List (List String)
  | _, [] => []
  | n, field :: rest => (toString n :: cells field) :: numbered (n + 1) rest

def columns : List String := ["#", "Kind", "Variable", "Default", "Choices", "Selected"]

/-- Lists the fields of a panel. -/
def listFields (request : PanelRequest) : Task Unit := do
  let config ← config
  let loaded ← openPanel request config
  let store ← orGiveUp none (Store.preset (← readers) (← files) none request.assignments)
  let session ← session request config loaded
  match ← expectNoted (session.collect store) with
  | none =>
    reportOrFail fun r =>
      r.warning "Panel is not applicable to the selected packs or platform" none
    setData "applicable" (.bool false)
  | some fields =>
    setData "applicable" (.bool true)
    let title := Text.trimmed ("Panel " ++ loaded.panel.getD "id" "")
    report fun r => r.table title columns (numbered 0 fields) (some "fields")
  finish

end Task

end InputPanel
