import InputPanel.CommandLine
import InputPanel.Failure
import InputPanel.FileTree

/-!
# Invocations

The program is invoked with a command and its options. Options before the command
are for all commands: whether the report is JSON, and what is logged.
-/

namespace InputPanel

/-- The panel that a command is about, and what is selected and preset for it. -/
structure PanelRequest where
  document : FilePath
  panel : Option String
  packs : Option String
  assignments : List String
deriving DecidableEq, Repr

inductive Command where
  | run (request : PanelRequest) (properties answers output : Option FilePath)
  | apply (request : PanelRequest) (properties : FilePath) (output : Option FilePath)
  | template (request : PanelRequest) (output : Option FilePath)
  | inspect (request : PanelRequest)
  | config (action : String) (key value : Option String)
deriving DecidableEq, Repr

namespace Command

/-- The paths that a command reads or writes. -/
def paths : Command → List FilePath
  | run request properties answers output =>
    request.document :: (properties.toList ++ answers.toList ++ output.toList)
  | apply request properties output => request.document :: properties :: output.toList
  | template request output => request.document :: output.toList
  | inspect request => [request.document]
  | config .. => []

/-- Whether a person answers the questions of a command. -/
def isInteractive : Command → Bool
  | run _ _ answers _ => answers.isNone
  | _ => false

def help : OptionForm := .flag ["--help"]

def panel : OptionForm := .valued ["--panel", "-p"]

def packs : OptionForm := .valued ["--packs"]

def assignment : OptionForm := .valued ["--var"]

def save : OptionForm := .valued ["--save", "-o"]

def output : OptionForm := .valued ["--output", "-o"]

def properties : OptionForm := .valued ["--properties"]

def answers : OptionForm := .valued ["--answers"]

/-- The options of a command, if there is such a command. -/
def forms? : String → Option (List OptionForm)
  | "run" => some [help, panel, packs, assignment, properties, answers, save]
  | "apply" => some [help, panel, packs, assignment, save]
  | "template" => some [help, panel, packs, output]
  | "inspect" => some [help, panel, packs, assignment]
  | "config" => some [help]
  | _ => none

def path? (line : CommandLine) (form : OptionForm) : Option FilePath :=
  (line.value? form.name).map FilePath.ofText

def request (line : CommandLine) (document : String) : PanelRequest :=
  ⟨.ofText document, line.value? panel.name, line.value? packs.name, line.values assignment.name⟩

/-- The command with a name and the words after it. -/
def ofLine? (name : String) (line : CommandLine) : Option Command :=
  match name, line.words with
  | "run", [document] =>
    some (.run (request line document) (path? line properties) (path? line answers)
      (path? line save))
  | "apply", [document, properties] =>
    some (.apply (request line document) (.ofText properties) (path? line save))
  | "template", [document] => some (.template (request line document) (path? line output))
  | "inspect", [document] => some (.inspect (request line document))
  | "config", [action] => some (.config action none none)
  | "config", [action, key] => some (.config action (some key) none)
  | "config", [action, key, value] => some (.config action (some key) (some value))
  | _, _ => none

end Command

/-- What the words of a command line ask for. -/
inductive Invocation where
  | version
  | help
  | misuse
  | perform (isJson : Bool) (least : Level) (command : Command)

namespace Invocation

def json : OptionForm := .flag ["--json"]

def versionFlag : OptionForm := .flag ["--version"]

def verbose : OptionForm := .flag ["--verbose", "-v"]

def debug : OptionForm := .flag ["--debug"]

def forms : List OptionForm := [Command.help, json, versionFlag, verbose, debug]

/-- The least severe notices that are logged. -/
def leastLevel (line : CommandLine) : Level :=
  if line.has debug.name then .debug else if line.has verbose.name then .info else .warning

/-- The command that words give, with what the options before it say. -/
def ofCommand (line : CommandLine) (name : String) (words : List String) : Option Invocation := do
  let own ← CommandLine.parse (← Command.forms? name) true words
  if own.has Command.help.name then return .help
  else return .perform (line.has json.name) (leastLevel line) (← Command.ofLine? name own)

def ofWords (words : List String) : Invocation :=
  match CommandLine.parse forms false words with
  | none => misuse
  | some line =>
    let isEager := fun (option : String × String) =>
      option.1 == versionFlag.name || option.1 == Command.help.name
    match line.options.find? isEager, line.words with
    | some option, _ => if option.1 = versionFlag.name then version else help
    | none, name :: words => (ofCommand line name words).getD misuse
    | none, [] => misuse

end Invocation

end InputPanel
