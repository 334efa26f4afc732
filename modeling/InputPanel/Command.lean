import InputPanel.Command.Configure
import InputPanel.Command.Panel

/-!
# Commands

Carrying out a command leaves files behind, shows and prints something, and ends
with an exit code. A failure that no command expects gives the exit code 1.
-/

namespace InputPanel

/-- What carrying out a command comes to. -/
structure Completion where
  exitCode : Int
  failure : Option Failure
  printed : String
  events : List Event
  notices : List Notice
  files : FileTree

namespace Command

def task : Command → Task Unit
  | run request properties answers output => Task.askPanel request properties answers output
  | apply request properties output => Task.fillPanel request properties output
  | template request output => Task.writeTemplate request output
  | inspect request => Task.listFields request
  | config action key value => Task.configure action key value

/-- How a task has ended, as an exit code and a failure. -/
def ending : Except Halt Unit → Int × Option Failure
  | .ok () => (0, none)
  | .error (.exit code) => (code, none)
  | .error (.failure failure) => (1, some failure)

/-- Carries out a command where answers will be given; `running` is the family of the platform. -/
def perform (command : Command) (isJson : Bool) (surroundings : Surroundings) (running : String)
    (answers : List String) : Completion :=
  let (ended, desk) := (ExceptT.run command.task).run
    { surroundings, running, answers, report := .initial isJson : Desk }
  let (exitCode, failure) := ending ended
  ⟨exitCode, failure, desk.printed, desk.events, desk.notices, desk.surroundings.files⟩

end Command

def versionText : String := "userinput 0.1.0\n"

namespace Completion

def plain (exitCode : Int) (printed : String) (surroundings : Surroundings) : Completion :=
  ⟨exitCode, none, printed, [], [], surroundings.files⟩

end Completion

/-- Carries out what the words of a command line ask for. -/
def Invocation.complete (surroundings : Surroundings) (running : String) (answers : List String) :
    Invocation → Completion
  | version => .plain 0 versionText surroundings
  | help => .plain 0 "" surroundings
  | misuse => .plain 2 "" surroundings
  | perform isJson _ command => command.perform isJson surroundings running answers

end InputPanel
