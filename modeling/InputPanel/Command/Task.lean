import InputPanel.Config
import InputPanel.Report

/-!
# Tasks

A command is carried out as a task. A task shows events, prints, writes files
and logs, and ends with an exit code, or breaks off by a failure. What it has
done up to then stays done.
-/

namespace InputPanel

/-- What a task works with: where it is, its report, the answers that a person will give, and what
it has shown, printed and noted so far. -/
structure Desk where
  surroundings : Surroundings
  running : String
  answers : List String
  report : Report
  events : List Event := []
  printed : String := ""
  notices : List Notice := []

/-- How a task ends before its last step. -/
inductive Halt where
  | exit (code : Int)
  | failure (failure : Failure)

abbrev Task := ExceptT Halt (StateM Desk)

namespace Task

variable {α : Type}

def display (events : List Event) : Task Unit :=
  modify fun desk => { desk with events := desk.events ++ events }

def line (text : String) : Task Unit := display [.print text]

def print (text : String) : Task Unit :=
  modify fun desk => { desk with printed := desk.printed ++ text }

def note (notices : List Notice) : Task Unit :=
  modify fun desk => { desk with notices := desk.notices ++ notices }

/-- A value whose failure breaks the task off. -/
def expect : Except Failure α → Task α
  | .ok a => return a
  | .error failure => throw (.failure failure)

/-- A value with its notices, whose failure breaks the task off. -/
def expectNoted (made : Noted (Except Failure α)) : Task α := do
  note made.notices
  expect made.value

def files : Task FileTree := do return (← get).surroundings.files

def readers : Task Readers := do return (← get).surroundings.readers

def setFiles (files : FileTree) : Task Unit :=
  modify fun desk => { desk with surroundings := { desk.surroundings with files } }

/-- Writes a text as a file, and makes the directories that lead to it. -/
def write (path : FilePath) (text : String) : Task Unit := do
  let files ← expect ((← files).makeDirectory path.parent)
  setFiles files
  setFiles (← expect (files.write path text))

/-- The configuration, loaded anew. -/
def config : Task Config := do
  let (surroundings, made) := Config.load (← get).surroundings
  modify fun desk => { desk with surroundings }
  expectNoted made

/-- Saves a configuration. -/
def save (config : Config) : Task Unit := do
  let (surroundings, saved) := config.save (← get).surroundings
  modify fun desk => { desk with surroundings }
  expect saved

/-- Shows what a change of the report shows. -/
def report (change : Report → Report × List Event) : Task Unit := do
  let (report, events) := change (← get).report
  modify fun desk => { desk with report }
  display events

/-- Shows what a change of the report shows that may fail. -/
def reportOrFail (change : Report → Report × Except Failure (List Event)) : Task Unit := do
  let (report, events) := change (← get).report
  modify fun desk => { desk with report }
  display (← expect events)

def setData (key : String) (value : Data) : Task Unit :=
  report fun r => (r.setData key value, [])

/-- Finishes the report and ends the task with its exit code. -/
def finish : Task α := do
  let (report, text) := (← get).report.finish
  modify fun desk => { desk with report }
  print text
  throw (.exit report.exitCode)

/-- Reports an error and ends the task. -/
def giveUp (message : String) (exitCode : Int) : Task α := do
  reportOrFail fun r => r.error message none exitCode
  finish

end Task

end InputPanel
