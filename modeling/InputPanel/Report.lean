import InputPanel.Data
import InputPanel.Dialogue
import InputPanel.Json.Printer
import InputPanel.Text.Case

/-!
# Reports

A command reports to a person or to a program. For a person each message is
shown at once; for a program the data are gathered and printed as JSON at the
end. Either way the last error gives the exit code.
-/

namespace InputPanel

structure Report where
  isJson : Bool
  data : OrderedMap Data
  exitCode : Int

namespace Report

def initial (isJson : Bool) : Report :=
  ⟨isJson, .ofList [("status", .text "success"), ("warnings", .list []), ("errors", .list [])], 0⟩

def setData (report : Report) (key : String) (value : Data) : Report :=
  { report with data := report.data.set key value }

/-- A message with a suggestion below it, if there is one. -/
def messageLines (mark message : String) (suggestion : Option String) : List Event :=
  let hint := (suggestion.filter fun s => s != "").map fun s => "  [dim]→ " ++ s ++ "[/dim]"
  .print (mark ++ " " ++ message) :: hint.toList.map .print

def messageData (message : String) (suggestion : Option String) : Data :=
  let hint := (suggestion.filter fun s => s != "").map fun s => (.text "suggestion", .text s)
  .map ((.text "message", .text message) :: hint.toList)

/-- Adds an item to a list among the data. What is no list takes no items. -/
def append (report : Report) (key : String) (item : Data) : Except Failure Report :=
  match report.data.get? key with
  | some (.list items) => .ok (report.setData key (.list (items ++ [item])))
  | _ => .error .missingMember

def success (report : Report) (message : String) (data : List (String × Data)) :
    Report × List Event :=
  if report.isJson then ({ report with data := report.data.setAll data }, [])
  else (report, messageLines "[green]✓[/green]" message none)

/-- Shows a message, or adds it to a list among the data. -/
def tell (report : Report) (key mark message : String) (suggestion : Option String) :
    Report × Except Failure (List Event) :=
  if report.isJson then
    match report.append key (messageData message suggestion) with
    | .ok report => (report, .ok [])
    | .error failure => (report, .error failure)
  else (report, .ok (messageLines mark message suggestion))

def warning (report : Report) (message : String) (suggestion : Option String) :
    Report × Except Failure (List Event) :=
  report.tell "warnings" "[yellow]⚠[/yellow]" message suggestion

def error (report : Report) (message : String) (suggestion : Option String) (exitCode : Int) :
    Report × Except Failure (List Event) :=
  let report := { report with exitCode, data := report.data.set "status" (.text "error") }
  report.tell "errors" "[red]✗[/red]" message suggestion

/-- The key of a table, made from its title. -/
def keyOf (title : String) : String :=
  String.ofList ((Text.lower title).toList.map fun c => if c = ' ' then '_' else c)

/-- Cells with empty ones after them up to a width. -/
def widened (width : Nat) (cells : List String) : List String :=
  cells ++ List.replicate (width - cells.length) ""

/-- A table that is as wide as its longest row. -/
def tableEvent (title : String) (columns : List String) (rows : List (List String)) : Event :=
  let width := rows.foldl (fun width row => max width row.length) columns.length
  .table title (widened width columns) (rows.map (widened width))

def rowData (columns row : List String) : Data :=
  Data.mapOf ((columns.zip row).map fun (column, cell) => (.text column, .text cell))

def table (report : Report) (title : String) (columns : List String) (rows : List (List String))
    (key : Option String) : Report × List Event :=
  let key := (key.filter fun s => s != "").getD (keyOf title)
  if report.isJson then (report.setData key (.list (rows.map (rowData columns))), [])
  else (report, [tableEvent title columns rows])

/-- The end of a report: what is printed for a program. -/
def finish (report : Report) : Report × String :=
  if report.isJson then
    let report := report.setData "exit_code" (.int report.exitCode)
    let entries := report.data.toList.map fun (key, value) => (Data.text key, value)
    (report, Json.write (.map entries) ++ "\n")
  else (report, "")

end Report

end InputPanel
