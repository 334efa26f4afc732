import InputPanel.Text.Case

/-!
# Platform families

A running platform belongs to one family. A Mac is a Unix too, but not the
other way round.
-/

namespace InputPanel.Family

def windows : String := "windows"

def mac : String := "mac"

def unix : String := "unix"

def known : List String := [windows, mac, unix]

/-- Whether a gate for a family admits the running one. An unknown family admits none. -/
def admits (family : Option String) (running : String) : Bool :=
  match family with
  | none => false
  | some family =>
    known.contains family && (family == running || (family == unix && running == mac))

/-- The family of a system by its name. -/
def ofSystem (system : String) : String :=
  let name := Text.lower system
  if name.startsWith "win" then windows else if name == "darwin" then mac else unix

end InputPanel.Family
