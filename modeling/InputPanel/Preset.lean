import InputPanel.Document

/-!
# Preset variables

Variables may be set before a panel is asked: from a property file, and then by
assignments `name=value`. White space around a name is ignored, that of a value
is kept.
-/

namespace InputPanel

/-- An item that assigns nothing. -/
structure BadAssignment where
  item : String
deriving DecidableEq, Repr

def BadAssignment.message (error : BadAssignment) : String :=
  "Expected name=value, got " ++ Text.quoted error.item

namespace Assignment

/-- The name and the value of an assignment, cut at the first equals sign. -/
def parse (item : String) : Except BadAssignment (String × String) :=
  match Text.cutAt '=' item.toList with
  | some (name, value) =>
    let name := Text.trim name
    if name.isEmpty then .error ⟨item⟩ else .ok (String.ofList name, String.ofList value)
  | none => .error ⟨item⟩

def parseAll (items : List String) : Except BadAssignment (OrderedMap String) := do
  return .ofList (← items.mapM parse)

end Assignment

/-- Why variables cannot be preset. -/
inductive PresetTrouble where
  | file (trouble : LoadTrouble)
  | assignment (error : BadAssignment)
deriving Repr

namespace Store

/-- The variables of a property file, if one is given, and those assigned by items over them. -/
def preset (readers : Readers) (tree : FileTree) (properties : Option FilePath)
    (items : List String) : Except PresetTrouble Store := do
  let loaded ← match properties with
    | some path => (Properties.load readers tree path).mapError .file
    | none => .ok OrderedMap.empty
  let assigned ← (Assignment.parseAll items).mapError .assignment
  return loaded.merge assigned

end Store

end InputPanel
