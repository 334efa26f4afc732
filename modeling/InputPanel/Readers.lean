import InputPanel.EnvironmentFile
import InputPanel.Xml
import InputPanel.Yaml

/-!
# Readers

YAML, XML and environment files are read by other libraries, which may be any that
serve. What they make of a text can be used only as far as calls can be nested.
-/

namespace InputPanel

/-- The readers of formats that are not of this program, and how deep calls can be nested. -/
structure Readers where
  yaml : String → Except Failure Data
  /-- the same of a file, which is decoded while it is read -/
  yamlFile : List UInt8 → Except Failure Data
  /-- the root of a document, each node with its text as it stands -/
  xml : List UInt8 → Except Failure Node
  /-- the environment after the environment file, if there is one -/
  environmentFile : FileTree → OrderedMap String → OrderedMap String × Except Failure Unit
  room : Nat
  /-- there is room for a configuration -/
  roomy : 3 ≤ room

namespace Readers

def standard : Readers where
  yaml := Yaml.read
  yamlFile bytes := do Yaml.read (← FileTree.textOf bytes)
  xml := Xml.read
  environmentFile := EnvironmentFile.load
  room := 1000
  roomy := by decide

end Readers

end InputPanel
