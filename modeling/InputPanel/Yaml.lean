import InputPanel.Yaml.Value

/-!
# YAML documents

The value of a text that holds one YAML document. A text without a document
has the value null.
-/

namespace InputPanel.Yaml

def read (text : String) : Except Failure Data := do
  match ← Tree.read text.toList with
  | some tree => tree.value
  | none => return .null

end InputPanel.Yaml
