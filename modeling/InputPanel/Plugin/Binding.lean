import InputPanel.Node
import InputPanel.Plugin.Factory

/-!
# Validators of a field

A field names the classes of its validators, with parameters and a message for
a value that is refused. A validator that cannot be made or crashes refuses
every value.
-/

namespace InputPanel

structure Binding where
  className : String
  parameters : Parameters
  message : Option String

namespace Binding

def shown (binding : Binding) : String :=
  let pair := fun (entry : String × String) => Text.quoted entry.1 ++ ": " ++ Text.quoted entry.2
  "FieldValidator(" ++ Text.quoted binding.className ++ ", \x7b" ++
    ", ".intercalate (binding.parameters.toList.map pair) ++ "\x7d)"

/-- What the validator says of a value. -/
def verdict (binding : Binding) (factory : Factory) (subject : Subject) :
    Noted (Except PluginTrouble Bool) := do
  match factory.create binding.className with
  | .error trouble => return .error trouble
  | .ok plugin =>
    match plugin.validate with
    | none => return .error (.unusable (.notValidator binding.className))
    | some validate =>
      match ← validate subject binding.parameters with
      | .ok valid => return .ok valid
      | .error crash => return .error (.crashed crash)

def isValid (binding : Binding) (factory : Factory) (subject : Subject) : Noted Bool := do
  match ← binding.verdict factory subject with
  | .ok valid => return valid
  | .error trouble =>
    Noted.note (.warning ("Validator " ++ binding.className ++ " failed: " ++ trouble.text))
    return false

/-- The parameters that the children of a validator node set; those without a name are left out. -/
def parametersOf (node : Node) : Parameters :=
  let entry := fun (parameter : Node) =>
    match parameter.get? "name" with
    | some name => if name.isEmpty then none else some (name, parameter.getD "value" "")
    | none => none
  .ofList ((node.childrenNamed "param").filterMap entry)

def ofNode? (node : Node) : Option Binding :=
  match node.get? "class" with
  | some name => if name.isEmpty then none else some ⟨name, parametersOf node, node.get? "txt"⟩
  | none => none

def ofNodes (field : Node) : List Node → Noted (List Binding)
  | [] => return []
  | node :: rest =>
    match ofNode? node with
    | some binding => do return binding :: (← ofNodes field rest)
    | none => do
      Noted.note (.warning ("Ignoring validator without 'class' on " ++ field.tag))
      ofNodes field rest

/-- The validators of a field. -/
def ofField (field : Node) : Noted (List Binding) := ofNodes field (field.childrenNamed "validator")

/-- The first validator that refuses a value; those after it are not asked. -/
def firstFailure (factory : Factory) (subject : Subject) : List Binding → Noted (Option Binding)
  | [] => return none
  | binding :: rest => do
    if ← binding.isValid factory subject then firstFailure factory subject rest
    else return some binding

end Binding

end InputPanel
