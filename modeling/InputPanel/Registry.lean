import InputPanel.Condition
import InputPanel.Node
import InputPanel.Store

/-!
# Registered conditions

A registry gives conditions their ids. A condition is the text of an
expression or a predicate of the variables. An id may also stand for no
condition at all. What is unknown or fails does not hold, and is noted.
-/

namespace InputPanel

inductive Rule where
  | expression (text : String)
  | predicate (holds : Store → Except Crash Bool)

abbrev Registry := OrderedMap (Option Rule)

namespace Registry

def register (registry : Registry) (id : String) (rule : Option Rule) : Registry :=
  registry.set id rule

/-- Whether the condition of an id holds of the variables. The scope shows them as objects. -/
def check (registry : Registry) (id : String) (store : Store)
    (scope : Condition.Scope := .ofTexts store) : Noted Bool := do
  match registry.get? id with
  | some (some (.expression text)) =>
    match Condition.check text scope with
    | .ok holds => return holds
    | .error fault =>
      Noted.note (.warning (Condition.failureMessage text fault))
      return false
  | some (some (.predicate holds)) =>
    match holds store with
    | .ok holds => return holds
    | .error crash =>
      Noted.note (.warning ("Condition " ++ Text.quoted id ++ " raised: " ++ crash.text))
      return false
  | _ =>
    Noted.note (.warning ("Unknown condition id " ++ Text.quoted id))
    return false

/-- The id and expression of a condition node, if it has both. -/
def declared? (node : Node) : Option (String × String) :=
  match node.get? "id", node.get? "expr" with
  | some id, some text => if id.isEmpty || text.isEmpty then none else some (id, text)
  | _, _ => none

def addNodes (registry : Registry) : List Node → Noted Registry
  | [] => return registry
  | node :: rest =>
    match declared? node with
    | some (id, text) => addNodes (registry.register id (some (.expression text))) rest
    | none => do
      Noted.note (.warning ("Ignoring condition without id/expr: " ++ node.tag))
      addNodes registry rest

/-- The conditions that a node declares by its `condition` children. -/
def ofNode (node : Node) : Noted Registry :=
  addNodes OrderedMap.empty (node.childrenNamed "condition")

end Registry

end InputPanel
