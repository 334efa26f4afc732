import InputPanel.Family
import InputPanel.Registry

/-!
# Gates

A panel or field takes part only if its gates admit it: one of its packs is
selected, one of its families is the running one, and its condition holds. A
kind of gate that a node does not have admits it. Panels have no condition.
-/

namespace InputPanel

/-- What gates are held against. -/
structure Gates where
  packs : List String
  family : String
  registry : Option Registry
  store : Store

namespace Gates

/-- Whether one of the selected packs is required, if any is. -/
def admitsPacks (gates : Gates) (required : List String) : Bool :=
  required.isEmpty || gates.packs.any required.contains

def admitsFamilies (gates : Gates) (families : List (Option String)) : Bool :=
  families.isEmpty || families.any fun family => Family.admits family gates.family

def conditionHolds (gates : Gates) (id : Option String) : Noted Bool := do
  match id, gates.registry with
  | none, _ => return true
  | some id, some registry => registry.check id gates.store
  | some id, none =>
    Noted.note (.warning ("Condition " ++ Text.quoted id ++
      " referenced but no condition evaluator configured"))
    return false

/-- The condition is looked at only if the other gates admit. -/
def admits (gates : Gates) (packs : List String) (families : List (Option String))
    (condition : Option String) : Noted Bool :=
  if gates.admitsPacks packs && gates.admitsFamilies families then gates.conditionHolds condition
  else return false

def packNames (node : Node) : List String :=
  (node.childrenNamed "createForPack").map fun gate => gate.getD "name" ""

def families (node : Node) : List (Option String) :=
  (node.childrenNamed "os").map fun gate => gate.get? "family"

def admitsPanel (gates : Gates) (panel : Node) : Bool :=
  gates.admitsPacks (packNames panel) && gates.admitsFamilies (families panel)

def admitsField (gates : Gates) (field : Node) : Noted Bool :=
  gates.admits (packNames field) (families field) (field.get? "conditionid")

end Gates

end InputPanel
