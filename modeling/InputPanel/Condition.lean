import InputPanel.Condition.Grammar
import InputPanel.OrderedMap

/-!
# Conditions

A condition holds of the variables when its expression has a value that counts
as true. One that cannot be read or evaluated fails with a message that shows
the whole expression.
-/

namespace InputPanel.Condition

/-- Whether a condition holds, or why it has no answer. -/
def check (text : String) (scope : Scope) : Except Fault Bool := do
  let expr ← orFailed (Expr.parse text)
  let value ← eval scope expr
  return value.truth

/-- A failing condition does not hold. -/
def holds (text : String) (scope : Scope) : Bool :=
  match check text scope with
  | .ok b => b
  | .error _ => false

def failureMessage (text : String) (fault : Fault) : String :=
  "Condition '" ++ text ++ "' failed: " ++ fault.message

/-- Variables that are all texts, each of them an object of its own. -/
def Scope.ofTexts (values : OrderedMap String) : Scope :=
  fun name => (values.get? name).map .ofText

end InputPanel.Condition
