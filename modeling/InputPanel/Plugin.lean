import InputPanel.Failure
import InputPanel.OrderedMap
import InputPanel.Text.Quoted

/-!
# Plugins

A plugin may process a value into text, and may validate a value against
parameters. It is an object with these abilities or a plain function. What an
identifier stands for is a way to make a plugin, a function, or something that
is no plugin.
-/

namespace InputPanel

/-- What is validated: one value, or the values of several inputs. -/
inductive Subject where
  | one (value : Option String)
  | many (values : List (Option String))
deriving DecidableEq, Repr

namespace Subject

def values : Subject → List (Option String)
  | one value => [value]
  | many values => values

end Subject

abbrev Parameters := OrderedMap String

structure Plugin where
  name : String
  isFunction : Bool
  process : Option (Option String → Except Crash String)
  validate : Option (Subject → Parameters → Noted (Except Crash Bool))

inductive Target where
  | build (make : Except Crash Plugin)
  | function (plugin : Plugin)
  | other

namespace Plugin

/-- An object that can do nothing yet. -/
def object (name : String) : Plugin := ⟨name, false, none, none⟩

def processor (name : String) (process : Option String → Except Crash String) : Plugin :=
  { object name with process := some process }

/-- A validator that adds nothing to the log. -/
def validator (name : String) (validate : Subject → Parameters → Except Crash Bool) : Plugin :=
  { object name with validate := some fun subject parameters => ⟨validate subject parameters, []⟩ }

/-- A function by what it does with a value and with a value and parameters. -/
def function (name : String) (process : Option String → Except Crash String)
    (validate : Subject → Parameters → Except Crash Bool) : Plugin :=
  ⟨name, true, some process, some fun subject parameters => ⟨validate subject parameters, []⟩⟩

end Plugin

end InputPanel
