import InputPanel.Data
import InputPanel.OrderedMap

/-!
# The variable store

A store maps variable names to text, in the order in which the names were first
set. A value is stored by its text; null is stored as the empty text.
-/

namespace InputPanel

abbrev Store := OrderedMap String

namespace Store

/-- Writes a value by its text. -/
def write (store : Store) (name : String) (value : Data) : Store :=
  store.set name value.storedText

/-- Takes a name out, with the value it had. -/
def pop? (store : Store) (name : String) : Option (String × Store) :=
  (store.get? name).map fun value => (value, store.erase name)

/-- Takes the first entry out. -/
def popFirst? (store : Store) : Option ((String × String) × Store) :=
  store.toList.head?.map fun entry => (entry, store.erase entry.1)

def clear (_ : Store) : Store := OrderedMap.empty

/-- Whether both hold the same names with the same values, in whatever order. Values that are not
text are no stored value. -/
def agrees (store : Store) (other : OrderedMap Data) : Bool :=
  store.size == other.size && store.toList.all fun entry =>
    match other.get? entry.1 with
    | some (.text value) => value == entry.2
    | _ => false

/-- The entries as quoted pairs. -/
def shown (store : Store) : String :=
  let pair := fun (entry : String × String) => Text.quoted entry.1 ++ ": " ++ Text.quoted entry.2
  "VariableStore(\x7b" ++ ", ".intercalate (store.toList.map pair) ++ "\x7d)"

end Store

end InputPanel
