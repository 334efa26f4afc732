import InputPanel.Data
import InputPanel.OrderedMap

/-!
# Document trees

A panel document is a tree of named nodes with text attributes, children in
order and perhaps a text. A mapping becomes a node: scalars are attributes,
a mapping is a child named by its key, a list is children named by its key.
Anything but a mapping becomes a node with the value as its `name` attribute.
A value without an end, or one that goes deeper than there is room for, becomes
none, and neither does one with a scalar that has no text.
-/

namespace InputPanel

structure Node where
  name : String
  attributes : OrderedMap String
  children : List Node
  text : Option String
deriving Inhabited

namespace Node

def get? (node : Node) (key : String) : Option String := node.attributes.get? key

def getD (node : Node) (key default : String) : String := (node.get? key).getD default

def firstChild? (node : Node) (name : String) : Option Node :=
  node.children.find? fun child => child.name == name

def childrenNamed (node : Node) (name : String) : List Node :=
  node.children.filter fun child => child.name == name

/-- The opening tag, with attribute values as they are. -/
def tag (node : Node) : String :=
  let pairText := fun (entry : String × String) => entry.1 ++ "=\"" ++ entry.2 ++ "\""
  let attributes := " ".intercalate (node.attributes.toList.map pairText)
  "<" ++ node.name ++ (if attributes.isEmpty then "" else " " ++ attributes) ++ ">"

mutual

def ofData (name : String) : Data → Node
  | .map entries =>
    let (attributes, children) := ofEntries entries OrderedMap.empty
    ⟨name, attributes, children, none⟩
  | value => ⟨name, OrderedMap.empty.set "name" value.scalarText, [], none⟩

/-- The attributes and children that the entries of a mapping add. -/
def ofEntries : List (Data × Data) → OrderedMap String → OrderedMap String × List Node
  | [], attributes => (attributes, [])
  | (key, .map entries) :: rest, attributes =>
    let (inner, children) := ofEntries entries OrderedMap.empty
    let (attributes, siblings) := ofEntries rest attributes
    (attributes, ⟨key.plainText, inner, children, none⟩ :: siblings)
  | (key, .list items) :: rest, attributes =>
    let (attributes, siblings) := ofEntries rest attributes
    (attributes, ofItems key.plainText items ++ siblings)
  | (key, value) :: rest, attributes =>
    ofEntries rest (attributes.set key.plainText value.scalarText)

def ofItems (name : String) : List Data → List Node
  | [] => []
  | item :: rest => ofData name item :: ofItems name rest

end

/-- What keeps a value from becoming a node, where nodes can stand in one another to some depth. -/
def fault? : Nat → Data → Option Failure
  | 0, _ => some .tooDeep
  | room + 1, .map entries => entries.findSome? fun entry =>
    (entry.1.textFault? room).or
      (match entry.2 with
      | .map inner => fault? room (.map inner)
      | .list items => items.findSome? (fault? room)
      | .loop _ _ => some .tooDeep
      | value => value.textFault? room)
  | _, .loop true _ => some .tooDeep
  | room + 1, value => value.textFault? room

mutual

/-- A node without white space at the ends of its texts, and without those that are empty then. -/
def trimmed (node : Node) : Node :=
  match node with
  | ⟨name, attributes, children, text⟩ =>
    ⟨name, attributes, trimmedAll children, (text.map Text.trimmed).filter fun text => text != ""⟩

def trimmedAll : List Node → List Node
  | [] => []
  | node :: rest => trimmed node :: trimmedAll rest

end

/-- Whether nodes stand in one another to a depth for which there is room. -/
def fits : Nat → Node → Bool
  | 0, _ => false
  | room + 1, node => node.children.all (fits room)

end Node

end InputPanel
