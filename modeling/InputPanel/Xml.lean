import InputPanel.Node
import InputPanel.Xml.Encoding
import InputPanel.Xml.Entity
import InputPanel.Xml.Namespace

/-!
# XML documents

The elements of a document become nodes. The text of a node is what stands
before its first child, as it stands there. Declared attributes that are missing
come after those that are written.
-/

namespace InputPanel.Xml

inductive Content where
  | text (chars : List Char)
  | node (node : Node)

/-- The text before the first node. -/
def leadingText : List Content → List Char
  | .text chars :: rest => chars ++ leadingText rest
  | _ => []

def nodesOf (content : List Content) : List Node :=
  content.filterMap fun
    | .text _ => none
    | .node node => some node

/-- The parts of a name as it stands in a document type. -/
def Name.ofText (text : String) : Name :=
  match Text.cutAt ':' text.toList with
  | some (leading, base) => ⟨some (String.ofList leading), String.ofList base⟩
  | none => ⟨none, text⟩

/-- The values of the attributes of an element, those that are missing last. -/
def valuesOf (definitions : Definitions) (element : Name) (attributes : List Attribute) :
    Expanding (List (Name × String)) := do
  let rules := definitions.rulesOf element.text
  let written ← attributes.mapM fun own => do
    let isTokens := rules.any fun rule => rule.name == own.name.text && rule.isTokens
    return (own.name, String.ofList (← definitions.valueOf isTokens own.value))
  if (written.map Prod.fst).Nodup then
    let missing := rules.filterMap fun rule =>
      if attributes.any fun own => own.name.text == rule.name then none
      else rule.default.map fun chars => (Name.ofText rule.name, String.ofList chars)
    return written ++ missing
  else failure

/-- The namespaces in effect within an element with these attributes. -/
def scopeWithin (scope : Scope) (attributes : List (Name × String)) : Option Scope :=
  attributes.foldlM (fun scope (name, value) =>
    match name.declared? with
    | some leading => scope.bind? leading value
    | none => some scope) scope

/-- The attributes that declare no namespace, under their names with namespaces. -/
def namedValues (scope : Scope) (attributes : List (Name × String)) :
    Option (List (String × String)) := do
  let kept := attributes.filter fun (name, _) => name.declared?.isNone
  let named ← kept.mapM fun (name, value) => do return (← scope.attributeName? name, value)
  if (named.map Prod.fst).Nodup then return named else none

mutual

/-- The content that items stand for, given the content of entities. -/
def contentOf (definitions : Definitions) (entity : Scope → String → Expanding (List Content))
    (scope : Scope) : List Item → Expanding (List Content)
  | [] => return []
  | item :: rest => do
    let first ← contentOfItem definitions entity scope item
    return first ++ (← contentOf definitions entity scope rest)

def contentOfItem (definitions : Definitions) (entity : Scope → String → Expanding (List Content))
    (scope : Scope) : Item → Expanding (List Content)
  | .text chars => return [.text chars]
  | .entity name => entity scope name
  | .element name attributes items => do
    let values ← valuesOf definitions name attributes
    let inner ← scopeWithin scope values
    let content ← contentOf definitions entity inner items
    let text := String.ofList (leadingText content)
    return [.node ⟨← inner.elementName? name, .ofList (← namedValues inner values),
      nodesOf content, if text.isEmpty then none else some text⟩]

end

/-- The content of an entity where it is referred to. -/
def contentOfEntity (definitions : Definitions) : Nat → Scope → String → Expanding (List Content)
  | 0, _, _ => failure
  | depth + 1, scope, name => do
    match ← definitions.textOf name with
    | some text =>
      contentOf definitions (contentOfEntity definitions depth) scope (← content? text)
    | none => failure

/-- The root of a document as a node. -/
def rootOf (declaration : Declaration) (text : List Char) : Option Node := do
  let (marks, rest) ← marks? (text.length + 1) text
  let declared ← TypeDeclaration.ofMarks? marks
  let root ← root? rest
  let resolve : Expanding (List Content) := do
    let definitions ← Definitions.ofDeclaration declaration.standalone declared
    contentOfItem definitions (contentOfEntity definitions definitions.depth) .initial root
  match ← resolve.run' (expansionLimit text) with
  | [.node node] => return node
  | _ => none

def read (bytes : List UInt8) : Except Failure Node := do
  let (declaration, text) ← textOf bytes
  required (rootOf declaration text)

end InputPanel.Xml
