import InputPanel.Properties
import InputPanel.Readers
import InputPanel.Registry

/-!
# Documents in files

A panel document is read from a YAML or an XML file, a property map from a
YAML file or a file of lines; the suffix decides. A panel is found in a document
by its id. The conditions in effect for a panel are those of the document and
its own.
-/

namespace InputPanel

/-- Why a document or a property file is of no use. -/
inductive SpecError where
  | notFound (path : FilePath)
  | unreadable (path : FilePath) (failure : Failure)
  | notMapping (path : FilePath)
  | noPanel
  | noPanelWithId (id : Data)
  | unreadableProperties (path : FilePath) (failure : Failure)
  | invalidProperties (path : FilePath) (failure : Failure)
  | propertiesNotMapping (path : FilePath)
deriving Repr

namespace SpecError

/-- The message, given what is said of the cause. -/
def messageWith (cause : Failure → String) : SpecError → String
  | notFound path => "Spec file not found: " ++ path.text
  | unreadable path failure => "Cannot read spec " ++ path.text ++ ": " ++ cause failure
  | notMapping path => "Spec " ++ path.text ++ " must contain a mapping at the top level"
  | noPanel => "Spec document contains no panel"
  | noPanelWithId id => "No panel with id " ++ id.nestedText
  | unreadableProperties path failure =>
    "Cannot read properties " ++ path.text ++ ": " ++ cause failure
  | invalidProperties path failure =>
    "Invalid properties file " ++ path.text ++ ": " ++ cause failure
  | propertiesNotMapping path => "Properties file " ++ path.text ++ " must contain a mapping"

def message (error : SpecError) : String := error.messageWith Failure.bracketed

/-- The message as commands show it, without the kind of the cause. -/
def brief (error : SpecError) : String := error.messageWith fun _ => "<cause>"

end SpecError

/-- How reading a file goes wrong: the file is of no use, or its content breaks the reader. -/
inductive LoadTrouble where
  | useless (error : SpecError)
  | broken (failure : Failure)
deriving Repr

/-- A failure of a kind that is expected becomes an error with the path; others break the reader. -/
def expecting {α : Type} (isExpected : Failure → Bool) (error : Failure → SpecError) :
    Except Failure α → Except LoadTrouble α
  | .ok a => .ok a
  | .error failure =>
    .error (if isExpected failure then .useless (error failure) else .broken failure)

namespace Properties

/-- The properties of a structured document: a mapping, each value by its text. A value that counts
as false has none. -/
def ofData (path : FilePath) : Data → Except SpecError (OrderedMap String)
  | .map entries =>
    .ok (.ofList (entries.map fun entry => (entry.1.plainText, entry.2.scalarText)))
  | value => if value.isTrue then .error (.propertiesNotMapping path) else .ok OrderedMap.empty

/-- What keeps the entries of a document from being properties, where there is room for the texts of
values. -/
def fault? (room : Nat) : Data → Option Failure
  | .map entries => entries.findSome? fun entry =>
    (entry.1.textFault? room).or (entry.2.textFault? room)
  | _ => none

/-- The properties of a structured document whose entries have texts. -/
def ofDocument (room : Nat) (path : FilePath) (value : Data) :
    Except LoadTrouble (OrderedMap String) :=
  match fault? room value with
  | some failure => .error (.broken failure)
  | none => (ofData path value).mapError .useless

/-- The property map of a file. -/
def load (readers : Readers) (tree : FileTree) (path : FilePath) :
    Except LoadTrouble (OrderedMap String) := do
  let text ← expecting Failure.isOfFiles (.unreadableProperties path) (tree.readText path)
  if path.isStructured then
    let value ← expecting (· == .malformedYaml) (.invalidProperties path) (readers.yaml text)
    ofDocument readers.room path value
  else return parse text

end Properties

namespace Document

/-- The node of a document that is a mapping, under the name of a document root. -/
def ofDocument (room : Nat) (path : FilePath) (value : Data) : Except LoadTrouble Node :=
  if value.isMap then
    match Node.fault? room value with
    | some failure => .error (.broken failure)
    | none => .ok (Node.ofData "userInput" value)
  else .error (.useless (.notMapping path))

/-- The node of the root of an XML document. -/
def ofElement (room : Nat) (root : Node) : Except LoadTrouble Node :=
  if root.fits room then .ok root.trimmed else .error (.broken .tooDeep)

/-- The document of a YAML file. -/
def loadYaml (readers : Readers) (tree : FileTree) (path : FilePath) :
    Except LoadTrouble Node := do
  let isExpected := fun failure => Failure.isOfFiles failure || failure == .malformedYaml
  let value ← expecting isExpected (.unreadable path) (do readers.yamlFile (← tree.read path))
  ofDocument readers.room path value

/-- The document of an XML file. -/
def loadXml (readers : Readers) (tree : FileTree) (path : FilePath) :
    Except LoadTrouble Node := do
  let isExpected := fun failure => Failure.isOfFiles failure || failure == .malformedXml
  let root ← expecting isExpected (.unreadable path) (do readers.xml (← tree.read path))
  ofElement readers.room root

def load (readers : Readers) (tree : FileTree) (path : FilePath) : Except LoadTrouble Node :=
  if !tree.has path then .error (.useless (.notFound path))
  else if path.isStructured then loadYaml readers tree path
  else loadXml readers tree path

/-- Where the panel of a document stands. -/
inductive Place where
  | root
  | child (panel : Node)

/-- Whether a node has an id. An id that is no text belongs to no node. -/
def hasId (node : Node) : Data → Bool
  | .text id => node.get? "id" == some id
  | _ => false

/-- The place of a panel. Without an id the first panel is meant, or a root that has fields. -/
def findPanel (root : Node) (id : Option Data) : Except SpecError Place :=
  if root.name = "panel" ∧ id.all (hasId root) then .ok .root
  else
    match root.childrenNamed "panel", id with
    | [], id =>
      if id.isNone ∧ !(root.childrenNamed "field").isEmpty then .ok .root else .error .noPanel
    | panel :: _, none => .ok (.child panel)
    | panels, some id =>
      match panels.find? fun panel => hasId panel id with
      | some panel => .ok (.child panel)
      | none => .error (.noPanelWithId id)

def panelAt (root : Node) : Place → Node
  | .root => root
  | .child panel => panel

/-- The nodes with the conditions in effect: those of the document, then the panel's own. -/
def conditionNodes (root : Node) : Place → List Node
  | .root => root.childrenNamed "conditions"
  | .child panel => root.childrenNamed "conditions" ++ panel.childrenNamed "conditions"

end Document

/-- A panel from a file, with the conditions that its document declares. -/
structure LoadedPanel where
  panel : Node
  registry : Registry
  source : FilePath

namespace LoadedPanel

/-- One registry from several nodes; a later condition replaces one with the same id. -/
def registryOf (nodes : List Node) : Noted Registry :=
  nodes.foldlM (fun registry node => do return registry.merge (← Registry.ofNode node))
    OrderedMap.empty

def load (readers : Readers) (tree : FileTree) (path : FilePath) (id : Option Data) :
    Except LoadTrouble (Noted LoadedPanel) := do
  let root ← Document.load readers tree path
  match Document.findPanel root id with
  | .ok place =>
    let panel := Document.panelAt root place
    return do
      return ⟨panel, ← registryOf (Document.conditionNodes root place), path⟩
  | .error error => throw (.useless error)

end LoadedPanel

end InputPanel
