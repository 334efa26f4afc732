import InputPanel.Field.Compile
import InputPanel.Gates
import InputPanel.Properties

/-!
# Sessions

A session collects the values of one panel into a store. Each pass compiles
the fields anew from the store as it is. A panel that its gates do not admit
has no fields to collect. A field that is misconfigured is left out, and noted.
-/

namespace InputPanel

/-- How a session shows and collects, whatever the panel. -/
structure Settings where
  marker : String
  hidesPasswords : Bool
  packs : List String
  family : String
  separator : Except Failure String

structure Session where
  panel : Node
  registry : Option Registry
  factory : Factory
  settings : Settings

namespace Session

def gates (session : Session) (store : Store) : Gates :=
  ⟨session.settings.packs, session.settings.family, session.registry, store⟩

def compiler (session : Session) (store : Store) : Compiler :=
  ⟨store, session.factory, session.settings.separator⟩

def panelId (session : Session) : String := session.panel.getD "id" ""

/-- The fields that some nodes give, those that are admitted and make sense. -/
def collectNodes (gates : Gates) (compiler : Compiler) :
    List Node → Noted (Except Failure (List Field))
  | [] => return .ok []
  | node :: rest => do
    if ← gates.admitsField node then
      match ← compiler.compile node with
      | .ok field =>
        match ← collectNodes gates compiler rest with
        | .ok fields => return .ok (field :: fields)
        | .error failure => return .error failure
      | .error (.misconfigured error) =>
        Noted.note (.warning ("Skipping field " ++ node.tag ++ ": " ++ error.message))
        collectNodes gates compiler rest
      | .error (.crashed failure) => return .error failure
    else collectNodes gates compiler rest

/-- The fields of the panel, in document order; nothing if the panel is not admitted. -/
def collect (session : Session) (store : Store) : Noted (Except Failure (Option (List Field))) := do
  let gates := session.gates store
  if gates.admitsPanel session.panel then
    match ← collectNodes gates (session.compiler store) (session.panel.childrenNamed "field") with
    | .ok fields => return .ok (some fields)
    | .error failure => return .error failure
  else
    Noted.note (.info ("Panel " ++ session.panelId ++ " not applicable, skipping"))
    return .ok none

/-- The variables that the fields of a panel set, field by field. -/
def targets (session : Session) (store : Store) : Noted (Except Failure (List String)) := do
  match ← session.collect store with
  | .ok fields =>
    return .ok (((fields.getD []).filterMap Field.target).filter fun name => !name.isEmpty)
  | .error failure => return .error failure

/-- Sets the names that have a property. -/
def applyTo (properties : OrderedMap String) (store : Store) (names : List String) : Store :=
  names.foldl (fun store name =>
    match properties.get? name with
    | some value => store.set name value
    | none => store) store

/-- The store with the properties of the variables of the panel. -/
def applyProperties (session : Session) (properties : OrderedMap String) (store : Store) :
    Noted (Except Failure Store) := do
  match ← session.targets store with
  | .ok names => return .ok (applyTo properties store names)
  | .error failure => return .error failure

/-- What is said of a value that is asked for as a way of collecting and is none, where there is room
for its text. -/
def unknownMode (room : Nat) (mode : Data) : Except Failure String :=
  match mode.textFault? room with
  | some failure => .error failure
  | none => .ok ("Unknown collection mode: " ++ mode.nestedText)

/-- A property file that sets no value yet, with a line for each variable of the panel. -/
def template (session : Session) (store : Store) : Noted (Except Failure String) := do
  match ← session.targets store with
  | .ok names => return .ok (Properties.template names)
  | .error failure => return .error failure

end Session

end InputPanel
