import InputPanel.Field
import InputPanel.Layout

/-!
# From a field node to a field

The type of a node selects the kind of field; its `spec` child holds the
details. References in markers are expanded, and the plugins that make choices
are run, while a field is compiled. A choice plugin that fails makes no choice.
A text field without a definition is compiled all the same.
-/

namespace InputPanel

/-- Why a node makes no field. -/
inductive FieldError where
  | unknownKind (name : Option String)
  | noInputs
deriving DecidableEq, Repr

namespace FieldError

def message : FieldError → String
  | unknownKind name => name.getD "None" ++ " field collection not implemented"
  | noInputs => "No pwd specified in the spec for type password"

/-- The type of the field at fault, if it has one. -/
def fieldType : FieldError → Option String
  | unknownKind name => name
  | noInputs => some "password"

end FieldError

inductive CompileTrouble where
  | misconfigured (error : FieldError)
  | crashed (failure : Failure)
deriving DecidableEq, Repr

/-- What fields are compiled with; a separator that is no text fails where it is needed. -/
structure Compiler where
  store : Store
  factory : Factory
  separator : Except Failure String

namespace Compiler

def textOf (node : Node) : Option String :=
  match node.get? "txt" with
  | some text => some text
  | none => node.text

def descriptionOf (node : Node) : Option String := (node.firstChild? "description").bind textOf

def processorOf (spec : Option Node) : Option String :=
  (spec.bind fun s => s.firstChild? "processor").bind fun p => p.get? "class"

def filler : FieldKind → String
  | .divider => "".pushn '-' 42
  | _ => ""

def missingSpec (kind : FieldKind) (node : Node) : Notice :=
  .warning ("No 'spec' element defined in " ++ kind.name ++ " field " ++ node.tag)

/-- A field that is asked for as text, with the question that its definition poses. -/
def compileText (kind : FieldKind) (node : Node) : Noted TextField := do
  let spec := node.firstChild? "spec"
  if spec.isNone then Noted.note (missingSpec kind node)
  let validators ← Binding.ofField node
  return {
    kind
    target := node.get? "variable"
    description := descriptionOf node
    question := spec.map fun s => ⟨s.get? "txt", s.get? "set"⟩
    validators
    condition := node.get? "conditionid"
    processor := processorOf spec }

/-- The value that a layout and a set make, under the separator for literals. -/
def layoutValue (compiler : Compiler) (spec : Node) (layout set : String) :
    Except Failure (Except LayoutError String) :=
  let rebuilt := fun separator =>
    Layout.reconstruct layout set (ResultFormat.ofName (spec.get? "resultFormat") (some separator))
  match spec.get? "specialSeparator", compiler.separator with
  | some separator, _ => .ok (rebuilt separator)
  | none, .ok separator => .ok (rebuilt separator)
  | none, .error failure =>
    let needed := spec.get? "resultFormat" == some "specialSeparator" &&
      (Text.words layout.toList).any fun token => !Layout.isPlaceholder token
    match rebuilt "", needed with
    | .ok _, true => .error failure
    | value, _ => .ok value

/-- A text field whose value is made of a layout and a set; an invalid layout leaves no question. -/
def compileRule (compiler : Compiler) (node : Node) : Noted (Except Failure TextField) := do
  let field ← compileText .text node
  match node.firstChild? "spec" with
  | none => return .ok field
  | some spec =>
    match spec.get? "set", spec.get? "layout" with
    | some set, some layout =>
      match compiler.layoutValue spec layout set with
      | .error failure => return .error failure
      | .ok (.ok value) => return .ok { field with question := some ⟨spec.get? "txt", some value⟩ }
      | .ok (.error error) =>
        Noted.note (.warning ("Invalid layout in rule field " ++ node.tag ++ ": " ++ error.message))
        return .ok { field with question := none }
    | _, _ => return .ok field

/-- The choices that a plugin makes: the pieces of its text between colons that are not empty. -/
def madeChoices (compiler : Compiler) (className : String) : Noted (List String) := do
  let made := do (← compiler.factory.create className).run none
  match made with
  | .ok text =>
    return ((Text.piecesBy (· == ':') text.toList).filter (!·.isEmpty)).map String.ofList
  | .error (.unusable error) =>
    Noted.note (.warning
      ("Cannot create choice processor " ++ className ++ ": " ++ error.message))
    return []
  | .error (.crashed crash) =>
    Noted.note (.warning ("Choice processor " ++ className ++ " failed: " ++ crash.text))
    return []

/-- The choices of one element, each with whether it is selected. -/
def choicesOf (compiler : Compiler) (element : Node) : Noted (List (Choice × Bool)) := do
  let plain : Choice := ⟨element.get? "txt", element.get? "value", element.get? "set"⟩
  let processor := element.getD "processor" ""
  if processor.isEmpty then return [(plain, plain.isSelected compiler.store)]
  else
    let marker := compiler.store.expand (plain.marker.getD "")
    let pieces ← compiler.madeChoices processor
    return pieces.map fun piece =>
      let isMarked := piece == marker
      (⟨some piece, some piece, if isMarked then some "true" else none⟩, isMarked)

def choicesOfAll (compiler : Compiler) : List Node → Noted (List (Choice × Bool))
  | [] => return []
  | element :: rest => do
    let first ← compiler.choicesOf element
    let others ← compiler.choicesOfAll rest
    return first ++ others

/-- The index of the last entry that is set. -/
def lastSet (flags : List Bool) : Option Nat :=
  (flags.reverse.findIdx? id).map fun i => flags.length - 1 - i

/-- A single choice is selected; of several the last that is marked. -/
def initialSelection (flags : List Bool) : Option Nat :=
  if flags.length = 1 then some 0 else lastSet flags

def compileChoice (compiler : Compiler) (kind : FieldKind) (node : Node) : Noted ChoiceField := do
  let spec := node.firstChild? "spec"
  if spec.isNone then Noted.note (missingSpec kind node)
  let marked ← compiler.choicesOfAll ((spec.map fun s => s.childrenNamed "choice").getD [])
  return {
    kind
    target := node.get? "variable"
    description := descriptionOf node
    choices := marked.map Prod.fst
    selected := initialSelection (marked.map Prod.snd)
    condition := node.get? "conditionid" }

def compileCheck (compiler : Compiler) (node : Node) : Noted CheckField := do
  let spec := node.firstChild? "spec"
  if spec.isNone then Noted.note (missingSpec .check node)
  let preset := spec.bind fun s => s.get? "set"
  return {
    target := node.get? "variable"
    description := descriptionOf node
    box := spec.map fun s => ⟨s.get? "txt", s.get? "false", s.get? "true"⟩
    preset
    isTicked := (⟨none, none, preset⟩ : Choice).isSelected compiler.store
    condition := node.get? "conditionid" }

def passwordInput (target : Option String) (input : Node) : TextField :=
  ⟨.text, target, none, some ⟨input.get? "txt", input.get? "set"⟩, [], none, none⟩

def compilePassword (node : Node) : Noted (Except FieldError PasswordField) := do
  let spec := node.firstChild? "spec"
  let inputs := (spec.map fun s => s.childrenNamed "pwd").getD []
  if inputs.isEmpty then return .error .noInputs
  let validators ← Binding.ofField node
  let target := node.get? "variable"
  return .ok {
    target
    description := descriptionOf node
    inputs := inputs.map (passwordInput target)
    validators
    condition := node.get? "conditionid"
    processor := processorOf spec }

def compileKind (compiler : Compiler) (kind : FieldKind) (node : Node) :
    Noted (Except CompileTrouble Field) := do
  match kind with
  | .staticText | .title => return .ok (.decoration ⟨kind, node.get? "variable", textOf node⟩)
  | .space | .divider => return .ok (.filler ⟨kind, none, some (filler kind)⟩)
  | .text | .file | .dir => return .ok (.text (← compileText kind node))
  | .rule =>
    match ← compiler.compileRule node with
    | .ok field => return .ok (.text field)
    | .error failure => return .error (.crashed failure)
  | .combo | .radio => return .ok (.choice (← compiler.compileChoice kind node))
  | .check => return .ok (.check (← compiler.compileCheck node))
  | .password =>
    match ← compilePassword node with
    | .ok field => return .ok (.password field)
    | .error error => return .error (.misconfigured error)

def compile (compiler : Compiler) (node : Node) : Noted (Except CompileTrouble Field) :=
  let type := node.get? "type"
  match type.bind FieldKind.ofName? with
  | some kind => compiler.compileKind kind node
  | none => return .error (.misconfigured (.unknownKind type))

end Compiler

end InputPanel
