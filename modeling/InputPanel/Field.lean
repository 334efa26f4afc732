import InputPanel.Expansion
import InputPanel.Plugin.Binding
import InputPanel.Text.Case

/-!
# Fields of a panel

A field shows a text or collects the value of a variable: an entered text, one
of several choices, a box to tick, or a password entered in several inputs.
A text field whose definition is missing or has no sense has no question and
cannot be asked.
-/

namespace InputPanel

inductive FieldKind where
  | staticText
  | title
  | divider
  | space
  | text
  | file
  | dir
  | rule
  | combo
  | radio
  | check
  | password
deriving DecidableEq, Repr

namespace FieldKind

def name : FieldKind → String
  | staticText => "staticText"
  | title => "title"
  | divider => "divider"
  | space => "space"
  | text => "text"
  | file => "file"
  | dir => "dir"
  | rule => "rule"
  | combo => "combo"
  | radio => "radio"
  | check => "check"
  | password => "password"

def ofName? : String → Option FieldKind
  | "staticText" => some staticText
  | "title" => some title
  | "divider" => some divider
  | "space" => some space
  | "text" => some text
  | "file" => some file
  | "dir" => some dir
  | "rule" => some rule
  | "combo" => some combo
  | "radio" => some radio
  | "check" => some check
  | "password" => some password
  | _ => none

theorem ofName?_name (kind : FieldKind) : ofName? kind.name = some kind := by
  cases kind <;> rfl

end FieldKind

/-- An option to select: what is shown, the value it gives, and a marker that says whether it is
selected at first. -/
structure Choice where
  text : Option String
  value : Option String
  marker : Option String
deriving DecidableEq, Repr

namespace Choice

/-- Whether a marker reads `true` in whatever case. -/
def affirms (marker : String) : Bool := Text.lower marker == "true"

def isMarked (choice : Choice) : Bool := choice.marker.any affirms

/-- Whether the marker reads `true` once its references are expanded. -/
def isSelected (choice : Choice) (store : Store) : Bool :=
  choice.marker.any fun marker => affirms (store.expand marker)

end Choice

/-- A text that is shown. -/
structure Decoration where
  kind : FieldKind
  target : Option String
  text : Option String
deriving DecidableEq, Repr

/-- What a text field asks: its label and the value it offers at first. -/
structure Question where
  label : Option String
  preset : Option String
deriving DecidableEq, Repr

/-- A text to enter; `target` is the variable that a field sets. -/
structure TextField where
  kind : FieldKind
  target : Option String
  description : Option String
  question : Option Question
  validators : List Binding
  condition : Option String
  processor : Option String

structure ChoiceField where
  kind : FieldKind
  target : Option String
  description : Option String
  choices : List Choice
  selected : Option Nat
  condition : Option String

/-- A box to tick: its label, and the values that it gives unticked and ticked. -/
structure Box where
  label : Option String
  unticked : Option String
  ticked : Option String
deriving DecidableEq, Repr

structure CheckField where
  target : Option String
  description : Option String
  box : Option Box
  preset : Option String
  isTicked : Bool
  condition : Option String

structure PasswordField where
  target : Option String
  description : Option String
  inputs : List TextField
  validators : List Binding
  condition : Option String
  processor : Option String

inductive Field where
  /-- A space or a divider; it belongs to no panel in particular. -/
  | filler (decoration : Decoration)
  | decoration (decoration : Decoration)
  | text (field : TextField)
  | choice (field : ChoiceField)
  | check (field : CheckField)
  | password (field : PasswordField)

namespace Box

/-- The two options, unticked first. -/
def choices (box : Box) : List Choice :=
  [⟨box.label, box.unticked, none⟩, ⟨box.label, box.ticked, none⟩]

end Box

namespace TextField

/-- The question as the one option of the field. -/
def choices (field : TextField) : List Choice :=
  match field.question with
  | some question => [⟨question.label, none, question.preset⟩]
  | none => []

def preset (field : TextField) : Option String := field.question.bind Question.preset

end TextField

namespace CheckField

def choices (field : CheckField) : List Choice :=
  match field.box with
  | some box => box.choices
  | none => []

end CheckField

namespace Field

def kind : Field → FieldKind
  | filler d => d.kind
  | decoration d => d.kind
  | text f => f.kind
  | choice f => f.kind
  | check _ => .check
  | password _ => .password

def target : Field → Option String
  | filler d => d.target
  | decoration d => d.target
  | text f => f.target
  | choice f => f.target
  | check f => f.target
  | password f => f.target

def displayText : Field → Option String
  | filler d => d.text
  | decoration d => d.text
  | text f => f.description
  | choice f => f.description
  | check f => f.description
  | password f => f.description

/-- The value offered at first; of a password, that of its first input. -/
def preset : Field → Option String
  | text f => f.preset
  | check f => f.preset
  | password f => f.inputs.head?.bind TextField.preset
  | _ => none

def choices : Field → List Choice
  | text f => f.choices
  | choice f => f.choices
  | check f => f.choices
  | _ => []

/-- The index of the option in effect, -1 for none. -/
def selectedIndex : Field → Int
  | choice f => (f.selected.map Int.ofNat).getD (-1)
  | check f => if f.isTicked then 1 else 0
  | _ => 0

def validators : Field → List Binding
  | text f => f.validators
  | password f => f.validators
  | _ => []

def condition : Field → Option String
  | text f => f.condition
  | choice f => f.condition
  | check f => f.condition
  | password f => f.condition
  | _ => none

def processor : Field → Option String
  | text f => f.processor
  | password f => f.processor
  | _ => none

/-- The label of the first of some options. -/
def labelOf (choices : List Choice) : String := (choices.head?.bind Choice.text).getD ""

def label (field : Field) : String := labelOf field.choices

end Field

end InputPanel
