import InputPanel.Dialogue
import InputPanel.Session

/-!
# Interviews

Each field of a panel is asked in turn, until one fails; then the end question
is put. A stored value is offered before the one that the document gives. A
rejected text or password is asked for again after a line that says why.
-/

namespace InputPanel.Session

/-- A name that is there and not empty. -/
def named? (name : Option String) : Option String := name.filter fun s => !s.isEmpty

/-- The line that follows a value that a validator refused. -/
def refusal (binding : Binding) (target : String) : String :=
  (named? binding.message).getD ("Invalid value for " ++ target)

/-- The value that a field's processor makes of an entered value; one that fails keeps it. -/
def processed (session : Session) (className : Option String) (value : String) : Noted String := do
  match named? className with
  | none => return value
  | some className =>
    let made := do (← session.factory.create className).run (some value)
    match made with
    | .ok text => return text
    | .error (.unusable error) =>
      Noted.note (.warning
        ("Cannot create value processor " ++ className ++ ": " ++ error.message))
      return value
    | .error (.crashed crash) =>
      Noted.note (.warning ("Value processor " ++ className ++ " failed: " ++ crash.text))
      return value

/-- The value that a text field offers: the stored one, else the preset, expanded. -/
def offered (store : Store) (target : String) (preset : Option String) : String :=
  store.expand (store.getD target (preset.getD ""))

/-- A prompt for text; a secret is shown as stars. -/
def textPrompt (session : Session) (isSecret : Bool) (label : Option String) (offer : String) :
    Event :=
  let shown := if isSecret then "".pushn '*' offer.length else offer
  let text := label.getD "" ++ " [" ++ shown ++ "] "
  if isSecret && session.settings.hidesPasswords then .hidden text else .prompt text

/-- Accepts an answer, or the offer for an empty one, that all validators accept. -/
def judgeText (session : Session) (field : TextField) (target offer answer : String) :
    Noted (Dialogue.Verdict String) := do
  let entered := Text.trimmed answer
  let value := if entered.isEmpty then offer else entered
  match ← Binding.firstFailure session.factory (.one (some value)) field.validators with
  | some binding => return .refused (some (refusal binding target))
  | none => return .accepted (← session.processed field.processor value)

/-- Asks for the text of a field that has a variable and a question. -/
def askText (session : Session) (isSecret : Bool) (field : TextField) :
    Dialogue (Option String) := do
  match named? field.target, field.question with
  | none, _ =>
    Dialogue.note (.warning "Text field without a variable")
    return none
  | some _, none =>
    Dialogue.note (.warning ("No 'spec' element defined in " ++ field.kind.name ++ " field"))
    return none
  | some target, some question =>
    let offer := offered (← Dialogue.store) target question.preset
    Dialogue.ask (session.textPrompt isSecret question.label offer)
      (session.judgeText field target offer)

def interviewText (session : Session) (field : TextField) : Dialogue Bool := do
  match ← session.askText false field with
  | some value =>
    Dialogue.set (field.target.getD "") value
    return true
  | none => return false

/-- The index of the first choice with a value that is not empty and equals the given one. -/
def indexOfValue (choices : List Choice) (value : String) : Option Nat :=
  choices.findIdx? fun choice => named? choice.value == some value

def mark (session : Session) (isSelected : Bool) : String :=
  if isSelected then session.settings.marker else " "

/-- The lines that show choices, numbered from `start`. -/
def choiceLines (session : Session) (selected : Option Nat) : Nat → List Choice → List String
  | _, [] => []
  | start, choice :: rest =>
    (toString start ++ "  [" ++ session.mark (selected == some start) ++ "] " ++
      choice.text.getD "") :: choiceLines session selected (start + 1) rest

def printAll : List String → Dialogue Unit
  | [] => return ()
  | line :: rest => do
    Dialogue.print line
    printAll rest

def valueAt (choices : List Choice) (index : Nat) : String :=
  (choices[index]?.bind Choice.value).getD ""

/-- A stored value wins over the selection that the document declares. -/
def preselected (field : ChoiceField) (stored : Option String) : Option Nat :=
  match stored with
  | some value => indexOfValue field.choices value
  | none => field.selected

def indexOrNone (index : Option Nat) : Int := (index.map Int.ofNat).getD (-1)

def printText (text : Option String) : Dialogue Unit := do
  match named? text with
  | some text => Dialogue.print ((← Dialogue.store).expand text)
  | none => return ()

def interviewChoice (session : Session) (field : ChoiceField) : Dialogue (ChoiceField × Bool) := do
  match named? field.target with
  | none =>
    Dialogue.note (.warning (field.kind.name ++ " field without a variable"))
    return (field, false)
  | some target =>
    printText field.description
    if field.choices.isEmpty then
      Dialogue.note (.warning ("No 'spec' element defined in " ++ field.kind.name ++ " field"))
      return ({ field with selected := none }, false)
    let selected := preselected field ((← Dialogue.store).get? target)
    printAll (session.choiceLines selected 0 field.choices)
    match ← Dialogue.askNumber "input selection:" 0 (field.choices.length - 1)
        (indexOrNone selected) with
    | some n =>
      Dialogue.set target (valueAt field.choices n.toNat)
      return ({ field with selected := some n.toNat }, true)
    | none => return ({ field with selected }, false)

/-- Whether a box is ticked at first: by the stored value, else by the preset. -/
def ticked (field : CheckField) (box : Box) (store : Store) (target : String) : Bool :=
  match indexOfValue box.choices (store.getD target "") with
  | some index => index == 1
  | none => (⟨none, none, field.preset⟩ : Choice).isSelected store

def interviewCheck (session : Session) (field : CheckField) : Dialogue (CheckField × Bool) := do
  match named? field.target, field.box with
  | none, _ =>
    Dialogue.note (.warning "Check field without a variable")
    return (field, false)
  | some _, none =>
    Dialogue.note (.warning "No 'spec' element defined in check field")
    return (field, false)
  | some target, some box =>
    let isTicked := ticked field box (← Dialogue.store) target
    Dialogue.print ("  [" ++ session.mark isTicked ++ "] " ++ box.label.getD "")
    let preset := if isTicked then 1 else 0
    match ← Dialogue.askNumber "input 1 to select, 0 to deselect:" 0 1 preset with
    | some n =>
      Dialogue.set target (valueAt box.choices n.toNat)
      return ({ field with isTicked := n == 1 }, true)
    | none => return ({ field with isTicked }, false)

/-- Asks for each input in turn, storing what is entered at once; nothing if one has no answer. -/
def askInputs (session : Session) : List TextField → Dialogue (Option (List String))
  | [] => return some []
  | input :: rest => do
    match ← session.askText true input with
    | none => return none
    | some value =>
      Dialogue.set (input.target.getD "") value
      match ← askInputs session rest with
      | none => return none
      | some values => return some (value :: values)

/-- One round of all inputs. It is followed by another if the validators reject what was entered;
otherwise it tells whether the field succeeded. -/
def passwordRound (session : Session) (field : PasswordField) :
    Dialogue (Dialogue.Turn Unit Bool) := do
  match ← session.askInputs field.inputs with
  | none => return .stop false
  | some [] => return .stop false
  | some (value :: values) =>
    let subject := Subject.many ((value :: values).map some)
    match ← Dialogue.noted (Binding.firstFailure session.factory subject field.validators) with
    | some binding =>
      Dialogue.print (refusal binding (field.target.getD "None"))
      return .again ()
    | none =>
      if (named? field.processor).isSome then
        Dialogue.set (field.target.getD "")
          (← Dialogue.noted (session.processed field.processor value))
      return .stop true

def interviewPassword (session : Session) (field : PasswordField) : Dialogue Bool := do
  printText field.description
  Dialogue.turns (fun _ => session.passwordRound field) false ()

def interviewDecoration (decoration : Decoration) : Dialogue Bool := do
  Dialogue.print ((← Dialogue.store).expand (decoration.text.getD ""))
  return true

/-- Asks one field; its answer is the field as it is left, and whether it succeeded. -/
def interview (session : Session) : Field → Dialogue (Field × Bool)
  | .filler d => return (.filler d, ← interviewDecoration d)
  | .decoration d => return (.decoration d, ← interviewDecoration d)
  | .text f => return (.text f, ← session.interviewText f)
  | .choice f => do
    let (f, succeeded) ← session.interviewChoice f
    return (.choice f, succeeded)
  | .check f => do
    let (f, succeeded) ← session.interviewCheck f
    return (.check f, succeeded)
  | .password f => return (.password f, ← session.interviewPassword f)

def noteSkipped : List Field → Dialogue Unit
  | [] => return ()
  | field :: rest => do
    Dialogue.note (.debug ("Not prompting " ++ field.kind.name ++ " after earlier failure"))
    noteSkipped rest

/-- Asks the fields in order until one fails; those after it are not asked. -/
def interviewAll (session : Session) : List Field → Dialogue (List Field × Bool)
  | [] => return ([], true)
  | field :: rest => do
    let (field, succeeded) ← session.interview field
    if succeeded then
      let (others, all) ← interviewAll session rest
      return (field :: others, all)
    else
      noteSkipped rest
      return (field :: rest, false)

/-- One pass over compiled fields, and the end question. -/
def pass (session : Session) (fields : List Field) : Dialogue EndAction := do
  let (_, succeeded) ← session.interviewAll fields
  if !succeeded then
    Dialogue.note (.debug ("Panel " ++ session.panelId ++ ": a field failed"))
  EndAction.ask

/-- A pass, and what the answer to its end question leads to. Redisplaying compiles the fields
anew. -/
def passTurn (session : Session) (fields : List Field) :
    Dialogue (Dialogue.Turn (List Field) (Except Failure Bool)) := do
  match ← session.pass fields with
  | .proceed => return .stop (.ok true)
  | .quit => return .stop (.ok false)
  | .redisplay =>
    match ← Dialogue.noted (session.collect (← Dialogue.store)) with
    | .ok fields => return .again (fields.getD [])
    | .error failure => return .stop (.error failure)

/-- Asks the whole panel. A panel that is not admitted asks nothing and is done. -/
def run (session : Session) : Dialogue (Except Failure Bool) := do
  match ← Dialogue.noted (session.collect (← Dialogue.store)) with
  | .error failure => return .error failure
  | .ok none => return .ok true
  | .ok (some fields) => Dialogue.turns session.passTurn (.ok false) fields

end InputPanel.Session
