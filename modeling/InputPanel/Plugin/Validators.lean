import InputPanel.Number.Integer
import InputPanel.Pattern
import InputPanel.Plugin.Factory

/-!
# The validators at hand

Four validators are always there: the value is not blank, it matches a
pattern, its length is within bounds, all its components are the same. Each
of the first three judges the components of a list one by one. They are also
attributes of a module, beside the function that makes a factory of them.
-/

namespace InputPanel

namespace Validators

def notBlank (subject : Subject) : Bool :=
  subject.values.all fun value => value.any fun s => !(Text.trim s.toList).isEmpty

/-- Whether a test holds of all; the first that it does not hold of, or that fails, decides. -/
def allPass {α : Type} (test : α → Except Failure Bool) : List α → Except Failure Bool
  | [] => .ok true
  | value :: rest => do
    if ← test value then allPass test rest else return false

def matchesPattern (pattern : String) (subject : Subject) : Except Failure Bool :=
  allPass (fun value => Pattern.accepts pattern (value.getD "")) subject.values

def bound (text : String) : Except Failure Int :=
  match Number.readInt text.toList with
  | some n => .ok n
  | none => .error .badValue

/-- The least length that parameters allow. -/
def leastLength (parameters : Parameters) : Except Failure Int :=
  match parameters.get? "min" with
  | some text => bound text
  | none => .ok 0

/-- Whether the length of a value is within the bounds. The upper one is read only for a value that
is long enough. -/
def fits (parameters : Parameters) (least : Int) (value : Option String) : Except Failure Bool := do
  let length : Int := (value.getD "").length
  if length < least then return false
  match parameters.get? "max" with
  | some text => return decide (length ≤ (← bound text))
  | none => return true

def lengthWithin (parameters : Parameters) (subject : Subject) : Except Failure Bool := do
  allPass (fits parameters (← leastLength parameters)) subject.values

def allEqual (subject : Subject) : Bool :=
  match subject.values with
  | [] => true
  | first :: rest => rest.all (· == first)

def crashing (result : Except Failure Bool) : Except Crash Bool :=
  result.mapError .failed

def notEmpty : Plugin := .validator "NotEmptyValidator" fun subject _ => .ok (notBlank subject)

def regularExpression : Plugin :=
  { Plugin.object "RegularExpressionValidator" with
    validate := some fun subject parameters => do
      match parameters.get? "pattern" with
      | some pattern => return crashing (matchesPattern pattern subject)
      | none =>
        Noted.note (.warning "RegularExpressionValidator without a 'pattern' param")
        return .ok false }

def length : Plugin := .validator "LengthValidator" fun subject parameters =>
  crashing (lengthWithin parameters subject)

def passwordEquality : Plugin :=
  .validator "PasswordEqualityValidator" fun subject _ => .ok (allEqual subject)

def all : List Plugin := [notEmpty, regularExpression, length, passwordEquality]

def find? (name : String) : Option Plugin := all.find? fun plugin => plugin.name == name

end Validators

namespace Factory

/-- The function that makes a factory; its result is shown by its kind. -/
def makeDefault : Plugin := .function "default_factory"
  (fun value => if value.isNone then .ok "<ObjectFactory>" else .error (.failed .typeMismatch))
  (fun _ _ => .error (.failed .typeMismatch))

def validatorAttributes : Attributes := fun path =>
  match path, Validators.find? path with
  | _, some plugin => some (.build (.ok plugin))
  | "FieldValidator", none => some (.build (.error (.failed .typeMismatch)))
  | "default_factory", none => some (.function makeDefault)
  | "BUILTIN_VALIDATORS", none => some .other
  | _, none => none

def panelAttributes : Attributes := fun path =>
  if path = "validators" then some .other
  else if path.startsWith "validators." then
    validatorAttributes (String.ofList (path.toList.drop "validators.".length))
  else none

def standardModules : String → Option Attributes
  | "userinput.panel.validators" => some validatorAttributes
  | "userinput.panel" => some panelAttributes
  | _ => none

/-- No aliases. -/
def bare : Factory := ⟨OrderedMap.empty, standardModules⟩

/-- The validators at hand under their names. -/
def standard : Factory :=
  Validators.all.foldl
    (fun factory plugin => factory.register plugin.name (.build (.ok plugin))) bare

end Factory

end InputPanel
