import InputPanel.Number.Integer
import InputPanel.Text.Quoted

/-!
# Composite values from a layout and a set

A layout is a row of tokens, placeholders and literals; a token with two colons
or more is a placeholder. A set assigns texts to slots by tokens `index:value`.
The k-th placeholder shows slot k. There are as many slots as layout tokens, so
a slot may be set that no placeholder shows.
-/

namespace InputPanel

inductive LayoutError where
  | invalidIndex (index token : String)
  | outOfRange (index count : Int)
deriving DecidableEq, Repr

namespace LayoutError

def message : LayoutError → String
  | invalidIndex index token =>
    "Invalid slot index " ++ Text.quoted index ++ " in set token " ++ Text.quoted token
  | outOfRange index count =>
    "Slot index " ++ toString index ++ " out of range for layout of " ++ toString count ++ " tokens"

end LayoutError

/-- How the literals of a layout appear in the value. -/
inductive ResultFormat where
  | display
  | plain
  | special (separator : String)
deriving DecidableEq, Repr

namespace ResultFormat

def ofName (name separator : Option String) : ResultFormat :=
  match name with
  | some "specialSeparator" => .special (separator.getD "")
  | some "plainString" => .plain
  | _ => .display

def literal : ResultFormat → List Char → List Char
  | .display, token => token
  | .plain, _ => []
  | .special separator, _ => separator.toList

end ResultFormat

namespace Layout

abbrev Slots := List (Option (List Char))

def isPlaceholder (token : List Char) : Bool := 2 ≤ token.count ':'

/-- The index and value that a set token assigns, if it has a colon. -/
def assignment? (token : List Char) : Option (List Char × List Char) := Text.cutAt ':' token

def assign (count : Int) (slots : Slots) (token : List Char) : Except LayoutError Slots :=
  match assignment? token with
  | none => .ok slots
  | some (index, value) =>
    match Number.readInt index with
    | none => .error (.invalidIndex (String.ofList index) (String.ofList token))
    | some i =>
      if 0 ≤ i ∧ i < count then .ok (slots.set i.toNat (some value))
      else .error (.outOfRange i count)

/-- The slots after every token of the set, later tokens over earlier ones. -/
def parseSlots (set : List Char) (count : Int) : Except LayoutError Slots :=
  (Text.words set).foldlM (assign count) (List.replicate count.toNat none)

/-- The value of the tokens, placeholders showing the slots one after the other. -/
def render (format : ResultFormat) : List (List Char) → Slots → List Char
  | [], _ => []
  | token :: tokens, slots =>
    if isPlaceholder token then
      (slots.head?.join.getD []) ++ render format tokens slots.tail
    else format.literal token ++ render format tokens slots

def reconstruct (layout set : String) (format : ResultFormat) : Except LayoutError String := do
  let tokens := Text.words layout.toList
  let slots ← parseSlots set.toList tokens.length
  return String.ofList (render format tokens slots)

end Layout

end InputPanel
