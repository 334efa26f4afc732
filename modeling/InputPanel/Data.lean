import InputPanel.Failure
import InputPanel.Number.Binary64
import InputPanel.Number.Integer
import InputPanel.Text.Quoted

/-!
# Structured values

What a YAML or JSON document holds: scalars, lists and mappings. A value has
a plain text form and a nested one, used inside lists and mappings, in which
text is quoted. A mapping has no two equal keys; numbers and truth values are
equal as keys when they are equal as numbers. A list or a mapping may stand
inside itself, where its text breaks off.
-/

namespace InputPanel

open Number

structure Date where
  year : Nat
  month : Nat
  day : Nat
deriving DecidableEq, Repr

/-- A date with a time of day, and perhaps the offset of its zone in seconds. -/
structure Moment where
  date : Date
  hour : Nat
  minute : Nat
  second : Nat
  microsecond : Nat
  offset : Option Int
deriving DecidableEq, Repr

inductive Data where
  | null
  | bool (value : Bool)
  | int (value : Int)
  | real (value : Binary64)
  | text (value : String)
  | bytes (value : List UInt8)
  | date (value : Date)
  | moment (value : Moment)
  | pair (first second : Data)
  | list (items : List Data)
  | collection (items : List Data)
  | map (entries : List (Data × Data))
  /-- a list or a mapping that the place stands in, with the text that it has there -/
  | loop (isMap : Bool) (shown : String)
deriving Repr, Inhabited

namespace Number

/-- A natural with zeros in front up to a width. -/
def padded (width n : Nat) : String :=
  let digits := Nat.repr n
  "".pushn '0' (width - digits.length) ++ digits

end Number

namespace Date

def text (d : Date) : String :=
  padded 4 d.year ++ "-" ++ padded 2 d.month ++ "-" ++ padded 2 d.day

def arguments (d : Date) : List String := [d.year, d.month, d.day].map Nat.repr

end Date

namespace Moment

/-- The offset of a zone as hours and minutes, and seconds if there are any. -/
def offsetText (seconds : Int) : String :=
  let n := seconds.natAbs
  let base := (if seconds < 0 then "-" else "+") ++ padded 2 (n / 3600) ++ ":" ++
    padded 2 (n / 60 % 60)
  if n % 60 = 0 then base else base ++ ":" ++ padded 2 (n % 60)

def text (m : Moment) : String :=
  m.date.text ++ " " ++ padded 2 m.hour ++ ":" ++ padded 2 m.minute ++ ":" ++ padded 2 m.second ++
    (if m.microsecond = 0 then "" else "." ++ padded 6 m.microsecond) ++
    (match m.offset with | some seconds => offsetText seconds | none => "")

/-- A zone, by its offset as whole days and the seconds left over. -/
def zoneText (seconds : Int) : String :=
  if seconds = 0 then "datetime.timezone.utc"
  else
    let days := seconds.fdiv 86400
    let left := seconds.fmod 86400
    let parts := (if days = 0 then [] else ["days=" ++ toString days]) ++
      (if left = 0 then [] else ["seconds=" ++ toString left])
    "datetime.timezone(datetime.timedelta(" ++ ", ".intercalate parts ++ "))"

def nestedText (m : Moment) : String :=
  let time := if m.microsecond ≠ 0 then [m.hour, m.minute, m.second, m.microsecond]
    else if m.second ≠ 0 then [m.hour, m.minute, m.second]
    else [m.hour, m.minute]
  let parts := m.date.arguments ++ time.map Nat.repr ++
    (match m.offset with | some seconds => ["tzinfo=" ++ zoneText seconds] | none => [])
  "datetime.datetime(" ++ ", ".intercalate parts ++ ")"

end Moment

/-- Bytes as quoted ASCII, the others as two hexadecimal digits. -/
def bytesText (bytes : List UInt8) : String :=
  let chars := bytes.map fun b => Char.ofNat b.toNat
  let quote := Text.quoteFor chars
  let byteChar := fun c : Char =>
    if c.toNat < 128 then Text.quotedChar quote c else '\\' :: 'x' :: Text.hexDigits 2 c.toNat
  String.ofList ('b' :: quote :: chars.flatMap byteChar ++ [quote])

namespace Data

mutual

def nestedText : Data → String
  | null => "None"
  | bool b => if b then "True" else "False"
  | int n => toString n
  | real x => x.write
  | text s => Text.quoted s
  | bytes b => bytesText b
  | date d => "datetime.date(" ++ ", ".intercalate d.arguments ++ ")"
  | moment m => m.nestedText
  | pair a b => "(" ++ nestedText a ++ ", " ++ nestedText b ++ ")"
  | list items => "[" ++ ", ".intercalate (nestedTexts items) ++ "]"
  | collection items =>
    if items.isEmpty then "set()" else "\x7b" ++ ", ".intercalate (nestedTexts items) ++ "\x7d"
  | map entries => "\x7b" ++ ", ".intercalate (entryTexts entries) ++ "\x7d"
  | loop _ shown => shown

def nestedTexts : List Data → List String
  | [] => []
  | item :: rest => nestedText item :: nestedTexts rest

def entryTexts : List (Data × Data) → List String
  | [] => []
  | (key, value) :: rest => (nestedText key ++ ": " ++ nestedText value) :: entryTexts rest

end

def plainText : Data → String
  | text s => s
  | date d => d.text
  | moment m => m.text
  | value => value.nestedText

/-- What keeps a value from having a text: an integer with too many digits in it, or parts within
parts to a depth for which there is no room. -/
def textFault? : Nat → Data → Option Failure
  | _, int n => if isWritable n then none else some .badValue
  | 0, pair _ _ => some .tooDeep
  | 0, list _ => some .tooDeep
  | 0, collection _ => some .tooDeep
  | 0, map _ => some .tooDeep
  | room + 1, pair a b => (textFault? room a).or (textFault? room b)
  | room + 1, list items => items.findSome? (textFault? room)
  | room + 1, collection items => items.findSome? (textFault? room)
  | room + 1, map entries =>
    entries.findSome? fun entry => (textFault? room entry.1).or (textFault? room entry.2)
  | _, _ => none

/-- The text under which a store keeps a value. -/
def storedText : Data → String
  | null => ""
  | value => value.plainText

/-- The text of a scalar in a document: lower-case truth values, nothing for null. -/
def scalarText : Data → String
  | bool b => if b then "true" else "false"
  | value => value.storedText

/-- Whether a value counts as true: nulls, zeros and what is empty do not. -/
def isTrue : Data → Bool
  | null => false
  | bool b => b
  | int n => n != 0
  | real x => !x.isZero
  | text s => !s.isEmpty
  | bytes b => !b.isEmpty
  | list items => !items.isEmpty
  | collection items => !items.isEmpty
  | map entries => !entries.isEmpty
  | _ => true

def isMap : Data → Bool
  | map _ => true
  | _ => false

/-- The number that a value counts as when it is a key. -/
def asNumber? : Data → Option (Int ⊕ Binary64)
  | bool b => some (.inl (if b then 1 else 0))
  | int n => some (.inl n)
  | real x => some (.inr x)
  | _ => none

def sameNumber : Int ⊕ Binary64 → Int ⊕ Binary64 → Bool
  | .inl a, .inl b => a == b
  | .inl a, .inr x => x.compareInt? a == some .eq
  | .inr x, .inl a => x.compareInt? a == some .eq
  | .inr x, .inr y => x.compare? y == some .eq

mutual

/-- Whether two values are one key. -/
def sameKey : Data → Data → Bool
  | null, null => true
  | text a, text b => a == b
  | bytes a, bytes b => a == b
  | date a, date b => a == b
  | moment a, moment b => a == b
  | pair a b, pair c d => sameKey a c && sameKey b d
  | a, b =>
    match a.asNumber?, b.asNumber? with
    | some x, some y => sameNumber x y
    | _, _ => false

end

/-- Sets an entry; an equal key stays as it was first written. -/
def setEntry (key value : Data) : List (Data × Data) → List (Data × Data)
  | [] => [(key, value)]
  | (k, old) :: rest =>
    if sameKey k key then (k, value) :: rest else (k, old) :: setEntry key value rest

/-- The mapping that entries set one after the other make. -/
def mapOf (entries : List (Data × Data)) : Data :=
  .map (entries.foldl (fun acc entry => setEntry entry.1 entry.2 acc) [])

end Data

end InputPanel
