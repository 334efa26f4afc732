import InputPanel.Data
import InputPanel.Failure
import InputPanel.Text.Blank
import InputPanel.Text.Case

/-!
# Values of condition expressions

Conditions compare texts, numbers and lists. Integers and binary fractions are
compared exactly. A purely imaginary number can be tested for equality only.
The helper functions are values too, equal each to itself.

A value is an object: besides what it holds it has a place. The test for one
object asks for the place, and so do the tests that look into lists, which take
an item for equal to itself without comparing it.
-/

namespace InputPanel.Condition

open Number

inductive Helper where
  | int
  | str
  | len
  | bool
  | lower
  | upper
deriving DecidableEq, Repr

/-- A value without parts. -/
inductive Atom where
  | none
  | ellipsis
  | bool (value : Bool)
  | int (value : Int)
  | real (value : Binary64)
  | imaginary (negated : Bool) (value : Binary64)
  | text (value : String)
  | bytes (value : List UInt8)
deriving DecidableEq, Repr

/-- Where an object stands. What is made while a condition is evaluated stands in no place that can
be found again. -/
inductive Place where
  | made
  /-- the one object that is kept for all uses of what it holds -/
  | common
  /-- the object that a variable holds -/
  | held (name : String)
deriving DecidableEq, Repr

inductive Value where
  | atom (atom : Atom) (place : Place)
  | list (items : List Value) (place : Place)
  | helper (value : Helper)
deriving Repr

namespace Helper

def name : Helper → String
  | int => "int"
  | str => "str"
  | len => "len"
  | bool => "bool"
  | lower => "lower"
  | upper => "upper"

def ofName? : String → Option Helper
  | "int" => some int
  | "str" => some str
  | "len" => some len
  | "bool" => some bool
  | "lower" => some lower
  | "upper" => some upper
  | _ => Option.none

def text : Helper → String
  | len => "<built-in function len>"
  | lower => "<function <lambda>>"
  | upper => "<function <lambda>>"
  | other => "<class '" ++ other.name ++ "'>"

end Helper

def compareNumbers : Int ⊕ Binary64 → Int ⊕ Binary64 → Option Ordering
  | .inl a, .inl b => some (compare a b)
  | .inl a, .inr x => (x.compareInt? a).map Ordering.swap
  | .inr x, .inl a => x.compareInt? a
  | .inr x, .inr y => x.compare? y

def isZeroNumber : Int ⊕ Binary64 → Bool
  | .inl n => n == 0
  | .inr x => x.isZero

def compareLists {α : Type} [Ord α] : List α → List α → Ordering
  | [], [] => .eq
  | [], _ :: _ => .lt
  | _ :: _, [] => .gt
  | a :: as, b :: bs => (compare a b).then (compareLists as bs)

def imaginaryText (negated : Bool) (x : Binary64) : String :=
  let digits := String.ofList (Binary64.writeWith false x)
  if negated then
    "(-0" ++ (if digits.startsWith "-" then "" else "+") ++ digits ++ "j)"
  else digits ++ "j"

namespace Atom

def truth : Atom → Bool
  | none => false
  | ellipsis => true
  | bool b => b
  | int n => n != 0
  | real x => !x.isZero
  | imaginary _ x => !x.isZero
  | text s => !s.isEmpty
  | bytes b => !b.isEmpty

/-- The number an atom counts as in comparisons. -/
def asNumber? : Atom → Option (Int ⊕ Binary64)
  | bool b => some (.inl (if b then 1 else 0))
  | int n => some (.inl n)
  | real x => some (.inr x)
  | _ => Option.none

def isImaginaryZero : Atom → Bool
  | imaginary _ x => x.isZero
  | _ => false

def equal : Atom → Atom → Bool
  | none, none => true
  | ellipsis, ellipsis => true
  | text a, text b => a == b
  | bytes a, bytes b => a == b
  | imaginary _ x, imaginary _ y => x.compare? y == some .eq
  | a, b =>
    match a.asNumber?, b.asNumber? with
    | some x, some y => compareNumbers x y == some .eq
    | some x, Option.none => isZeroNumber x && isImaginaryZero b
    | Option.none, some y => isZeroNumber y && isImaginaryZero a
    | _, _ => false

/-- The order of two atoms. Numbers, texts and bytes are ordered each among their own. Undefined
numbers have no order. -/
def order : Atom → Atom → Except Failure (Option Ordering)
  | text a, text b => .ok (some (compareLists (a.toList.map Char.toNat) (b.toList.map Char.toNat)))
  | bytes a, bytes b => .ok (some (compareLists (a.map UInt8.toNat) (b.map UInt8.toNat)))
  | a, b =>
    match a.asNumber?, b.asNumber? with
    | some x, some y => .ok (compareNumbers x y)
    | _, _ => .error .typeMismatch

/-- Whether a text or bytes hold a part, or bytes a number. -/
def contains (container item : Atom) : Except Failure Bool :=
  match container, item with
  | text s, text part => .ok (Text.occursIn part.toList s.toList)
  | bytes s, bytes part =>
    let char := fun b : UInt8 => Char.ofNat b.toNat
    .ok (Text.occursIn (part.map char) (s.map char))
  | bytes s, item =>
    match item.asNumber? with
    | some (.inl n) =>
      if 0 ≤ n ∧ n < 256 then .ok (s.any fun b => (b.toNat : Int) == n) else .error .badValue
    | _ => .error .typeMismatch
  | _, _ => .error .typeMismatch

def negate : Atom → Except Failure Atom
  | bool b => .ok (int (if b then -1 else 0))
  | int n => .ok (int (-n))
  | real x => .ok (real x.negate)
  | imaginary negated x => .ok (imaginary (!negated) x.negate)
  | _ => .error .typeMismatch

/-- The text of an atom as it stands in the text of a list. -/
def nestedText : Atom → Except Failure String
  | none => .ok "None"
  | ellipsis => .ok "Ellipsis"
  | bool b => .ok (if b then "True" else "False")
  | int n => if isWritable n then .ok (toString n) else .error .badValue
  | real x => .ok x.write
  | imaginary negated x => .ok (imaginaryText negated x)
  | text s => .ok (Text.quoted s)
  | bytes b => .ok (bytesText b)

/-- Whether one object is kept for an atom, wherever it comes from: for the constants, for small
integers and for the shortest texts and bytes. -/
def isKept : Atom → Bool
  | none => true
  | ellipsis => true
  | bool _ => true
  | int n => decide (-5 ≤ n) && decide (n ≤ 256)
  | text s => s.isEmpty
  | bytes b => decide (b.length ≤ 1)
  | _ => false

end Atom

namespace Value

@[match_pattern]
def none : Value := .atom .none .common

@[match_pattern]
def bool (b : Bool) : Value := .atom (.bool b) .common

/-- A value that is made on the spot. -/
def anew (a : Atom) : Value := .atom a .made

/-- A text as it is read: one object is kept for a single character below 256. -/
def ofText (s : String) : Value :=
  .atom (.text s)
    (if s.length = 1 ∧ s.toList.all (fun c => c.toNat < 256) then .common else .made)

def place : Value → Place
  | atom a place => if a.isKept then .common else place
  | list _ place => place
  | helper _ => .common

/-- A value that stands in no place of its own stands in that of the variable which holds it. -/
def heldBy (name : String) : Value → Value
  | atom a .made => atom a (.held name)
  | list items .made => list items (.held name)
  | value => value

mutual

/-- Whether two values hold the same, wherever they stand. -/
def alike : Value → Value → Bool
  | atom a _, atom b _ => a == b
  | list as _, list bs _ => alikeItems as bs
  | helper f, helper g => f == g
  | _, _ => false

def alikeItems : List Value → List Value → Bool
  | [], [] => true
  | a :: as, b :: bs => alike a b && alikeItems as bs
  | _, _ => false

end

/-- Whether two values are one object. -/
def same (x y : Value) : Bool := x.place != .made && x.place == y.place && x.alike y

def truth : Value → Bool
  | atom a _ => a.truth
  | list items _ => !items.isEmpty
  | helper _ => true

def asNumber? : Value → Option (Int ⊕ Binary64)
  | atom a _ => a.asNumber?
  | _ => Option.none

mutual

def equal : Value → Value → Bool
  | atom a _, atom b _ => a.equal b
  | list as _, list bs _ => equalItems as bs
  | helper f, helper g => f == g
  | _, _ => false

def equalItems : List Value → List Value → Bool
  | [], [] => true
  | a :: as, b :: bs => (same a b || equal a b) && equalItems as bs
  | _, _ => false

end

mutual

/-- The order of two values. Lists are ordered by their first unequal items, else by length. -/
def order : Value → Value → Except Failure (Option Ordering)
  | atom a _, atom b _ => a.order b
  | list as _, list bs _ => orderItems as bs
  | _, _ => .error .typeMismatch

def orderItems : List Value → List Value → Except Failure (Option Ordering)
  | [], [] => .ok (some .eq)
  | [], _ :: _ => .ok (some .lt)
  | _ :: _, [] => .ok (some .gt)
  | a :: as, b :: bs => if same a b || equal a b then orderItems as bs else order a b

end

def contains (container item : Value) : Except Failure Bool :=
  match container, item with
  | list items _, item => .ok (items.any fun x => same x item || equal x item)
  | atom a _, atom b _ => a.contains b
  | _, _ => .error .typeMismatch

def negate : Value → Except Failure Value
  | atom a _ => a.negate.map anew
  | _ => .error .typeMismatch

mutual

def nestedText : Value → Except Failure String
  | atom a _ => a.nestedText
  | list items _ => do
    let texts ← nestedTexts items
    return "[" ++ ", ".intercalate texts ++ "]"
  | helper h => .ok h.text

def nestedTexts : List Value → Except Failure (List String)
  | [] => .ok []
  | item :: rest => do
    let first ← nestedText item
    let others ← nestedTexts rest
    return first :: others

end

def plainText : Value → Except Failure String
  | atom (.text s) _ => .ok s
  | value => value.nestedText

/-- A value as a text. A text is taken as it stands, and one text is kept for each truth value. -/
def asText : Value → Except Failure Value
  | atom (.text s) place => .ok (atom (.text s) place)
  | atom (.bool b) _ => .ok (atom (.text (if b then "True" else "False")) .common)
  | value => value.nestedText.map fun s => anew (.text s)

end Value

/-- What an expression can spell out. No undefined number can be. -/
inductive Constant where
  | none
  | ellipsis
  | bool (value : Bool)
  | int (value : Nat)
  | real (value : Binary64) (defined : value ≠ .undefined)
  | imaginary (value : Binary64) (defined : value ≠ .undefined)
  | text (value : String)
  | bytes (value : List UInt8)

/-- The object that stands for a constant each time it is spelled. -/
def Constant.value : Constant → Value
  | none => .none
  | ellipsis => .anew .ellipsis
  | bool b => .bool b
  | int n => .anew (.int n)
  | real x _ => .anew (.real x)
  | imaginary x _ => .anew (.imaginary false x)
  | text s => .ofText s
  | bytes b => .anew (.bytes b)

namespace Helper

/-- A text in one of the encodings that bytes are read with. -/
def decodeBytes (bytes : List UInt8) (encoding : String) : Except Failure String :=
  let name := (Text.lower encoding).replace "_" "-"
  if ["utf-8", "utf8", "u8", "utf", "cp65001"].contains name then
    match String.fromUTF8? ⟨bytes.toArray⟩ with
    | some s => .ok s
    | Option.none => .error .undecodable
  else if ["ascii", "us-ascii", "646"].contains name then
    if bytes.all (· < 128) then .ok (String.ofList (bytes.map fun b => Char.ofNat b.toNat))
    else .error .undecodable
  else if ["latin-1", "latin1", "iso-8859-1", "iso8859-1", "8859", "l1", "latin"].contains name then
    .ok (String.ofList (bytes.map fun b => Char.ofNat b.toNat))
  else .error .unknownCodec

/-- The characters of a text, or of bytes that are all ASCII, to be read as a number. -/
def numeral? : Atom → Except Failure (List Char)
  | .text s => .ok s.toList
  | .bytes b =>
    if b.all (· < 128) then .ok (b.map fun b => Char.ofNat b.toNat) else .error .badValue
  | _ => .error .typeMismatch

def orBadValue (n : Option Int) : Except Failure Value :=
  match n with
  | some n => .ok (.anew (.int n))
  | Option.none => .error .badValue

/-- An integer is taken as it stands. -/
def toInt : Value → Except Failure Value
  | .atom (.bool b) _ => .ok (.anew (.int (if b then 1 else 0)))
  | .atom (.int n) place => .ok (.atom (.int n) place)
  | .atom (.real x) _ =>
    match x, x.truncate? with
    | _, some n => .ok (.anew (.int n))
    | .infinite _, _ => .error .outOfRange
    | _, _ => .error .badValue
  | .atom a _ => (numeral? a).bind fun digits => orBadValue (readInt digits)
  | _ => .error .typeMismatch

def toIntBase (numeral base : Value) : Except Failure Value :=
  match base.asNumber? with
  | some (.inl b) =>
    if b ≠ 0 ∧ (b < 2 ∨ 36 < b) then .error .badValue
    else
      match numeral with
      | .atom a _ => (numeral? a).bind fun digits => orBadValue (readIntBase b.toNat digits)
      | _ => .error .typeMismatch
  | _ => .error .typeMismatch

def length : Value → Except Failure Value
  | .atom (.text s) _ => .ok (.anew (.int s.length))
  | .atom (.bytes b) _ => .ok (.anew (.int b.length))
  | .list items _ => .ok (.anew (.int items.length))
  | _ => .error .typeMismatch

/-- The text that bytes spell in an encoding; no bytes spell the empty text in any. -/
def decoded (value : Value) (encoding : String) : Except Failure Value :=
  match value with
  | .atom (.bytes []) _ => .ok (.ofText "")
  | .atom (.bytes b) _ => (decodeBytes b encoding).map .ofText
  | _ => .error .typeMismatch

def holdsNul (s : String) : Bool := s.toList.contains '\x00'

/-- The value of a helper function at its arguments. -/
def apply : Helper → List Value → Except Failure Value
  | int, [] => .ok (.anew (.int 0))
  | int, [x] => toInt x
  | int, [x, base] => toIntBase x base
  | str, [] => .ok (.ofText "")
  | str, [x] => x.asText
  | str, [x, .atom (.text encoding) _] =>
    if holdsNul encoding then .error .badValue else decoded x encoding
  | str, [x, .atom (.text encoding) _, .atom (.text onError) _] =>
    if holdsNul encoding || holdsNul onError then .error .badValue else decoded x encoding
  | len, [x] => length x
  | bool, [] => .ok (.bool false)
  | bool, [x] => .ok (.bool x.truth)
  | lower, [x] => x.plainText.map fun s => .anew (.text (Text.lower s))
  | upper, [x] => x.plainText.map fun s => .anew (.text (Text.upper s))
  | _, _ => .error .typeMismatch

end Helper

end InputPanel.Condition
