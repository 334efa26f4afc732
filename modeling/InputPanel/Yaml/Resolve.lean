import InputPanel.Data
import InputPanel.Failure
import InputPanel.Number.Integer
import InputPanel.Text.Case

/-!
# What plain scalars mean

A plain scalar is a truth value, a number, a time, null or a mark for merging
by its form, else text. Underscores in numbers count for nothing, and colons
separate digits of base sixty. A leading zero makes a number octal.
-/

namespace InputPanel.Yaml

open Number

inductive Kind where
  | null
  | bool
  | int
  | real
  | time
  | merge
  | value
  | text
deriving DecidableEq, Repr

def digitOr (c : Char) : Bool := c.isDigit || c == '_'

/-- Whether the text is a run of one character or more that satisfies `p`. -/
def isRun (p : Char → Bool) (s : List Char) : Bool := !s.isEmpty && s.all p

def withoutSign : List Char → List Char
  | '+' :: rest => rest
  | '-' :: rest => rest
  | s => s

/-- Digits of base sixty, each part after the first of one or two decimal digits. -/
def isSixtieth (part : List Char) : Bool :=
  match part with
  | [a] => a.isDigit
  | [a, b] => '0' ≤ a && a ≤ '5' && b.isDigit
  | _ => false

def isBool (s : String) : Bool :=
  ["yes", "Yes", "YES", "no", "No", "NO", "true", "True", "TRUE", "false", "False", "FALSE",
    "on", "On", "ON", "off", "Off", "OFF"].contains s

def isNull (s : String) : Bool := ["", "~", "null", "Null", "NULL"].contains s

def isInt (s : List Char) : Bool :=
  match withoutSign s with
  | '0' :: 'b' :: rest => isRun (fun c => c == '0' || c == '1' || c == '_') rest
  | '0' :: 'x' :: rest => isRun (fun c => (Text.hexValue? c).isSome || c == '_') rest
  | ['0'] => true
  | '0' :: rest => isRun (fun c => ('0' ≤ c && c ≤ '7') || c == '_') rest
  | c :: rest =>
    if c.isDigit then
      match Text.piecesBy (· == ':') rest with
      | [] => true
      | first :: parts => first.all digitOr && parts.all isSixtieth
    else false
  | [] => false

/-- An exponent with its sign, or nothing. -/
def isExponent : List Char → Bool
  | [] => true
  | mark :: sign :: digits =>
    (mark == 'e' || mark == 'E') && (sign == '+' || sign == '-') && isRun Char.isDigit digits
  | _ => false

/-- Digits and underscores after a point, then perhaps an exponent. -/
def isFraction (s : List Char) : Bool := isExponent (s.dropWhile digitOr)

def isSixtiethReal (s : List Char) : Bool :=
  match Text.cutAt '.' s with
  | some (whole, fraction) =>
    match Text.piecesBy (· == ':') whole with
    | first :: part :: parts =>
      first.head?.any Char.isDigit && first.all digitOr && (part :: parts).all isSixtieth &&
        fraction.all digitOr
    | _ => false
  | none => false

def isReal (s : List Char) : Bool :=
  let unsigned := withoutSign s
  let isSigned := unsigned.length != s.length
  match unsigned with
  | '.' :: rest =>
    [['i', 'n', 'f'], ['I', 'n', 'f'], ['I', 'N', 'F']].contains rest ||
      (!isSigned && ([['n', 'a', 'n'], ['N', 'a', 'N'], ['N', 'A', 'N']].contains rest ||
        (rest.head?.any Char.isDigit && isFraction rest)))
  | c :: rest =>
    let afterDigits := rest.dropWhile digitOr
    c.isDigit && ((afterDigits.head? == some '.' && isFraction afterDigits.tail) ||
      isSixtiethReal unsigned)
  | [] => false

/-- A time as it is written: a date, and perhaps hour, minute, second and fraction, and a zone. -/
structure TimeText where
  year : Nat
  month : Nat
  day : Nat
  clock : Option (Nat × Nat × Nat)
  fraction : List Char
  /-- The offset in minutes, where a zone is written. -/
  zone : Option Int

/-- A number of so many digits at the front, and the rest. -/
def digitsAt (least most : Nat) (s : List Char) : Option (Nat × List Char) :=
  let digits := (s.take most).takeWhile Char.isDigit
  if digits.length < least then none
  else some (ofDigits 10 (digits.map fun c => c.toNat - '0'.toNat), s.drop digits.length)

def passed (c : Char) : List Char → Option (List Char)
  | d :: rest => if c = d then some rest else none
  | [] => none

/-- A zone after white space: a capital Z, or an offset in hours and perhaps minutes. -/
def zoneOf (s : List Char) : Option (Option Int) := do
  let s := s.dropWhile fun c => c == ' ' || c == '\t'
  match s with
  | ['Z'] => return some 0
  | sign :: rest =>
    if sign ≠ '+' ∧ sign ≠ '-' then none
    else
      let (hours, rest) ← digitsAt 1 2 rest
      let minutes ← match rest with
        | [] => some 0
        | ':' :: rest => do
          let (minutes, rest) ← digitsAt 2 2 rest
          if rest.isEmpty then some minutes else none
        | _ => none
      return some (signed (sign == '-') (hours * 60 + minutes))
  | [] => none

/-- The time that a text spells. -/
def timeText? (s : List Char) : Option TimeText := do
  let (year, rest) ← digitsAt 4 4 s
  let (month, rest) ← digitsAt 1 2 (← passed '-' rest)
  let (day, rest) ← digitsAt 1 2 (← passed '-' rest)
  if rest.isEmpty then return ⟨year, month, day, none, [], none⟩
  let isBlank := fun c : Char => c == ' ' || c == '\t'
  let rest ← match rest with
    | c :: more =>
      if c = 'T' ∨ c = 't' then some more
      else if isBlank c then some (more.dropWhile isBlank) else none
    | [] => none
  let (hour, rest) ← digitsAt 1 2 rest
  let (minute, rest) ← digitsAt 2 2 (← passed ':' rest)
  let (second, rest) ← digitsAt 2 2 (← passed ':' rest)
  let (fraction, rest) := match rest with
    | '.' :: more => (more.takeWhile Char.isDigit, more.dropWhile Char.isDigit)
    | rest => ([], rest)
  let zone ← if rest.isEmpty then some none else zoneOf rest
  return ⟨year, month, day, some (hour, minute, second), fraction, zone⟩

/-- A plain date has two digits for the month and the day. -/
def isTime (s : List Char) : Bool :=
  match timeText? s with
  | some time => time.clock.isSome || s.length == 10
  | none => false

/-- What a plain scalar is by its form. -/
def kindOf (s : String) : Kind :=
  let chars := s.toList
  if isNull s then .null
  else if isBool s then .bool
  else if isReal chars then .real
  else if isInt chars then .int
  else if s = "<<" then .merge
  else if isTime chars then .time
  else if s = "=" then .value
  else .text

def orBadValue {α : Type} : Option α → Except Failure α
  | some a => .ok a
  | none => .error .badValue

/-- A sign, if there is one, taken off a text that must not be empty. -/
def signOf (s : List Char) : Except Failure (Bool × List Char) :=
  match s with
  | [] => .error .outOfBounds
  | '-' :: rest => .ok (true, rest)
  | '+' :: rest => .ok (false, rest)
  | s => .ok (false, s)

/-- The value of digits, the least first, each worth sixty times the one before. -/
def sixtieths : List Int → Int
  | [] => 0
  | digit :: rest => digit + 60 * sixtieths rest

def readAll (parts : List (List Char)) : Except Failure (List Int) :=
  parts.mapM fun part => orBadValue (readInt part)

def intOf (s : String) : Except Failure Int := do
  let (negative, digits) ← signOf (s.toList.filter (· != '_'))
  let value ← match digits with
    | ['0'] => pure 0
    | '0' :: 'b' :: rest => orBadValue (readIntBase 2 rest)
    | '0' :: 'x' :: rest => orBadValue (readIntBase 16 rest)
    | '0' :: _ => orBadValue (readIntBase 8 digits)
    | [] => .error .outOfBounds
    | _ =>
      if digits.contains ':' then
        pure (sixtieths (← readAll (Text.piecesBy (· == ':') digits)).reverse)
      else orBadValue (readInt digits)
  return if negative then -value else value

/-- The sum of parts, the least first, each worth sixty times the one before; every step is
rounded. -/
def realSixtieths : List Binary64 → Nat → Binary64 → Binary64
  | [], _, sum => sum
  | part :: rest, worth, sum => realSixtieths rest (worth * 60) (sum.add (part.times worth))

/-- A number in lower case, or the name of one that is not finite, white space around it allowed. -/
def readReal (s : List Char) : Option Binary64 :=
  let (negative, word) := splitSign (Text.trim s)
  if ["inf", "infinity"].contains (String.ofList word) then some (.infinite negative)
  else if word = ['n', 'a', 'n'] then some .undefined
  else Binary64.read (Text.trim s)

def realOf (s : String) : Except Failure Binary64 := do
  let (negative, digits) ← signOf (Text.lower (s.replace "_" "")).toList
  let value ←
    if digits = ['.', 'i', 'n', 'f'] then pure (.infinite false)
    else if digits = ['.', 'n', 'a', 'n'] then pure .undefined
    else if digits.contains ':' then
      let parts ← (Text.piecesBy (· == ':') digits).mapM fun part => orBadValue (readReal part)
      pure (realSixtieths parts.reverse 1 (.finite false 0 Binary64.leastExponent))
    else orBadValue (readReal digits)
  return if negative then value.negate else value

def boolOf (s : String) : Except Failure Bool :=
  let word := Text.lower s
  if ["yes", "true", "on"].contains word then .ok true
  else if ["no", "false", "off"].contains word then .ok false
  else .error .missingKey

def isLeapYear (year : Nat) : Bool :=
  (year % 4 == 0 && year % 100 != 0) || year % 400 == 0

def daysIn (year month : Nat) : Nat :=
  match month with
  | 2 => if isLeapYear year then 29 else 28
  | 4 | 6 | 9 | 11 => 30
  | _ => 31

def dateOf (time : TimeText) : Except Failure Date :=
  let inRange := 1 ≤ time.year ∧ 1 ≤ time.month ∧ time.month ≤ 12 ∧ 1 ≤ time.day ∧
    time.day ≤ daysIn time.year time.month
  if inRange then .ok ⟨time.year, time.month, time.day⟩ else .error .badValue

/-- The first six digits of a fraction, zeros filling up. -/
def microseconds (fraction : List Char) : Nat :=
  let digits := (fraction.take 6).map fun c => c.toNat - '0'.toNat
  ofDigits 10 (digits ++ List.replicate (6 - digits.length) 0)

def timeOf (s : String) : Except Failure Data := do
  match timeText? s.toList with
  | none => .error .missingMember
  | some time =>
    match time.clock with
    | none => return .date (← dateOf time)
    | some (hour, minute, second) =>
      let zone := time.zone
      if zone.any fun minutes => 24 * 60 ≤ minutes.natAbs then .error .badValue
      let date ← dateOf time
      if hour < 24 ∧ minute < 60 ∧ second < 60 then
        return .moment ⟨date, hour, minute, second, microseconds time.fraction,
          zone.map (· * 60)⟩
      else .error .badValue

end InputPanel.Yaml
