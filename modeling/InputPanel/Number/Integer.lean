import InputPanel.Text.Blank
import InputPanel.Text.Digit

/-!
# Integers in text

An integer is a sign and digits of any script; one underscore may stand between
two digits, and white space around the whole is ignored. Numerals of more than
`digitLimit` digits are refused in every base that is not a power of two, and
an integer of more decimal digits has no text.
-/

namespace InputPanel.Number

open Text

def digitLimit : Nat := 4300

/-- Digits with single underscores between them, by the value of each. -/
def digitRun (value? : Char → Option Nat) : List Char → Option (List Nat)
  | [] => none
  | [c] => (value? c).map ([·])
  | c :: '_' :: rest => do
    let d ← value? c
    let ds ← digitRun value? rest
    return d :: ds
  | c :: rest => do
    let d ← value? c
    let ds ← digitRun value? rest
    return d :: ds

def ofDigits (base : Nat) (digits : List Nat) : Nat :=
  digits.foldl (fun n d => n * base + d) 0

def digitBelow (base : Nat) (c : Char) : Option Nat :=
  (alphanumericValue? c).filter (· < base)

def isPowerOfTwo (base : Nat) : Bool := [2, 4, 8, 16, 32].contains base

/-- The numeral in `base`, without sign, within the digit limit. -/
def readNatural (base : Nat) (s : List Char) : Option Nat := do
  let digits ← digitRun (digitBelow base) s
  if digits.length > digitLimit && !isPowerOfTwo base then none
  else return ofDigits base digits

/-- A sign, if there is one, taken off. -/
def splitSign : List Char → Bool × List Char
  | '-' :: rest => (true, rest)
  | '+' :: rest => (false, rest)
  | s => (false, s)

/-- White space around an integer. The separators of ASCII, which are blank, are not among it. -/
def isMargin (c : Char) : Bool :=
  if c.toNat < 128 then c == ' ' || (9 ≤ c.toNat && c.toNat ≤ 13) else isBlank c

def withoutMargin (s : List Char) : List Char :=
  dropRightWhile isMargin (s.dropWhile isMargin)

def signed (negative : Bool) (n : Nat) : Int := if negative then -(n : Int) else n

def readInt (s : List Char) : Option Int :=
  let (negative, numeral) := splitSign (withoutMargin s)
  (readNatural 10 numeral).map (signed negative)

/-- The base that a letter after a leading zero announces. -/
def announcedBase (c : Char) : Option Nat :=
  if c = 'x' ∨ c = 'X' then some 16
  else if c = 'o' ∨ c = 'O' then some 8
  else if c = 'b' ∨ c = 'B' then some 2
  else none

/-- Drops the underscore that may stand between a base announcement and the digits. -/
def afterAnnouncement : List Char → List Char
  | '_' :: rest => rest
  | s => s

/-- The numeral without sign in a base from two to thirty-six. Base zero takes the base announced,
and then a numeral that announces none must not begin with a zero, unless it is zero. -/
def readUnsigned (base : Nat) (s : List Char) : Option Nat :=
  match s with
  | '0' :: mark :: rest =>
    match announcedBase mark with
    | some announced =>
      if base = 0 ∨ base = announced then readNatural announced (afterAnnouncement rest)
      else readNatural base s
    | none =>
      if base = 0 then (readNatural 10 s).filter (· == 0) else readNatural base s
  | _ => readNatural (if base = 0 then 10 else base) s

def readIntBase (base : Nat) (s : List Char) : Option Int :=
  let (negative, numeral) := splitSign (withoutMargin s)
  (readUnsigned base numeral).map (signed negative)

/-- Whether an integer has a text. -/
def isWritable (n : Int) : Bool := (Nat.repr n.natAbs).length ≤ digitLimit

def natText (n : Nat) : List Char := (Nat.repr n).toList

end InputPanel.Number
