import InputPanel.Text.CharSet

/-!
# Decimal digits

The digits of every script count, ten code points in a row from each zero.
-/

namespace InputPanel.Text

/-- The zeros of the scripts with decimal digits, in ascending order. -/
def digitZeros : Array Nat := runningSums (numbersIn
  ("48 1584 144 208 422 128 128 128 128 128 128 128 128 128 106 128 80 288 80 1872 48 310 " ++
  "138 176 16 192 96 144 16 35280 688 48 208 32 96 416 21280 1424 2192 822 138 70 154 288 " ++
  "352 128 384 112 112 432 112 768 256 80 19648 96 144 27774 10 10 10 10 2378 432 1632 4768"))

def digitValue? (c : Char) : Option Nat :=
  if c.isDigit then some (c.toNat - 48)
  else if c.toNat < 0x600 then none
  else
    let k := countUpTo digitZeros c.toNat 0 digitZeros.size
    let start := digitZeros.getD (k - 1) 0
    if c.toNat < start + 10 then some (c.toNat - start) else none

def isDecimalDigit (c : Char) : Bool := (digitValue? c).isSome

/-- A digit of a base up to thirty-six; the letters continue after nine in either case. -/
def alphanumericValue? (c : Char) : Option Nat :=
  match digitValue? c with
  | some d => some d
  | none =>
    if 'a' ≤ c ∧ c ≤ 'z' then some (c.toNat - 'a'.toNat + 10)
    else if 'A' ≤ c ∧ c ≤ 'Z' then some (c.toNat - 'A'.toNat + 10)
    else none

def hexValue? (c : Char) : Option Nat :=
  if c.isDigit then some (c.toNat - 48)
  else if 'a' ≤ c ∧ c ≤ 'f' then some (c.toNat - 87)
  else if 'A' ≤ c ∧ c ≤ 'F' then some (c.toNat - 55)
  else none

/-- The number that hexadecimal digits spell. -/
def hexNumber? (digits : List Char) : Option Nat :=
  digits.foldl (fun acc c => acc.bind fun n => (hexValue? c).map (n * 16 + ·)) (some 0)

def hexDigit (n : Nat) : Char :=
  Char.ofNat (if n < 10 then 48 + n else 87 + n)

/-- The last `width` hexadecimal digits of a number, in lower case. -/
def hexDigits : Nat → Nat → List Char
  | 0, _ => []
  | width + 1, n => hexDigits width (n / 16) ++ [hexDigit (n % 16)]

end InputPanel.Text
