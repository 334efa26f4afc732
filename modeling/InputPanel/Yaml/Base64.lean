import InputPanel.Failure

/-!
# Bytes in base sixty-four

Each character of the alphabet carries six bits. Characters outside it count
for nothing. Two padding marks, or one after three characters of a group, end
the text; without them the last group must be full.
-/

namespace InputPanel.Yaml.Base64

def sextet? (c : Char) : Option Nat :=
  if 'A' ≤ c ∧ c ≤ 'Z' then some (c.toNat - 'A'.toNat)
  else if 'a' ≤ c ∧ c ≤ 'z' then some (c.toNat - 'a'.toNat + 26)
  else if c.isDigit then some (c.toNat - '0'.toNat + 52)
  else if c = '+' then some 62
  else if c = '/' then some 63
  else none

/-- The bytes of a text from a place in a group of four on: how many characters of the group have
been read, how many padding marks since, and the bits left over. -/
def decode : Nat → Nat → Nat → List Char → Except Failure (List UInt8)
  | place, _, _, [] => if place = 0 then .ok [] else .error .malformedYaml
  | place, pads, left, c :: rest =>
    if c = '=' then
      if 2 ≤ place ∧ 4 ≤ place + pads + 1 then .ok []
      else decode place (if 2 ≤ place then pads + 1 else pads) left rest
    else
      match sextet? c with
      | none => decode place pads left rest
      | some n =>
        match place with
        | 0 => decode 1 0 n rest
        | 1 => (decode 2 0 (n % 16) rest).map (UInt8.ofNat (left * 4 + n / 16) :: ·)
        | 2 => (decode 3 0 (n % 4) rest).map (UInt8.ofNat (left * 16 + n / 4) :: ·)
        | _ => (decode 0 0 0 rest).map (UInt8.ofNat (left * 64 + n) :: ·)

/-- The bytes of a text, which must be ASCII. -/
def read (s : String) : Except Failure (List UInt8) :=
  if s.toList.all fun c => c.toNat < 128 then decode 0 0 0 s.toList else .error .malformedYaml

end InputPanel.Yaml.Base64
