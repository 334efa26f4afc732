import InputPanel.Text.CharSet

/-!
# XML names

A name begins with a letter, an ideograph or an underscore, and goes on with
those and digits, marks, extenders, points and hyphens. A colon sets a part
before it apart as the prefix of the name.
-/

namespace InputPanel.Xml

/-- Characters past ASCII that may begin a name. -/
def nameStart : Text.CharSet := .ofDifferences
  ("192 23 1 31 1 58 2 11 2 8 1 53 1 68 9 36 3 2 4 30 56 89 18 7 196 1 1 3 1 1 1 20 1 44 1 " ++
    "7 3 1 1 1 1 1 1 1 1 18 13 12 1 66 1 12 1 36 14 53 2 2 2 2 3 28 2 8 2 2 55 38 2 1 7 38 " ++
    "73 27 5 3 46 26 6 10 38 71 2 5 1 15 1 4 1 1 15 2 542 53 3 1 26 10 35 8 2 2 2 22 1 7 1 " ++
    "1 3 4 34 2 1 3 14 2 19 6 4 2 2 22 1 7 1 2 1 2 1 2 31 4 1 1 19 3 16 7 1 1 1 3 1 22 1 7 " ++
    "1 2 1 5 3 1 34 1 36 8 2 2 2 22 1 7 1 2 2 4 3 1 30 2 1 3 35 6 3 3 1 4 3 2 1 1 1 2 3 2 3 " ++
    "3 3 8 1 3 75 8 1 3 1 23 1 10 1 5 38 2 35 8 1 3 1 23 1 10 1 5 36 1 1 2 35 8 1 3 1 23 1 " ++
    "16 38 2 159 46 1 1 1 2 12 6 59 2 1 1 2 2 1 1 2 1 6 4 1 7 1 3 1 1 1 1 2 2 1 2 1 1 1 2 9 " ++
    "1 2 5 123 8 1 33 310 38 10 39 9 1 1 2 1 3 1 1 1 2 1 5 41 1 1 1 1 1 11 1 1 1 1 1 3 2 3 " ++
    "1 5 3 1 1 1 1 1 1 1 1 3 2 3 2 1 1 40 1 9 1 2 1 2 2 7 2 1 1 1 7 40 1 4 1 8 1 3078 156 4 " ++
    "90 6 22 2 6 2 38 2 6 2 8 1 1 1 1 1 1 1 31 2 53 1 7 1 1 3 3 1 7 3 4 2 6 4 13 5 3 1 7 " ++
    "297 1 3 2 2 1 81 3 3716 1 25 9 23 84 12 90 10 40 7379 20902 3162 11172")

/-- Characters past ASCII that a name may go on with. -/
def namePart : Text.CharSet := .ofDifferences
  ("183 1 8 23 1 31 1 58 2 11 2 8 1 53 1 68 9 36 3 2 4 30 56 89 18 7 14 2 46 70 26 2 36 5 " ++
    "1 1 1 20 1 44 1 7 3 1 1 1 1 1 1 1 1 18 13 12 1 66 1 12 1 36 1 4 9 53 2 2 2 2 3 28 2 8 " ++
    "2 2 55 38 2 1 7 38 10 17 1 23 1 3 1 1 1 2 1 1 11 27 5 3 46 26 5 19 13 10 6 72 2 5 1 15 " ++
    "1 4 1 20 1 4 2 10 519 3 1 53 2 18 3 4 3 12 2 10 17 3 1 8 2 2 2 22 1 7 1 1 3 4 2 1 1 7 " ++
    "2 2 2 3 9 1 4 2 1 5 2 12 16 1 2 6 4 2 2 22 1 7 1 2 1 2 1 2 2 1 1 5 4 2 2 3 11 4 1 1 7 " ++
    "15 12 3 1 7 1 1 1 3 1 22 1 7 1 2 1 5 2 10 1 3 1 3 18 1 5 10 17 3 1 8 2 2 2 22 1 7 1 2 " ++
    "2 4 2 8 3 2 2 3 8 2 4 2 1 3 4 10 18 2 1 6 3 3 1 4 3 2 1 1 1 2 3 2 3 3 3 8 1 3 4 5 3 3 " ++
    "1 4 9 1 15 9 17 3 1 8 1 3 1 23 1 10 1 5 4 7 1 3 1 4 7 2 9 2 4 10 18 2 1 8 1 3 1 23 1 " ++
    "10 1 5 4 7 1 3 1 4 7 2 7 1 1 2 4 10 18 2 1 8 1 3 1 23 1 16 4 6 2 3 1 4 9 1 8 2 4 10 " ++
    "145 46 1 11 5 15 1 10 39 2 1 1 2 2 1 1 2 1 6 4 1 7 1 3 1 1 1 1 2 2 1 2 1 10 1 3 2 5 1 " ++
    "1 1 6 2 10 62 2 6 10 11 1 1 1 1 1 4 10 1 33 7 20 1 6 4 6 1 1 1 21 3 7 1 1 230 38 10 39 " ++
    "9 1 1 2 1 3 1 1 1 2 1 5 41 1 1 1 1 1 11 1 1 1 1 1 3 2 3 1 5 3 1 1 1 1 1 1 1 1 3 2 3 2 " ++
    "1 1 40 1 9 1 2 1 2 2 7 2 1 1 1 7 40 1 4 1 8 1 3078 156 4 90 6 22 2 6 2 38 2 6 2 8 1 1 " ++
    "1 1 1 1 1 31 2 53 1 7 1 1 3 3 1 7 3 4 2 6 4 13 5 3 1 7 211 13 4 1 68 1 3 2 2 1 81 3 " ++
    "3714 1 1 1 25 15 1 5 11 84 4 2 2 2 2 90 1 3 6 40 7379 20902 3162 11172")

def isNameStart (c : Char) : Bool :=
  if c.toNat < 128 then c.isAlpha || c == '_' else nameStart.contains c

def isNameChar (c : Char) : Bool :=
  if c.toNat < 128 then c.isAlphanum || c == '_' || c == '-' || c == '.' else namePart.contains c

/-- Characters that a document may hold. -/
def isAllowed (c : Char) : Bool :=
  c == '\t' || c == '\n' || c == '\r' || (0x20 ≤ c.toNat && c.toNat != 0xfffe && c.toNat != 0xffff)

def isSpace (c : Char) : Bool := c == ' ' || c == '\t' || c == '\n' || c == '\r'

/-- A name with the prefix that it may have. -/
structure Name where
  leading : Option String
  base : String
deriving DecidableEq, Repr

/-- The name as it is written. -/
def Name.text (name : Name) : String :=
  match name.leading with
  | some leading => leading ++ ":" ++ name.base
  | none => name.base

end InputPanel.Xml
