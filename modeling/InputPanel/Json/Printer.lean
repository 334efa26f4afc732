import InputPanel.Data
import InputPanel.Text.Digit

/-!
# Printing JSON

Lists and mappings are laid out over lines, two more blanks for each level. The
text is ASCII: other characters are escaped as the UTF-16 units that they take.
-/

namespace InputPanel.Json

def unitEscape (n : Nat) : List Char := '\\' :: 'u' :: Text.hexDigits 4 n

/-- A character as it stands in a string. -/
def escaped (c : Char) : List Char :=
  if c = '"' ∨ c = '\\' then ['\\', c]
  else if c = '\n' then ['\\', 'n']
  else if c = '\r' then ['\\', 'r']
  else if c = '\t' then ['\\', 't']
  else if c = '\x0c' then ['\\', 'f']
  else if c = '\x08' then ['\\', 'b']
  else if 0x20 ≤ c.toNat ∧ c.toNat < 0x7f then [c]
  else if c.toNat < 0x10000 then unitEscape c.toNat
  else
    let n := c.toNat - 0x10000
    unitEscape (0xd800 + n / 0x400) ++ unitEscape (0xdc00 + n % 0x400)

def quoted (s : String) : String := "\"" ++ String.ofList (s.toList.flatMap escaped) ++ "\""

def realText (x : Number.Binary64) : String :=
  match x with
  | .undefined => "NaN"
  | .infinite negative => if negative then "-Infinity" else "Infinity"
  | x => x.write

/-- The text of a key, which is that of a scalar. -/
def keyText : Data → String
  | .null => "null"
  | .bool b => if b then "true" else "false"
  | .real x => realText x
  | key => key.plainText

/-- A new line at a level. -/
def newLine (level : Nat) : String := "\n" ++ "".pushn ' ' (2 * level)

/-- The parts between brackets, each on a line of its own. -/
def enclosed (level : Nat) (opening closing : String) (parts : List String) : String :=
  if parts.isEmpty then opening ++ closing
  else
    opening ++ newLine (level + 1) ++ ("," ++ newLine (level + 1)).intercalate parts ++
      newLine level ++ closing

mutual

def writeAt (level : Nat) : Data → String
  | .null => "null"
  | .bool b => if b then "true" else "false"
  | .int n => toString n
  | .real x => realText x
  | .text s => quoted s
  | .list items => enclosed level "[" "]" (itemTexts (level + 1) items)
  | .map entries => enclosed level "\x7b" "\x7d" (entryTexts (level + 1) entries)
  | value => quoted value.plainText

def itemTexts (level : Nat) : List Data → List String
  | [] => []
  | item :: rest => writeAt level item :: itemTexts level rest

def entryTexts (level : Nat) : List (Data × Data) → List String
  | [] => []
  | (key, value) :: rest =>
    (quoted (keyText key) ++ ": " ++ writeAt level value) :: entryTexts level rest

end

def write (value : Data) : String := writeAt 0 value

end InputPanel.Json
