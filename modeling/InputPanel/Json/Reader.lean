import InputPanel.Data
import InputPanel.Failure
import InputPanel.Number.Integer

/-!
# Reading JSON

A text is one value with white space around it. Of equal keys the first gives
the place and the last the value. Not-a-number and the infinities are written
as words. An escape that is half of a surrogate pair without the other half is
read as the replacement character. Lists and mappings stand in one another as
deep as there is room for.
-/

namespace InputPanel.Json

def isSpace (c : Char) : Bool := c == ' ' || c == '\t' || c == '\n' || c == '\r'

def skip (s : List Char) : List Char := s.dropWhile isSpace

def malformed {α : Type} : Except Failure α := .error .malformedJson

/-- What a character after a backslash stands for. -/
def unescape? : Char → Option Char
  | '"' => some '"'
  | '\\' => some '\\'
  | '/' => some '/'
  | 'b' => some '\x08'
  | 'f' => some '\x0c'
  | 'n' => some '\n'
  | 'r' => some '\r'
  | 't' => some '\t'
  | _ => none

/-- The code units and code points up to the quote that ends a string, and the text after it. -/
def codes : List Char → Except Failure (List Nat × List Char)
  | [] => malformed
  | '"' :: rest => .ok ([], rest)
  | '\\' :: 'u' :: a :: b :: c :: d :: rest => do
    match Text.hexNumber? [a, b, c, d] with
    | some code =>
      let (more, after) ← codes rest
      return (code :: more, after)
    | none => malformed
  | '\\' :: c :: rest => do
    match unescape? c with
    | some c =>
      let (more, after) ← codes rest
      return (c.toNat :: more, after)
    | none => malformed
  | c :: rest => do
    if c.toNat < 0x20 ∨ c = '\\' then malformed
    else
      let (more, after) ← codes rest
      return (c.toNat :: more, after)

def isHighHalf (n : Nat) : Bool := 0xd800 ≤ n && n < 0xdc00

def isLowHalf (n : Nat) : Bool := 0xdc00 ≤ n && n < 0xe000

/-- The characters of codes, the halves of surrogate pairs put together. -/
def joined : List Nat → List Char
  | [] => []
  | high :: low :: rest =>
    if isHighHalf high && isLowHalf low then
      Char.ofNat (0x10000 + (high - 0xd800) * 0x400 + (low - 0xdc00)) :: joined rest
    else single high :: joined (low :: rest)
  | [code] => [single code]
where
  single (n : Nat) : Char := if isHighHalf n || isLowHalf n then '\ufffd' else Char.ofNat n

/-- A string whose opening quote has been read, and the text after it. -/
def string (s : List Char) : Except Failure (String × List Char) := do
  let (codes, rest) ← codes s
  return (String.ofList (joined codes), rest)

/-- The digits at the beginning of a text, and the text after them. -/
def digits (s : List Char) : List Char × List Char :=
  let taken := s.takeWhile Char.isDigit
  (taken, s.drop taken.length)

/-- The fraction of a number, if a digit follows the point. -/
def fraction (s : List Char) : List Char × List Char :=
  match s with
  | '.' :: rest =>
    let (taken, after) := digits rest
    if taken.isEmpty then ([], s) else ('.' :: taken, after)
  | _ => ([], s)

/-- The exponent of a number, if it has digits. -/
def exponent (s : List Char) : List Char × List Char :=
  match s with
  | c :: rest =>
    if c = 'e' ∨ c = 'E' then
      let sign := rest.take (if rest.head? = some '+' ∨ rest.head? = some '-' then 1 else 0)
      let (taken, after) := digits (rest.drop sign.length)
      if taken.isEmpty then ([], s) else ('e' :: sign ++ taken, after)
    else ([], s)
  | [] => ([], s)

/-- A number and the text after it. One without fraction and exponent is an integer. -/
def number (s : List Char) : Except Failure (Data × List Char) := do
  let sign := s.take (if s.head? = some '-' then 1 else 0)
  let unsigned := s.drop sign.length
  let whole := match unsigned with
    | '0' :: _ => ['0']
    | _ => (digits unsigned).1
  if whole.isEmpty then malformed
  else
    let (fraction, rest) := fraction (unsigned.drop whole.length)
    let (exponent, rest) := exponent rest
    if fraction.isEmpty && exponent.isEmpty then
      match Number.readInt (sign ++ whole) with
      | some n => return (.int n, rest)
      | none => throw .badValue
    else
      match Number.Binary64.read (sign ++ whole ++ fraction ++ exponent) with
      | some x => return (.real x, rest)
      | none => malformed

mutual

/-- A value and the text after it. -/
def value (fuel room : Nat) (s : List Char) : Except Failure (Data × List Char) :=
  match fuel with
  | 0 => malformed
  | fuel + 1 =>
    match s with
    | '"' :: rest => do
      let (text, rest) ← string rest
      return (.text text, rest)
    | '\x7b' :: rest =>
      if room = 0 then .error .tooDeep
      else
        match skip rest with
        | '\x7d' :: rest => .ok (.map [], rest)
        | rest => do
          let (entries, rest) ← entries fuel (room - 1) rest
          return (Data.mapOf entries, rest)
    | '[' :: rest =>
      if room = 0 then .error .tooDeep
      else
        match skip rest with
        | ']' :: rest => .ok (.list [], rest)
        | rest => do
          let (items, rest) ← items fuel (room - 1) rest
          return (.list items, rest)
    | 'n' :: 'u' :: 'l' :: 'l' :: rest => .ok (.null, rest)
    | 't' :: 'r' :: 'u' :: 'e' :: rest => .ok (.bool true, rest)
    | 'f' :: 'a' :: 'l' :: 's' :: 'e' :: rest => .ok (.bool false, rest)
    | 'N' :: 'a' :: 'N' :: rest => .ok (.real .undefined, rest)
    | 'I' :: 'n' :: 'f' :: 'i' :: 'n' :: 'i' :: 't' :: 'y' :: rest =>
      .ok (.real (.infinite false), rest)
    | '-' :: 'I' :: 'n' :: 'f' :: 'i' :: 'n' :: 'i' :: 't' :: 'y' :: rest =>
      .ok (.real (.infinite true), rest)
    | s => number s

/-- The items up to a closing bracket, and the text after it. -/
def items (fuel room : Nat) (s : List Char) : Except Failure (List Data × List Char) :=
  match fuel with
  | 0 => malformed
  | fuel + 1 => do
    let (item, rest) ← value fuel room s
    match skip rest with
    | ']' :: rest => return ([item], rest)
    | ',' :: rest =>
      let (others, rest) ← items fuel room (skip rest)
      return (item :: others, rest)
    | _ => malformed

/-- The entries up to a closing brace, and the text after it. -/
def entries (fuel room : Nat) (s : List Char) :
    Except Failure (List (Data × Data) × List Char) :=
  match fuel, s with
  | fuel + 1, '"' :: rest => do
    let (key, rest) ← string rest
    match skip rest with
    | ':' :: rest =>
      let (item, rest) ← value fuel room (skip rest)
      match skip rest with
      | '\x7d' :: rest => return ([(.text key, item)], rest)
      | ',' :: rest =>
        let (others, rest) ← entries fuel room (skip rest)
        return ((.text key, item) :: others, rest)
      | _ => malformed
    | _ => malformed
  | _, _ => malformed

end

/-- The value of a text. -/
def read (room : Nat) (text : String) : Except Failure Data := do
  let s := text.toList
  match ← value (s.length + 1) room (skip s) with
  | (data, rest) => if (skip rest).isEmpty then return data else malformed

end InputPanel.Json
