import InputPanel.Text.Digit
import InputPanel.Xml.Name

/-!
# References

Between an ampersand and a semicolon stands the number of a character or the
name of an entity. Five entities are known to every document. The name of an
entity has no colon.
-/

namespace InputPanel.Xml

/-- A character as it is written, a character by its number, or an entity. -/
inductive Piece where
  | char (c : Char)
  | given (c : Char)
  | entity (name : String)
deriving DecidableEq, Repr

def commonEntity? : String → Option Char
  | "lt" => some '<'
  | "gt" => some '>'
  | "amp" => some '&'
  | "quot" => some '"'
  | "apos" => some '\''
  | _ => none

def isEntityName : List Char → Bool
  | [] => false
  | c :: rest => isNameStart c && rest.all isNameChar

/-- The character with a number, if a document may hold it. -/
def numbered? (n : Nat) : Option Char :=
  if n.isValidChar ∧ isAllowed (Char.ofNat n) then some (Char.ofNat n) else none

/-- What the text between an ampersand and a semicolon refers to. -/
def reference? : List Char → Option Piece
  | '#' :: 'x' :: digits => do
    if digits.isEmpty then none
    else return .given (← numbered? (← Text.hexNumber? digits))
  | '#' :: digits =>
    if !digits.isEmpty && digits.all Char.isDigit then
      (numbered? (digits.foldl (fun n c => n * 10 + (c.toNat - '0'.toNat)) 0)).map .given
    else none
  | name =>
    if isEntityName name then
      match commonEntity? (String.ofList name) with
      | some c => some (.given c)
      | none => some (.entity (String.ofList name))
    else none

/-- The pieces of a text; `open?` holds the reference read so far, latest character first. -/
def piecesFrom : Option (List Char) → List Char → Option (List Piece)
  | none, [] => some []
  | some _, [] => none
  | none, '&' :: rest => piecesFrom (some []) rest
  | none, c :: rest => (piecesFrom none rest).map (.char c :: ·)
  | some body, ';' :: rest => do
    let piece ← reference? body.reverse
    return piece :: (← piecesFrom none rest)
  | some body, c :: rest => piecesFrom (some (c :: body)) rest

def pieces? (s : List Char) : Option (List Piece) := piecesFrom none s

end InputPanel.Xml
