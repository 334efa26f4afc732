import InputPanel.Failure
import InputPanel.Text.Digit

/-!
# Reading a YAML text

A cursor is the rest of a text with its length and the place where it begins.
The line breaks are the line feed, the next line, and the line and paragraph
separators. All but the last two are read as line feeds.
-/

namespace InputPanel.Yaml

structure Cursor where
  rest : List Char
  left : Nat
  index : Nat
  line : Nat
  column : Nat

def isBreak (c : Char) : Bool :=
  c == '\n' || c == '\u0085' || c == '\u2028' || c == '\u2029'

/-- The end of the text or of a line. -/
def endsLine (c : Option Char) : Bool := c.all isBreak

/-- The end of the text or of a line, a blank or a tab. -/
def endsWord (c : Option Char) : Bool := c.all fun c => isBreak c || c == ' ' || c == '\t'

/-- Characters that a text may hold at all. -/
def isAllowed (c : Char) : Bool :=
  let n := c.toNat
  n == 9 || n == 10 || n == 13 || (0x20 ≤ n && n ≤ 0x7e) || n == 0x85 ||
    (0xa0 ≤ n && n ≤ 0xfffd) || 0x10000 ≤ n

def isNameChar (c : Char) : Bool := c.isAlphanum || c == '-' || c == '_'

def malformed {α : Type} : Except Failure α := .error .malformedYaml

namespace Cursor

def ofText (text : List Char) : Cursor := ⟨text, text.length, 0, 0, 0⟩

def peek (cursor : Cursor) : Option Char := cursor.rest.head?

def peekAt (cursor : Cursor) (n : Nat) : Option Char := cursor.rest[n]?

def isAt (cursor : Cursor) (c : Char) : Bool := cursor.peek == some c

/-- The cursor past the next character. -/
def next (cursor : Cursor) : Cursor :=
  match cursor.rest with
  | [] => cursor
  | c :: rest =>
    if isBreak c then ⟨rest, cursor.left - 1, cursor.index + 1, cursor.line + 1, 0⟩
    else ⟨rest, cursor.left - 1, cursor.index + 1, cursor.line,
      if c = '\ufeff' then cursor.column else cursor.column + 1⟩

def skip : Nat → Cursor → Cursor
  | 0, cursor => cursor
  | n + 1, cursor => skip n cursor.next

/-- The characters that come next and satisfy a test, and the cursor past them. -/
def span (cursor : Cursor) (p : Char → Bool) : List Char × Cursor :=
  let taken := cursor.rest.takeWhile p
  (taken, cursor.skip taken.length)

def skipWhile (cursor : Cursor) (p : Char → Bool) : Cursor := (cursor.span p).2

def skipSpaces (cursor : Cursor) : Cursor := cursor.skipWhile (· == ' ')

/-- A line break as it is read, if one comes next. -/
def lineBreak? (cursor : Cursor) : Option (Char × Cursor) :=
  match cursor.peek with
  | some c =>
    if isBreak c then some (if c = '\n' ∨ c = '\u0085' then '\n' else c, cursor.next) else none
  | none => none

def skipLineBreak (cursor : Cursor) : Cursor :=
  match cursor.lineBreak? with
  | some (_, after) => after
  | none => cursor

/-- Whether a line of three dashes or dots begins here, the mark of a document. -/
def atMark (cursor : Cursor) (c : Char) : Bool :=
  [c, c, c].isPrefixOf cursor.rest && endsWord (cursor.peekAt 3)

def atDocumentMark (cursor : Cursor) : Bool := cursor.atMark '-' || cursor.atMark '.'

/-- Past the blanks and the comment that may end a line, and the line break. -/
def finishLine (cursor : Cursor) : Except Failure Cursor :=
  let cursor := cursor.skipSpaces
  let cursor := if cursor.isAt '#' then cursor.skipWhile (fun c => !isBreak c) else cursor
  if endsLine cursor.peek then .ok cursor.skipLineBreak else malformed

end Cursor

end InputPanel.Yaml
