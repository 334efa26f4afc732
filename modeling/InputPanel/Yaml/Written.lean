import InputPanel.Yaml.Cursor

/-!
# Scalars as they are written

A scalar is written plain, in quotes, or as a block of lines. Lines are folded:
a single break becomes a blank, further breaks are kept. Only double quotes know
escapes.
-/

namespace InputPanel.Yaml

/-- The text between lines: a blank for a single line feed, else the breaks past it. -/
def folded (first : Char) (more : List Char) : List Char :=
  if first ≠ '\n' then first :: more
  else if more.isEmpty then [' '] else more

namespace Quoted

/-- Breaks between the lines of a quoted scalar, blanks around them left out. -/
def breaks : Nat → Cursor → Except Failure (List Char × Cursor)
  | 0, _ => malformed
  | fuel + 1, cursor =>
    if cursor.atDocumentMark then malformed
    else
      let cursor := cursor.skipWhile fun c => c == ' ' || c == '\t'
      match cursor.lineBreak? with
      | none => .ok ([], cursor)
      | some (c, cursor) => do
        let (more, cursor) ← breaks fuel cursor
        return (c :: more, cursor)

def simpleEscape? : Char → Option Char
  | '0' => some '\x00'
  | 'a' => some '\x07'
  | 'b' => some '\x08'
  | 't' => some '\t'
  | '\t' => some '\t'
  | 'n' => some '\n'
  | 'v' => some '\x0b'
  | 'f' => some '\x0c'
  | 'r' => some '\r'
  | 'e' => some '\x1b'
  | ' ' => some ' '
  | '"' => some '"'
  | '\\' => some '\\'
  | '/' => some '/'
  | 'N' => some '\u0085'
  | '_' => some '\u00a0'
  | 'L' => some '\u2028'
  | 'P' => some '\u2029'
  | _ => none

/-- The number of digits of a numeric escape. -/
def escapeWidth? : Char → Option Nat
  | 'x' => some 2
  | 'u' => some 4
  | 'U' => some 8
  | _ => none

def charOf (code : Nat) : Except Failure Char :=
  if code < 0x110000 then .ok (Char.ofNat code)
  else if code < 0x80000000 then .error .badValue
  else .error .outOfRange

/-- What an escape stands for, and the cursor past it; the backslash is passed already. -/
def escape (fuel : Nat) (cursor : Cursor) : Except Failure (List Char × Cursor) :=
  match cursor.peek with
  | none => malformed
  | some c =>
    match simpleEscape? c, escapeWidth? c with
    | some d, _ => .ok ([d], cursor.next)
    | none, some width =>
      let digits := cursor.next.rest.take width
      match Text.hexNumber? digits with
      | some code =>
        if digits.length = width then do
          return ([← charOf code], cursor.next.skip width)
        else malformed
      | none => malformed
    | none, none =>
      match cursor.lineBreak? with
      | some (_, cursor) => breaks fuel cursor
      | none => malformed

/-- The text up to the closing quote. -/
def content (double : Bool) : Nat → Cursor → Except Failure (List Char × Cursor)
  | 0, _ => malformed
  | fuel + 1, cursor => do
    let (first, cursor) ← piece fuel cursor
    match first with
    | none => return ([], cursor)
    | some first =>
      let (more, cursor) ← content double fuel cursor
      return (first ++ more, cursor)
where
  /-- The next stretch of text; nothing at the closing quote, which is passed. -/
  piece (fuel : Nat) (cursor : Cursor) : Except Failure (Option (List Char) × Cursor) :=
    match cursor.peek with
    | none => malformed
    | some c =>
      if double && c == '\\' then do
        let (text, cursor) ← escape fuel cursor.next
        return (some text, cursor)
      else if !double && c == '\'' && cursor.peekAt 1 == some '\'' then
        .ok (some ['\''], cursor.skip 2)
      else if c == (if double then '"' else '\'') then .ok (none, cursor.next)
      else if c == ' ' || c == '\t' || isBreak c then
        let (blanks, after) := cursor.span fun c => c == ' ' || c == '\t'
        match after.peek, after.lineBreak? with
        | none, _ => malformed
        | some _, some (first, cursor) => do
          let (more, cursor) ← breaks fuel cursor
          return (some (folded first more), cursor)
        | some _, none => .ok (some blanks, after)
      else .ok (some [c], cursor.next)

end Quoted

/-- A quoted scalar, its opening quote passed. -/
def quotedScalar (double : Bool) (cursor : Cursor) : Except Failure (String × Cursor) := do
  let (text, cursor) ← Quoted.content double (2 * cursor.left + 2) cursor
  return (String.ofList text, cursor)

namespace Block

inductive Chomping where
  | strip
  | clip
  | keep
deriving DecidableEq, Repr

def chomping? (c : Option Char) : Option Chomping :=
  match c with
  | some '+' => some .keep
  | some '-' => some .strip
  | _ => none

/-- An indentation indicator; zero is none. -/
def indicator? (c : Option Char) : Except Failure (Option Nat) :=
  match c with
  | some c =>
    if c = '0' then malformed
    else .ok (if c.isDigit then some (c.toNat - '0'.toNat) else none)
  | none => .ok none

/-- Chomping and indentation, in either order. -/
def header (cursor : Cursor) : Except Failure (Chomping × Option Nat × Cursor) := do
  let (chomping, increment, cursor) ← match chomping? cursor.peek with
    | some chomping => do
      let cursor := cursor.next
      match ← indicator? cursor.peek with
      | some n => pure (chomping, some n, cursor.next)
      | none => pure (chomping, none, cursor)
    | none => do
      match ← indicator? cursor.peek with
      | some n =>
        let cursor := cursor.next
        match chomping? cursor.peek with
        | some chomping => pure (chomping, some n, cursor.next)
        | none => pure (.clip, some n, cursor)
      | none => pure (.clip, none, cursor)
  if endsLine cursor.peek || cursor.isAt ' ' then return (chomping, increment, ← cursor.finishLine)
  else malformed

/-- The breaks before the first line, and the widest indentation among them. -/
def indentation : Nat → Nat → Cursor → List Char × Nat × Cursor
  | 0, widest, cursor => ([], widest, cursor)
  | fuel + 1, widest, cursor =>
    if cursor.isAt ' ' then indentation fuel (max widest cursor.next.column) cursor.next
    else
      match cursor.lineBreak? with
      | some (c, cursor) =>
        let (more, widest, cursor) := indentation fuel widest cursor
        (c :: more, widest, cursor)
      | none => ([], widest, cursor)

/-- Blanks up to an indentation. -/
def indent (column : Nat) (cursor : Cursor) : Cursor :=
  cursor.skip ((cursor.rest.take (column - cursor.column)).takeWhile (· == ' ')).length

def breaks (column : Nat) : Nat → Cursor → List Char × Cursor
  | 0, cursor => ([], cursor)
  | fuel + 1, cursor =>
    let cursor := indent column cursor
    match cursor.lineBreak? with
    | some (c, cursor) =>
      let (more, cursor) := breaks column fuel cursor
      (c :: more, cursor)
    | none => ([], cursor)

def startsBlank (cursor : Cursor) : Bool := cursor.isAt ' ' || cursor.isAt '\t'

/-- The breaks that end a block, by its chomping. -/
def ending (chomping : Chomping) (last : List Char) (more : List Char) : List Char :=
  match chomping with
  | .strip => []
  | .clip => last
  | .keep => last ++ more

/-- The lines of a block from one on, with the breaks that stood before it. -/
def body (fold : Bool) (chomping : Chomping) (column : Nat) :
    Nat → List Char → List Char → Cursor → List Char × Cursor
  | 0, last, before, cursor => (ending chomping last before, cursor)
  | fuel + 1, last, before, cursor =>
    if cursor.column = column && cursor.peek.isSome then
      let (line, after) := cursor.span fun c => !isBreak c
      let (last, after) := match after.lineBreak? with
        | some (c, after) => ([c], after)
        | none => ([], after)
      let (between, next) := breaks column (after.left + 1) after
      if next.column = column && next.peek.isSome then
        let joined :=
          if fold && last == ['\n'] && !startsBlank cursor && !startsBlank next then
            if between.isEmpty then [' '] else []
          else last
        let (more, finish) := body fold chomping column fuel last between next
        (before ++ line ++ joined ++ more, finish)
      else (before ++ line ++ ending chomping last between, next)
    else (ending chomping last before, cursor)

end Block

/-- A block scalar, its first character passed, under the indentation around it. -/
def blockScalar (fold : Bool) (around : Int) (cursor : Cursor) :
    Except Failure (String × Cursor) := do
  let (chomping, increment, cursor) ← Block.header cursor
  let least := (max (around + 1) 1).toNat
  let fuel := cursor.left + 1
  let (before, column, cursor) := match increment with
    | some n =>
      let column := least + n - 1
      let (before, cursor) := Block.breaks column fuel cursor
      (before, column, cursor)
    | none =>
      let (before, widest, cursor) := Block.indentation fuel 0 cursor
      (before, max least widest, cursor)
  let (text, cursor) := Block.body fold chomping column fuel [] before cursor
  return (String.ofList text, cursor)

namespace Plain

/-- Whether a plain scalar ends before the characters. -/
def stops (inFlow : Bool) : List Char → Bool
  | [] => true
  | c :: rest =>
    endsWord (some c) ||
      (c == ':' && (endsWord rest.head? ||
        (inFlow && rest.head?.any fun d => [',', '[', ']', '\x7b', '\x7d'].contains d))) ||
      (inFlow && [',', '?', '[', ']', '\x7b', '\x7d'].contains c)

def word (inFlow : Bool) : List Char → List Char
  | [] => []
  | c :: rest => if stops inFlow (c :: rest) then [] else c :: word inFlow rest

/-- Breaks between the lines of a plain scalar; none at all if a document ends there. -/
def breaks : Nat → Cursor → Option (List Char × Cursor)
  | 0, _ => none
  | fuel + 1, cursor =>
    let cursor := cursor.skipSpaces
    match cursor.lineBreak? with
    | none => some ([], cursor)
    | some (c, cursor) =>
      if cursor.atDocumentMark then none
      else (breaks fuel cursor).map fun (more, cursor) => (c :: more, cursor)

/-- The text of a plain scalar, the cursor past it, and whether it ended after a line break. -/
structure Result where
  text : List Char
  cursor : Cursor
  crossedLine : Bool

/-- The white space after a word: as it counts inside the scalar, or none if the scalar ends. -/
def gap (cursor : Cursor) : List Char × Cursor × Bool :=
  let (blanks, after) := cursor.span (· == ' ')
  match after.lineBreak? with
  | none => (blanks, after, false)
  | some (first, after) =>
    if after.atDocumentMark then ([], after, true)
    else
      match breaks (after.left + 1) after with
      | some (more, after) => (folded first more, after, true)
      | none => ([], after.skipSpaces, true)

/-- Words and the white space between them, from a first word on. -/
def words (inFlow : Bool) (column : Nat) : Nat → List Char → Bool → Cursor → Result
  | 0, _, crossed, cursor => ⟨[], cursor, crossed⟩
  | fuel + 1, before, crossed, cursor =>
    let first := if cursor.isAt '#' then [] else word inFlow cursor.rest
    if first.isEmpty then ⟨[], cursor, crossed⟩
    else
      let (blanks, after, crossed) := gap (cursor.skip first.length)
      let text := before ++ first
      if blanks.isEmpty || after.isAt '#' || (!inFlow && after.column < column) then
        ⟨text, after, crossed⟩
      else
        let more := words inFlow column fuel blanks crossed after
        { more with text := text ++ more.text }

end Plain

/-- A plain scalar under the indentation around it, and whether a key may follow at once. -/
def plainScalar (inFlow : Bool) (around : Int) (cursor : Cursor) : String × Cursor × Bool :=
  let result :=
    Plain.words inFlow (around + 1).toNat (cursor.left + 1) [] false cursor
  (String.ofList result.text, result.cursor, result.crossedLine)

end InputPanel.Yaml
