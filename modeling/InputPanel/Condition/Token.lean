import InputPanel.Condition.Literal
import InputPanel.Text.Identifier
import InputPanel.Text.Composition

/-!
# Tokens of condition expressions

A condition is one logical line: line ends count for nothing inside brackets,
after a backslash, and on lines that are blank or hold a comment. The first
line must not be indented. Names are taken in their composed form.
-/

namespace InputPanel.Condition

inductive Token where
  | name (id : String)
  | keyword (word : String)
  | number (value : Constant)
  | text (value : String)
  | bytes (value : List UInt8)
  | formatted (raw : Bool) (body : List Char)
  | op (symbol : String)
  | lineEnd

def keywords : List String :=
  ["False", "None", "True", "and", "as", "assert", "async", "await", "break", "class", "continue",
    "def", "del", "elif", "else", "except", "finally", "for", "from", "global", "if", "import",
    "in", "is", "lambda", "nonlocal", "not", "or", "pass", "raise", "return", "try", "while",
    "with", "yield"]

/-- Symbols, longer ones before those they begin with. -/
def symbols : List String :=
  ["**=", "//=", ">>=", "<<=", "...", "!=", "%=", "&=", "**", "*=", "+=", "-=", "->", "//", "/=",
    ":=", "<<", "<=", "<>", "==", ">=", ">>", "@=", "^=", "|=", "+", "-", "*", "/", "%", "@", "<",
    ">", "&", "|", "^", "~", "(", ")", "[", "]", "\x7b", "\x7d", ",", ":", ".", "=", ";"]

/-- How deep brackets may nest. -/
def depthLimit : Nat := 200

def nameToken? (word : List Char) : Option Token :=
  if word.all (fun c => c.toNat < 128) then
    let id := String.ofList word
    some (if keywords.contains id then .keyword id else .name id)
  else if Text.isIdentifier word then some (.name (String.ofList (Text.composedForm word)))
  else none

def quotedToken? (marks : QuoteMarks) (body : List Char) : Option Token :=
  if marks.formatted then some (.formatted marks.raw body)
  else if marks.bytes then
    if body.any (fun c => 128 ≤ c.toNat) then none
    else
      (if marks.raw then some body else unescape false (body.length + 1) body).map fun chars =>
        .bytes (chars.map fun c => c.toNat.toUInt8)
  else
    (if marks.raw then some body else unescape true (body.length + 1) body).map fun chars =>
      .text (String.ofList chars)

def opener? : Char → Option Char
  | '(' => some ')'
  | '[' => some ']'
  | '\x7b' => some '\x7d'
  | _ => none

def isCloser (c : Char) : Bool := c == ')' || c == ']' || c == '\x7d'

/-- The closing brackets still awaited after a symbol. -/
def bracketsAfter? (awaited : List Char) (symbol : String) : Option (List Char) :=
  match symbol.toList with
  | [c] =>
    match opener? c with
    | some closer => if depthLimit ≤ awaited.length then none else some (closer :: awaited)
    | none =>
      if isCloser c then
        match awaited with
        | expected :: rest => if c = expected then some rest else none
        | [] => none
      else some awaited
  | _ => some awaited

def symbolAt? (s : List Char) : Option (String × List Char) :=
  (symbols.find? fun symbol => symbol.toList.isPrefixOf s).map fun symbol =>
    (symbol, s.drop symbol.length)

/-- The margin of a line: how far it is indented, and the rest of it. A form feed starts the count
again; a backslash at the line's end keeps the first count that is not zero. -/
def margin : Nat → Nat → List Char → Option (Nat × List Char)
  | column, held, ' ' :: rest => margin (column + 1) held rest
  | column, held, '\t' :: rest => margin ((column / 8 + 1) * 8) held rest
  | _, held, '\x0c' :: rest => margin 0 held rest
  | column, held, '\\' :: '\n' :: rest =>
    if rest.isEmpty then none else margin 0 (if held = 0 then column else held) rest
  | _, _, '\\' :: _ => none
  | column, held, s => some (if held = 0 then column else held, s)

/-- The tokens of a text. `awaited` holds the closing brackets open so far, `fresh` tells that a
line begins here. -/
def scan : Nat → List Char → Bool → List Char → Option (List Token)
  | 0, _, _, _ => none
  | fuel + 1, awaited, true, s =>
    match margin 0 0 s with
    | none => none
    | some (column, []) => if awaited.isEmpty && column == 0 then some [] else none
    | some (_, '\n' :: rest) => scan fuel awaited true rest
    | some (_, '#' :: rest) => scan fuel awaited true (rest.dropWhile (· ≠ '\n'))
    | some (column, c :: rest) => if column = 0 then scan fuel awaited false (c :: rest) else none
  | fuel + 1, awaited, false, s =>
    match s with
    | [] => if awaited.isEmpty then some [.lineEnd] else none
    | '\n' :: rest =>
      if awaited.isEmpty then (scan fuel awaited true rest).map (.lineEnd :: ·)
      else scan fuel awaited false rest
    | '\\' :: '\n' :: rest => if rest.isEmpty then none else scan fuel awaited false rest
    | '#' :: rest => scan fuel awaited false (rest.dropWhile (· ≠ '\n'))
    | c :: rest =>
      if c = ' ' ∨ c = '\t' ∨ c = '\x0c' then scan fuel awaited false rest
      else if c.isDigit || (c == '.' && (rest.head?.map Char.isDigit).getD false) then do
        let (value, after) ← scanNumber s
        (scan fuel awaited false after).map (.number value :: ·)
      else if c = '"' ∨ c = '\'' then do
        let (body, after) ← scanQuoted s
        let token ← quotedToken? {} body
        (scan fuel awaited false after).map (token :: ·)
      else if c.isAlpha || c == '_' || 128 ≤ c.toNat then
        let word := s.takeWhile isWordChar
        let after := s.drop word.length
        let letters := if after.head? = some '"' ∨ after.head? = some '\'' then
          QuoteMarks.ofLetters? word else none
        match letters with
        | some marks => do
          let (body, after) ← scanQuoted after
          let token ← quotedToken? marks body
          (scan fuel awaited false after).map (token :: ·)
        | none => do
          let token ← nameToken? word
          (scan fuel awaited false after).map (token :: ·)
      else do
        let (symbol, after) ← symbolAt? s
        let awaited ← bracketsAfter? awaited symbol
        (scan fuel awaited false after).map (.op symbol :: ·)

/-- The tokens of an expression, its line ends made uniform. -/
def tokens? (s : List Char) : Option (List Token) :=
  let s := Text.unifyLineEnds s
  scan (2 * s.length + 2) [] true s

end InputPanel.Condition
