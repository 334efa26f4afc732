import InputPanel.Yaml.Written

/-!
# YAML tokens

The tokens of a text show its structure: block collections begin and end where
the indentation changes. What may turn out to be a key is remembered until a
colon follows; then a key mark is put before it. Such a key stands on one line
and is not too long. One that begins a line of a block has to be a key.
-/

namespace InputPanel.Yaml

/-- The parts of a tag: a handle, which may be missing, and what follows it. -/
structure TagText where
  handle : Option String
  suffix : String
deriving DecidableEq, Repr

inductive Token where
  | versionDirective (major : Nat)
  | tagDirective (handle leading : String)
  | otherDirective
  | documentStart
  | documentEnd
  | streamEnd
  | blockSequenceStart
  | blockMappingStart
  | blockEnd
  | flowSequenceStart
  | flowSequenceEnd
  | flowMappingStart
  | flowMappingEnd
  | blockEntry
  | flowEntry
  | key
  | value
  | alias (name : String)
  | anchor (name : String)
  | tag (text : TagText)
  | scalar (text : String) (plain : Bool)
deriving DecidableEq, Repr

/-- Something that may be a key: its place, and the number of tokens before it. -/
structure PossibleKey where
  tokensBefore : Nat
  required : Bool
  index : Nat
  line : Nat
  column : Nat

/-- The state of reading tokens. Tokens are latest first; insertions say what comes before which
token. -/
structure Lexer where
  cursor : Cursor
  tokens : List Token
  count : Nat
  insertions : List (Nat × List Token)
  flowLevel : Nat
  indent : Int
  indents : List Int
  keyAllowed : Bool
  keys : List (Nat × PossibleKey)

namespace Lexer

def ofText (text : List Char) : Lexer :=
  ⟨.ofText text, [], 0, [], 0, -1, [], true, []⟩

def push (lexer : Lexer) (token : Token) : Lexer :=
  { lexer with tokens := token :: lexer.tokens, count := lexer.count + 1 }

def inFlow (lexer : Lexer) : Bool := lexer.flowLevel != 0

/-- The longest key that needs no mark of its own. -/
def keyLimit : Nat := 1024

/-- Forgets possible keys that the cursor has left behind. -/
def dropStaleKeys (lexer : Lexer) : Except Failure Lexer :=
  let isStale := fun (entry : Nat × PossibleKey) =>
    entry.2.line != lexer.cursor.line || keyLimit < lexer.cursor.index - entry.2.index
  if lexer.keys.any fun entry => isStale entry && entry.2.required then malformed
  else .ok { lexer with keys := lexer.keys.filter fun entry => !isStale entry }

/-- Forgets the possible key of this level; one that has to be a key must not be forgotten. -/
def dropKey (lexer : Lexer) : Except Failure Lexer :=
  if (lexer.keys.lookup lexer.flowLevel).any PossibleKey.required then malformed
  else .ok { lexer with keys := lexer.keys.filter fun entry => entry.1 != lexer.flowLevel }

/-- Remembers that a key may begin here. -/
def saveKey (lexer : Lexer) : Except Failure Lexer := do
  if lexer.keyAllowed then
    let lexer ← lexer.dropKey
    let key : PossibleKey :=
      ⟨lexer.count, !lexer.inFlow && lexer.indent == lexer.cursor.column, lexer.cursor.index,
        lexer.cursor.line, lexer.cursor.column⟩
    return { lexer with keys := (lexer.flowLevel, key) :: lexer.keys }
  else return lexer

/-- Ends the block collections that are indented further than a column. -/
def unwindFrom (column : Int) : List Int → Lexer → Lexer
  | [], lexer => lexer
  | outer :: indents, lexer =>
    if column < lexer.indent then
      unwindFrom column indents { lexer.push .blockEnd with indent := outer, indents }
    else lexer

def unwind (lexer : Lexer) (column : Int) : Lexer :=
  if lexer.inFlow then lexer else unwindFrom column lexer.indents lexer

/-- Indents up to a column, if that is further than now. -/
def indentTo (lexer : Lexer) (column : Nat) : Lexer × Bool :=
  if lexer.indent < column then
    ({ lexer with indent := column, indents := lexer.indent :: lexer.indents }, true)
  else (lexer, false)

def pushIf (lexer : Lexer × Bool) (token : Token) : Lexer :=
  if lexer.2 then lexer.1.push token else lexer.1

/-- Past blanks, comments and breaks; in a block a key may follow a break. -/
def toNextToken : Nat → Lexer → Lexer
  | 0, lexer => lexer
  | fuel + 1, lexer =>
    let cursor := lexer.cursor.skipSpaces
    let cursor := if cursor.isAt '#' then cursor.skipWhile (fun c => !isBreak c) else cursor
    match cursor.lineBreak? with
    | some (_, cursor) =>
      toNextToken fuel { lexer with cursor, keyAllowed := lexer.keyAllowed || !lexer.inFlow }
    | none => { lexer with cursor }

def name (cursor : Cursor) : Except Failure (String × Cursor) :=
  let (name, cursor) := cursor.span isNameChar
  if name.isEmpty then malformed else .ok (String.ofList name, cursor)

/-- The name of an anchor or alias, its mark passed. -/
def anchorName (cursor : Cursor) : Except Failure (String × Cursor) := do
  let (name, cursor) ← name cursor
  let ends := endsWord cursor.peek ||
    cursor.peek.any fun c => ['?', ':', ',', ']', '\x7d', '%', '@', '`'].contains c
  if ends then return (name, cursor) else malformed

def isTagChar (c : Char) : Bool :=
  c.isAlphanum || "-;/?:@&=+$,_.!~*'()[]".toList.contains c

/-- Bytes written as percent signs with two digits each. -/
def percentBytes : List Char → Except Failure (List UInt8 × List Char)
  | '%' :: a :: b :: rest =>
    match Text.hexNumber? [a, b] with
    | some n => (percentBytes rest).map fun (more, rest) => (UInt8.ofNat n :: more, rest)
    | none => malformed
  | '%' :: _ => malformed
  | rest => .ok ([], rest)

/-- The characters of a tag, from a list that ends where the tag does. -/
def tagChars : Nat → List Char → Except Failure (List Char)
  | 0, _ => .ok []
  | fuel + 1, s =>
    match s with
    | [] => .ok []
    | '%' :: _ => do
      let (bytes, rest) ← percentBytes s
      match String.fromUTF8? ⟨bytes.toArray⟩ with
      | some text => return text.toList ++ (← tagChars fuel rest)
      | none => malformed
    | c :: rest => (tagChars fuel rest).map (c :: ·)

def tagSuffix (cursor : Cursor) : Except Failure (String × Cursor) := do
  let (written, cursor) := cursor.span fun c => isTagChar c || c == '%'
  if written.isEmpty then malformed
  else return (String.ofList (← tagChars (written.length + 1) written), cursor)

/-- A handle: an exclamation mark, or a name between two. -/
def tagHandle (cursor : Cursor) : Except Failure (String × Cursor) :=
  if cursor.isAt '!' then
    let (name, after) := cursor.next.span isNameChar
    if name.isEmpty && after.isAt ' ' then .ok ("!", after)
    else if after.isAt '!' then .ok (String.ofList ('!' :: name ++ ['!']), after.next)
    else malformed
  else malformed

def tag (cursor : Cursor) : Except Failure (TagText × Cursor) := do
  let second := cursor.peekAt 1
  let (text, cursor) ←
    if second = some '<' then do
      let (suffix, cursor) ← tagSuffix (cursor.skip 2)
      if cursor.isAt '>' then pure (⟨none, suffix⟩, cursor.next) else malformed
    else if endsWord second then pure (⟨none, "!"⟩, cursor.next)
    else do
      let word := cursor.next.rest.takeWhile fun c => !isBreak c && c != ' '
      let (handle, cursor) ←
        if word.contains '!' then tagHandle cursor else pure ("!", cursor.next)
      let (suffix, cursor) ← tagSuffix cursor
      pure (⟨some handle, suffix⟩, cursor)
  if endsLine cursor.peek || cursor.isAt ' ' then return (text, cursor) else malformed

def decimal (cursor : Cursor) : Except Failure (Nat × Cursor) :=
  let (digits, cursor) := cursor.span Char.isDigit
  if digits.isEmpty then malformed
  else .ok (digits.foldl (fun n c => n * 10 + (c.toNat - '0'.toNat)) 0, cursor)

def endsDirective (cursor : Cursor) : Bool := endsLine cursor.peek || cursor.isAt ' '

/-- A directive, its percent sign passed. -/
def directive (cursor : Cursor) : Except Failure (Token × Cursor) := do
  let (name, cursor) ← name cursor
  if !endsDirective cursor then malformed
  else if name = "YAML" then
    let (major, cursor) ← decimal cursor.skipSpaces
    if !cursor.isAt '.' then malformed
    let (_, cursor) ← decimal cursor.next
    if !endsDirective cursor then malformed
    return (.versionDirective major, ← cursor.finishLine)
  else if name = "TAG" then
    let (handle, cursor) ← tagHandle cursor.skipSpaces
    if !cursor.isAt ' ' then malformed
    let (leading, cursor) ← tagSuffix cursor.skipSpaces
    if !endsDirective cursor then malformed
    return (.tagDirective handle leading, ← cursor.finishLine)
  else
    return (.otherDirective, ← (cursor.skipWhile fun c => !isBreak c).finishLine)

/-- What leaves all blocks: a directive or the mark of a document. -/
def leaveBlocks (lexer : Lexer) : Except Failure Lexer := do
  let lexer ← (lexer.unwind (-1)).dropKey
  return { lexer with keyAllowed := false }

def takeDirective (lexer : Lexer) : Except Failure Lexer := do
  let lexer ← lexer.leaveBlocks
  let (token, cursor) ← directive lexer.cursor.next
  return { lexer.push token with cursor }

def takeMark (lexer : Lexer) (token : Token) : Except Failure Lexer := do
  let lexer ← lexer.leaveBlocks
  return { lexer.push token with cursor := lexer.cursor.skip 3 }

def openFlow (lexer : Lexer) (token : Token) : Except Failure Lexer := do
  let lexer ← lexer.saveKey
  return { lexer.push token with
    cursor := lexer.cursor.next, flowLevel := lexer.flowLevel + 1, keyAllowed := true }

def closeFlow (lexer : Lexer) (token : Token) : Except Failure Lexer := do
  if !lexer.inFlow then malformed
  let lexer ← lexer.dropKey
  return { lexer.push token with
    cursor := lexer.cursor.next, flowLevel := lexer.flowLevel - 1, keyAllowed := false }

def takeFlowEntry (lexer : Lexer) : Except Failure Lexer := do
  let lexer ← lexer.dropKey
  return { lexer.push .flowEntry with cursor := lexer.cursor.next, keyAllowed := true }

/-- Begins a block collection here unless one has begun; in a flow nothing begins. -/
def beginBlock (lexer : Lexer) (token : Token) : Except Failure Lexer :=
  if lexer.inFlow then .ok lexer
  else if !lexer.keyAllowed then malformed
  else .ok (pushIf (lexer.indentTo lexer.cursor.column) token)

def takeBlockEntry (lexer : Lexer) : Except Failure Lexer := do
  let lexer ← (← lexer.beginBlock .blockSequenceStart).dropKey
  return { lexer.push .blockEntry with cursor := lexer.cursor.next, keyAllowed := true }

def takeKey (lexer : Lexer) : Except Failure Lexer := do
  let lexer ← (← lexer.beginBlock .blockMappingStart).dropKey
  return { lexer.push .key with cursor := lexer.cursor.next, keyAllowed := !lexer.inFlow }

/-- A colon: what was possibly a key is one, and a block mapping may have begun with it. -/
def takeValue (lexer : Lexer) : Except Failure Lexer := do
  match lexer.keys.lookup lexer.flowLevel with
  | some key =>
    let (lexer, began) :=
      if lexer.inFlow then (lexer, false) else lexer.indentTo key.column
    let inserted := if began then [.blockMappingStart, .key] else [.key]
    return { lexer.push .value with
      cursor := lexer.cursor.next
      keyAllowed := false
      insertions := (key.tokensBefore, inserted) :: lexer.insertions
      keys := lexer.keys.filter fun entry => entry.1 != lexer.flowLevel }
  | none =>
    let lexer ← (← lexer.beginBlock .blockMappingStart).dropKey
    return { lexer.push .value with cursor := lexer.cursor.next, keyAllowed := !lexer.inFlow }

/-- A token that may begin a key, read from the cursor. -/
def takeNode (lexer : Lexer) (read : Cursor → Except Failure (Token × Cursor)) :
    Except Failure Lexer := do
  let lexer ← lexer.saveKey
  let (token, cursor) ← read lexer.cursor
  return { lexer.push token with cursor, keyAllowed := false }

def takeBlockScalar (lexer : Lexer) (fold : Bool) : Except Failure Lexer := do
  let lexer ← lexer.dropKey
  let (text, cursor) ← blockScalar fold lexer.indent lexer.cursor.next
  return { lexer.push (.scalar text false) with cursor, keyAllowed := true }

def takePlain (lexer : Lexer) : Except Failure Lexer := do
  let lexer ← lexer.saveKey
  let (text, cursor, crossedLine) := plainScalar lexer.inFlow lexer.indent lexer.cursor
  return { lexer.push (.scalar text true) with cursor, keyAllowed := crossedLine }

def startsPlain (lexer : Lexer) (c : Char) : Bool :=
  let isIndicator := "-?:,[]\x7b\x7d#&*!|>'\"%@`".toList.contains c
  (!endsWord (some c) && !isIndicator) ||
    (!endsWord (lexer.cursor.peekAt 1) &&
      (c == '-' || (!lexer.inFlow && (c == '?' || c == ':'))))

/-- Reads the token that begins with a character. -/
def takeToken (lexer : Lexer) (c : Char) : Except Failure Lexer :=
  let cursor := lexer.cursor
  let endsHere := endsWord (cursor.peekAt 1)
  if c == '%' && cursor.column == 0 then lexer.takeDirective
  else if cursor.column == 0 && cursor.atMark '-' then lexer.takeMark .documentStart
  else if cursor.column == 0 && cursor.atMark '.' then lexer.takeMark .documentEnd
  else if c == '[' then lexer.openFlow .flowSequenceStart
  else if c == '\x7b' then lexer.openFlow .flowMappingStart
  else if c == ']' then lexer.closeFlow .flowSequenceEnd
  else if c == '\x7d' then lexer.closeFlow .flowMappingEnd
  else if c == ',' then lexer.takeFlowEntry
  else if c == '-' && endsHere then lexer.takeBlockEntry
  else if c == '?' && (lexer.inFlow || endsHere) then lexer.takeKey
  else if c == ':' && (lexer.inFlow || endsHere) then lexer.takeValue
  else if c == '*' then
    lexer.takeNode fun cursor => (anchorName cursor.next).map fun (name, cursor) =>
      (.alias name, cursor)
  else if c == '&' then
    lexer.takeNode fun cursor => (anchorName cursor.next).map fun (name, cursor) =>
      (.anchor name, cursor)
  else if c == '!' then
    lexer.takeNode fun cursor => (tag cursor).map fun (text, cursor) => (.tag text, cursor)
  else if c == '|' && !lexer.inFlow then lexer.takeBlockScalar false
  else if c == '>' && !lexer.inFlow then lexer.takeBlockScalar true
  else if c == '\'' || c == '"' then
    lexer.takeNode fun cursor => (quotedScalar (c == '"') cursor.next).map fun (text, cursor) =>
      (.scalar text false, cursor)
  else if lexer.startsPlain c then lexer.takePlain
  else malformed

/-- The tokens of the rest of a text. -/
def takeAll : Nat → Lexer → Except Failure Lexer
  | 0, _ => malformed
  | fuel + 1, lexer => do
    let lexer ← lexer.dropStaleKeys
    let lexer ← (toNextToken (lexer.cursor.left + 1) lexer).dropStaleKeys
    let lexer := lexer.unwind lexer.cursor.column
    match lexer.cursor.peek with
    | some c => takeAll fuel (← lexer.takeToken c)
    | none =>
      let lexer ← (lexer.unwind (-1)).dropKey
      return lexer.push .streamEnd

/-- Tokens, counted from the first, with the insertions put before those they belong to; these are
in the order of their places. -/
def withInsertions : List (Nat × List Token) → Nat → List Token → List Token
  | _, _, [] => []
  | [], _, tokens => tokens
  | (place, inserted) :: later, n, token :: rest =>
    if place = n then inserted ++ token :: withInsertions later (n + 1) rest
    else token :: withInsertions ((place, inserted) :: later) (n + 1) rest

end Lexer

/-- The tokens of a text. -/
def tokens (text : List Char) : Except Failure (List Token) := do
  let text := if text.head? = some '\ufeff' then text.tail else text
  if !text.all isAllowed then malformed
  let lexer ← Lexer.takeAll (2 * text.length + 2) (.ofText text)
  let insertions := lexer.insertions.reverse.mergeSort fun a b => a.1 ≤ b.1
  return Lexer.withInsertions insertions 0 lexer.tokens.reverse

end InputPanel.Yaml
