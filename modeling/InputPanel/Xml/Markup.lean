import InputPanel.Text.Blank
import InputPanel.Xml.Reference

/-!
# Markup

The content of a document is read into items: text, references to entities, and
elements with their attributes. A start tag has an end tag of the same name.
Comments and instructions are left out. The names of attributes are told apart
later, when their prefixes are known.
-/

namespace InputPanel.Xml

structure Attribute where
  name : Name
  value : List Piece

inductive Item where
  | text (chars : List Char)
  | entity (name : String)
  | element (name : Name) (attributes : List Attribute) (content : List Item)
deriving Inhabited

/-- The text past a row of characters, if it begins with them. -/
def after? (mark : List Char) (s : List Char) : Option (List Char) :=
  if mark.isPrefixOf s then some (s.drop mark.length) else none

/-- The text before and after the first occurrence of a row of characters. -/
def splitAt? (mark : List Char) : List Char → Option (List Char × List Char)
  | [] => none
  | c :: rest =>
    if mark.isPrefixOf (c :: rest) then some ([], (c :: rest).drop mark.length)
    else (splitAt? mark rest).map fun (before, after) => (c :: before, after)

/-- The text after a comment whose opening mark has been read. -/
def afterComment? (s : List Char) : Option (List Char) := do
  let (_, rest) ← splitAt? ['-', '-'] s
  after? ['>'] rest

/-- A name without a colon, and the text after it. -/
def plainName? : List Char → Option (String × List Char)
  | [] => none
  | c :: rest =>
    if isNameStart c then
      let more := rest.takeWhile isNameChar
      some (String.ofList (c :: more), rest.drop more.length)
    else none

/-- A name with or without a prefix, and the text after it. -/
def name? (s : List Char) : Option (Name × List Char) := do
  let (first, rest) ← plainName? s
  match rest with
  | ':' :: rest =>
    let (base, rest) ← plainName? rest
    return (⟨some first, base⟩, rest)
  | rest => return (⟨none, first⟩, rest)

/-- The text after an instruction whose opening mark has been read. Its target is not `xml` in
letters of any size. -/
def afterInstruction? (s : List Char) : Option (List Char) := do
  let (target, rest) ← plainName? s
  let isReserved := target.toList.map Char.toLower == ['x', 'm', 'l']
  let endsTarget := rest.head?.any isSpace || ['?', '>'].isPrefixOf rest
  if isReserved || !endsTarget then none
  else return (← splitAt? ['?', '>'] rest).2

/-- An attribute, and the text after it. -/
def attribute? (s : List Char) : Option (Attribute × List Char) := do
  let (name, rest) ← name? s
  let rest ← after? ['='] (rest.dropWhile isSpace)
  match rest.dropWhile isSpace with
  | quote :: rest =>
    if quote = '"' ∨ quote = '\'' then
      let (value, rest) ← splitAt? [quote] rest
      if value.contains '<' then none else return (⟨name, ← pieces? value⟩, rest)
    else none
  | [] => none

/-- The attributes of a start tag, whether it is an end tag as well, and the text after it. -/
def attributes? : Nat → List Char → Option (List Attribute × Bool × List Char)
  | 0, _ => none
  | fuel + 1, s =>
    match s.dropWhile isSpace with
    | '>' :: rest => some ([], false, rest)
    | '/' :: '>' :: rest => some ([], true, rest)
    | rest =>
      if s.head?.any isSpace then do
        let (one, rest) ← attribute? rest
        let (more, isClosed, rest) ← attributes? fuel rest
        return (one :: more, isClosed, rest)
      else none

mutual

/-- The items up to an end tag or the end of the text, and the text from there on. -/
def items? (fuel : Nat) (s : List Char) : Option (List Item × List Char) :=
  match fuel, s with
  | 0, _ => none
  | _, [] => some ([], [])
  | _, '<' :: '/' :: rest => some ([], '<' :: '/' :: rest)
  | fuel + 1, '<' :: '!' :: '-' :: '-' :: rest => do items? fuel (← afterComment? rest)
  | fuel + 1, '<' :: '?' :: rest => do items? fuel (← afterInstruction? rest)
  | fuel + 1, '<' :: '!' :: rest => do
    let rest ← after? ['[', 'C', 'D', 'A', 'T', 'A', '['] rest
    let (chars, rest) ← splitAt? [']', ']', '>'] rest
    let (items, rest) ← items? fuel rest
    return (.text chars :: items, rest)
  | fuel + 1, '<' :: rest => do
    let (element, rest) ← element? fuel rest
    let (items, rest) ← items? fuel rest
    return (element :: items, rest)
  | fuel + 1, '&' :: rest => do
    let (body, rest) ← Text.cutAt ';' rest
    let item ← match ← reference? body with
      | .char c => some (Item.text [c])
      | .given c => some (.text [c])
      | .entity name => some (.entity name)
    let (items, rest) ← items? fuel rest
    return (item :: items, rest)
  | fuel + 1, s =>
    let chars := s.takeWhile fun c => c != '<' && c != '&'
    if Text.occursIn [']', ']', '>'] chars then none
    else do
      let (items, rest) ← items? fuel (s.drop chars.length)
      return (.text chars :: items, rest)

/-- An element whose opening bracket has been read, and the text after it. -/
def element? (fuel : Nat) (s : List Char) : Option (Item × List Char) :=
  match fuel with
  | 0 => none
  | fuel + 1 => do
    let (name, rest) ← name? s
    let (attributes, isClosed, rest) ← attributes? (rest.length + 1) rest
    if isClosed then return (.element name attributes [], rest)
    else
      let (content, rest) ← items? fuel rest
      let rest ← after? (['<', '/'] ++ name.text.toList) rest
      let rest ← after? ['>'] (rest.dropWhile isSpace)
      return (.element name attributes content, rest)

end

/-- The items of a text that is complete in itself. -/
def content? (s : List Char) : Option (List Item) := do
  match ← items? (2 * s.length + 2) s with
  | (items, []) => return items
  | _ => none

/-- Whether nothing but white space, comments and instructions follows. -/
def isAside : Nat → List Char → Bool
  | 0, _ => false
  | fuel + 1, s =>
    match s.dropWhile isSpace with
    | [] => true
    | '<' :: '!' :: '-' :: '-' :: rest => (afterComment? rest).any (isAside fuel)
    | '<' :: '?' :: rest => (afterInstruction? rest).any (isAside fuel)
    | _ => false

/-- The element that a text consists of, up to what may follow it. -/
def root? (s : List Char) : Option Item := do
  let rest ← after? ['<'] s
  let (element, rest) ← element? (2 * rest.length + 2) rest
  if isAside (rest.length + 1) rest then return element else none

end InputPanel.Xml
