import InputPanel.Xml.Markup

/-!
# The prolog of a document

Before the root element there may be comments, instructions and one document
type declaration. They are read into marks. White space lies between marks and
counts for nothing else, but many marks have to be followed by it or by one of a
few characters.
-/

namespace InputPanel.Xml

inductive Mark where
  | opening (keyword : String)
  | close
  | name (text : String) (hasColon : Bool)
  | token
  | counted
  | hash (word : String)
  | literal (chars : List Char)
  | reference
  | percent
  | leftParen
  | rightParen (count : Option Char)
  | leftBracket
  | rightBracket
  | bar
  | comma
  | aside
deriving DecidableEq, Repr

/-- Whether the next character is white space or one of a few. -/
def isFollowedBy (ends : List Char) (s : List Char) : Bool :=
  s.head?.any fun c => isSpace c || ends.contains c

/-- How a word of name characters and colons is made: a name, a name with a prefix, or neither. -/
def wordMark (word : List Char) : Mark :=
  let begins := word.head?.any isNameStart
  match Text.piecesBy (· == ':') word with
  | [_] => if begins then .name (String.ofList word) false else .token
  | [_, base] => if begins && !base.isEmpty then .name (String.ofList word) true else .token
  | _ => .token

/-- The mark at the beginning of a text, and the text after it. -/
def mark? (s : List Char) : Option (Mark × List Char) :=
  match s with
  | [] => none
  | '<' :: '!' :: '-' :: '-' :: rest => (afterComment? rest).map (Mark.aside, ·)
  | '<' :: '?' :: rest => (afterInstruction? rest).map (Mark.aside, ·)
  | '<' :: '!' :: rest =>
    let keyword := rest.takeWhile isNameStart
    let after := rest.drop keyword.length
    let ends := match after with
      | '%' :: more => !isFollowedBy ['%'] more
      | _ => isFollowedBy [] after
    if !keyword.isEmpty && ends then some (.opening (String.ofList keyword), after) else none
  | '>' :: rest => some (.close, rest)
  | '[' :: rest => some (.leftBracket, rest)
  | ']' :: ']' :: '>' :: _ => none
  | ']' :: rest => some (.rightBracket, rest)
  | '(' :: rest => some (.leftParen, rest)
  | '|' :: rest => some (.bar, rest)
  | ',' :: rest => some (.comma, rest)
  | ')' :: '*' :: rest => some (.rightParen (some '*'), rest)
  | ')' :: '?' :: rest => some (.rightParen (some '?'), rest)
  | ')' :: '+' :: rest => some (.rightParen (some '+'), rest)
  | ')' :: rest =>
    if isFollowedBy ['>', ',', '|', ')'] rest then some (.rightParen none, rest) else none
  | '#' :: rest => do
    let (word, rest) ← plainName? rest
    if isFollowedBy [')', '>', '%', '|'] rest then return (.hash word, rest) else none
  | '%' :: rest =>
    if isFollowedBy ['%'] rest then some (.percent, rest)
    else do
      let (_, rest) ← plainName? rest
      return (.reference, ← after? [';'] rest)
  | c :: rest =>
    if c = '"' ∨ c = '\'' then do
      let (chars, rest) ← splitAt? [c] rest
      if isFollowedBy ['>', '%', '['] rest then return (.literal chars, rest) else none
    else
      let word := (c :: rest).takeWhile fun c => isNameChar c || c == ':'
      let after := (c :: rest).drop word.length
      let mark := wordMark word
      if word.isEmpty then none
      else if isFollowedBy ['>', ')', ',', '|', '[', '%'] after then some (mark, after)
      else if after.head?.any (['?', '*', '+'].contains ·) ∧ mark ≠ .token then
        some (.counted, after.drop 1)
      else none

/-- The marks before the root element, and the text from the element on. -/
def marks? : Nat → List Char → Option (List Mark × List Char)
  | 0, _ => none
  | fuel + 1, s =>
    match s.dropWhile isSpace with
    | '<' :: c :: rest =>
      if isNameStart c then some ([], '<' :: c :: rest)
      else do
        let (mark, rest) ← mark? ('<' :: c :: rest)
        let (marks, rest) ← marks? fuel rest
        return (mark :: marks, rest)
    | s => do
      let (mark, rest) ← mark? s
      let (marks, rest) ← marks? fuel rest
      return (mark :: marks, rest)

end InputPanel.Xml
