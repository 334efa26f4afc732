import InputPanel.Xml.DocumentType

/-!
# Entities and the values of attributes

A reference to an entity stands for the text that the document type gives it.
Such texts may refer to further entities, but not in a circle, and all together
they must not grow too large. In the value of an attribute white space is read
as spaces; a value that is a row of tokens has single spaces between them.
-/

namespace InputPanel.Xml

/-- What a document type means. An entity without a text lies outside the document. -/
structure Definitions where
  entities : List (String × Option (List Char)) := []
  rules : List (String × AttributeRule) := []
  isLenient : Bool := false
  isClosed : Bool := false

/-- Replacing references; the state is how many characters may still come from entities. -/
abbrev Expanding := StateT Nat Option

/-- How many characters may come from the entities of a document. -/
def expansionLimit (document : List Char) : Nat := max 8388608 (100 * document.length)

def spend (count : Nat) : Expanding Unit := do
  let left ← get
  if left < count then failure else set (left - count)

/-- The characters of an attribute value, given the values of entities. -/
def charsOf (entity : String → Expanding (List Char)) : List Piece → Expanding (List Char)
  | [] => return []
  | .char c :: rest =>
    if c = '<' then failure
    else return (if isSpace c then ' ' else c) :: (← charsOf entity rest)
  | .given c :: rest => return c :: (← charsOf entity rest)
  | .entity name :: rest => do
    let chars ← entity name
    return chars ++ (← charsOf entity rest)

namespace Definitions

/-- The text of an entity; one that is not declared may count as nothing. -/
def textOf (definitions : Definitions) (name : String) : Expanding (Option (List Char)) := do
  match definitions.entities.lookup name with
  | some (some text) =>
    spend text.length
    return some text
  | some none => failure
  | none => return none

/-- How deep entities may nest without a circle. -/
def depth (definitions : Definitions) : Nat := definitions.entities.length + 1

def entityValue (definitions : Definitions) : Nat → String → Expanding (List Char)
  | 0, _ => failure
  | depth + 1, name => do
    match ← definitions.textOf name with
    | some text => charsOf (definitions.entityValue depth) (← pieces? text)
    | none => if definitions.isLenient then return [] else failure

def spaced (chars : List Char) : List Char :=
  let tokens := (Text.piecesBy (· == ' ') chars).filter fun piece => !piece.isEmpty
  [' '].intercalate tokens

/-- The value of an attribute whose text is made of pieces. -/
def valueOf (definitions : Definitions) (isTokens : Bool) (pieces : List Piece) :
    Expanding (List Char) := do
  let chars ← charsOf (definitions.entityValue definitions.depth) pieces
  return if isTokens then spaced chars else chars

/-- The text of an entity from its declaration: numbered characters are replaced, references to
entities stay. `open?` holds the reference read so far, latest character first. -/
def declaredText : Option (List Char) → List Char → Option (List Char)
  | none, [] => some []
  | some _, [] => none
  | none, '%' :: _ => none
  | none, '&' :: rest => declaredText (some []) rest
  | none, c :: rest => (declaredText none rest).map (c :: ·)
  | some body, ';' :: rest => do
    let body := body.reverse
    let chars ← match body.head?, ← reference? body with
      | some '#', .given c => some [c]
      | _, _ => some ('&' :: body ++ [';'])
    return chars ++ (← declaredText none rest)
  | some body, c :: rest => declaredText (some (c :: body)) rest

def rulesOf (definitions : Definitions) (element : String) : List AttributeRule :=
  (definitions.rules.filter fun entry => entry.1 == element).map Prod.snd

def addRules (element : String) : List AttributeRule → Definitions → Expanding Definitions
  | [], definitions => return definitions
  | rule :: rest, definitions => do
    let value ← match rule.default with
      | some text => some <$> definitions.valueOf rule.isTokens (← pieces? text)
      | none => pure none
    let isNew := (definitions.rulesOf element).all fun other => other.name != rule.name
    let rules := definitions.rules ++ [(element, { rule with default := value })]
    addRules element rest (if isNew then { definitions with rules } else definitions)

def add (standalone : Bool) (definitions : Definitions) : Clause → Expanding Definitions
  | .other => return definitions
  | .reference =>
    return { definitions with isClosed := !standalone, isLenient := !standalone }
  | clause => do
    if definitions.isClosed then return definitions
    match clause with
    | .entity name text =>
      let text ← text.mapM fun chars => declaredText none chars
      let isNew := (commonEntity? name).isNone && (definitions.entities.lookup name).isNone
      let entities := definitions.entities ++ [(name, text)]
      return if isNew then { definitions with entities } else definitions
    | .parameter text =>
      let _ ← text.mapM fun chars => declaredText none chars
      return definitions
    | .attributes element rules => addRules element rules definitions
    | _ => return definitions

def ofDeclaration (standalone : Bool) (declared : TypeDeclaration) : Expanding Definitions :=
  declared.clauses.foldlM (add standalone) { isLenient := declared.isExternal && !standalone }

end Definitions

end InputPanel.Xml
