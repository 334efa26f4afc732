import InputPanel.Xml.Prolog

/-!
# Document types

A document type declares entities and the attributes of elements. The first
declaration of a name holds. After a reference to a parameter entity, which is
not read, declarations count for nothing unless the document stands alone.
Declarations of elements and notations have to be well formed, no more.
-/

namespace InputPanel.Xml

/-- What is declared of an attribute; the default is the text as it is written. -/
structure AttributeRule where
  name : String
  isTokens : Bool
  default : Option (List Char)

/-- A declaration inside a document type. -/
inductive Clause where
  | entity (name : String) (value : Option (List Char))
  | parameter (value : Option (List Char))
  | attributes (element : String) (rules : List AttributeRule)
  | reference
  | other

namespace Clause

def isPublicId (chars : List Char) : Bool :=
  chars.all fun c => c.isAlphanum || " \r\n-'()+,./:=?;!*#@$_%".toList.contains c

/-- The marks after the place of something outside the document. -/
def afterPlace? : List Mark → Option (List Mark)
  | .name "SYSTEM" false :: .literal _ :: rest => some rest
  | .name "PUBLIC" false :: .literal id :: .literal _ :: rest =>
    if isPublicId id then some rest else none
  | _ => none

def ofEntity? : List Mark → Option Clause
  | [.percent, .name _ false, .literal value] => some (.parameter (some value))
  | .percent :: .name _ false :: rest => do
    match ← afterPlace? rest with
    | [] => some (.parameter none)
    | _ => none
  | [.name name false, .literal value] => some (.entity name (some value))
  | .name name false :: rest => do
    match ← afterPlace? rest with
    | [] => some (.entity name none)
    | [.name "NDATA" false, .name _ false] => some (.entity name none)
    | _ => none
  | _ => none

/-- The marks after a list of alternatives up to its closing bracket. -/
def afterChoices? (isMember : Mark → Bool) : List Mark → Option (List Mark)
  | member :: .rightParen none :: rest => if isMember member then some rest else none
  | member :: .bar :: rest => if isMember member then afterChoices? isMember rest else none
  | _ => none

def isName : Mark → Bool
  | .name _ hasColon => !hasColon
  | _ => false

def isToken : Mark → Bool
  | .name _ _ => true
  | .token => true
  | _ => false

def tokenTypes : List String :=
  ["ID", "IDREF", "IDREFS", "ENTITY", "ENTITIES", "NMTOKEN", "NMTOKENS"]

/-- Whether the values of a type are rows of tokens, and the marks after the type. -/
def type? : List Mark → Option (Bool × List Mark)
  | .leftParen :: rest => (afterChoices? isToken rest).map (true, ·)
  | .name "NOTATION" false :: .leftParen :: rest => (afterChoices? isName rest).map (true, ·)
  | .name "CDATA" false :: rest => some (false, rest)
  | .name word false :: rest => if tokenTypes.contains word then some (true, rest) else none
  | _ => none

/-- The default value, if there is one, and the marks after it. -/
def default? : List Mark → Option (Option (List Char) × List Mark)
  | .hash "IMPLIED" :: rest => some (none, rest)
  | .hash "REQUIRED" :: rest => some (none, rest)
  | .hash "FIXED" :: .literal value :: rest => some (some value, rest)
  | .literal value :: rest => some (some value, rest)
  | _ => none

def rules? : Nat → List Mark → Option (List AttributeRule)
  | _, [] => some []
  | 0, _ => none
  | fuel + 1, .name name _ :: rest => do
    let (isTokens, rest) ← type? rest
    let (default, rest) ← default? rest
    return ⟨name, isTokens, default⟩ :: (← rules? fuel rest)
  | _, _ => none

/-- Whether marks are the rest of a content model; `open?` holds the separator of each open group,
and `afterMember` tells that a member has been read. -/
def isGroup : List (Option Mark) → Bool → List Mark → Bool
  | [], _, rest => rest.isEmpty
  | groups, false, .leftParen :: rest => isGroup (none :: groups) false rest
  | groups, false, .name _ _ :: rest => isGroup groups true rest
  | groups, false, .counted :: rest => isGroup groups true rest
  | _ :: groups, true, .rightParen _ :: rest => isGroup groups true rest
  | separator :: groups, true, .bar :: rest =>
    separator != some .comma && isGroup (some .bar :: groups) false rest
  | separator :: groups, true, .comma :: rest =>
    separator != some .bar && isGroup (some .comma :: groups) false rest
  | _, _, _ => false

/-- Whether marks are the rest of a mixed content model. -/
def isMixed : List Mark → Bool
  | [.rightParen (some '*')] => true
  | .bar :: .name _ _ :: rest => isMixed rest
  | _ => false

def isElement : List Mark → Bool
  | [.name _ _, .name word false] => word = "EMPTY" || word = "ANY"
  | [.name _ _, .leftParen, .hash "PCDATA", .rightParen none] => true
  | .name _ _ :: .leftParen :: .hash "PCDATA" :: rest => isMixed rest
  | .name _ _ :: .leftParen :: rest => isGroup [none] false rest
  | _ => false

def isNotation : List Mark → Bool
  | [.name _ false, .name "PUBLIC" false, .literal id] => isPublicId id
  | .name _ false :: rest => afterPlace? rest == some []
  | _ => false

/-- The clause with a keyword and the marks up to its end. -/
def ofMarks? (keyword : String) (marks : List Mark) : Option Clause :=
  match keyword, marks with
  | "ENTITY", marks => ofEntity? marks
  | "ATTLIST", .name element _ :: marks =>
    (rules? (marks.length + 1) marks).map (attributes element)
  | "ELEMENT", marks => if isElement marks then some other else none
  | "NOTATION", marks => if isNotation marks then some other else none
  | _, _ => none

/-- The clauses up to the bracket that closes them, and the marks after it. -/
def all? : Nat → List Mark → Option (List Clause × List Mark)
  | _, .rightBracket :: rest => some ([], rest)
  | fuel + 1, .aside :: rest => all? fuel rest
  | fuel + 1, .reference :: rest => do
    let (clauses, rest) ← all? fuel rest
    return (reference :: clauses, rest)
  | fuel + 1, .opening keyword :: rest => do
    let body := rest.takeWhile (· != .close)
    let clause ← ofMarks? keyword body
    let (clauses, rest) ← all? fuel (rest.drop (body.length + 1))
    return (clause :: clauses, rest)
  | _, _ => none

end Clause

/-- A document type as it is written. -/
structure TypeDeclaration where
  isExternal : Bool
  clauses : List Clause

namespace TypeDeclaration

/-- The rest of a document type from the place after its name, and the marks after it. -/
def rest? (marks : List Mark) : Option (TypeDeclaration × List Mark) := do
  let (isExternal, marks) ← match marks with
    | .name _ false :: _ => (Clause.afterPlace? marks).map (true, ·)
    | _ => some (false, marks)
  let (clauses, marks) ← match marks with
    | .leftBracket :: marks => Clause.all? (marks.length + 1) marks
    | _ => some ([], marks)
  match marks with
  | .close :: marks => return (⟨isExternal, clauses⟩, marks)
  | _ => none

/-- The document type among the marks of a prolog. -/
def ofMarks? (marks : List Mark) : Option TypeDeclaration := do
  match marks.dropWhile (· == .aside) with
  | [] => return ⟨false, []⟩
  | .opening "DOCTYPE" :: .name _ _ :: rest =>
    let (declared, rest) ← rest? rest
    if rest.all (· == .aside) then return declared else none
  | _ => none

end TypeDeclaration

end InputPanel.Xml
