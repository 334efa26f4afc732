import InputPanel.Xml.Name

/-!
# The declaration at the head of a document

A document may begin with a declaration of its version, then perhaps its
encoding, then perhaps whether it stands alone. The values are made of ASCII
letters, digits, points, hyphens and underscores.
-/

namespace InputPanel.Xml

structure Declaration where
  encoding : Option String := none
  standalone : Bool := false

namespace Declaration

def isValueChar (c : Char) : Bool := c.isAlphanum || c == '.' || c == '-' || c == '_'

/-- A name and its quoted value, with white space before it, and the text after it. -/
def setting? (s : List Char) : Option ((String × String) × List Char) :=
  let name := (s.dropWhile isSpace).takeWhile fun c => c != '=' && !isSpace c
  let afterName := (s.dropWhile isSpace).drop name.length
  if !(s.head?.any isSpace) || name.isEmpty then none
  else
    match afterName.dropWhile isSpace with
    | '=' :: rest =>
      match rest.dropWhile isSpace with
      | quote :: rest =>
        let value := rest.takeWhile isValueChar
        if (quote = '"' ∨ quote = '\'') ∧ (rest.drop value.length).head? = some quote then
          some ((String.ofList name, String.ofList value), rest.drop (value.length + 1))
        else none
      | [] => none
    | _ => none

/-- The settings of a text, at most `limit` of them. -/
def settings? : Nat → List Char → Option (List (String × String))
  | limit, s =>
    if s.all isSpace then some []
    else
      match limit with
      | 0 => none
      | limit + 1 => do
        let (setting, rest) ← setting? s
        return setting :: (← settings? limit rest)

def standalone? : String → Option Bool
  | "yes" => some true
  | "no" => some false
  | _ => none

def ofSettings? : List (String × String) → Option Declaration
  | ("version", _) :: rest => do
    let (encoding, rest) ← match rest with
      | ("encoding", name) :: rest =>
        if name.toList.head?.any Char.isAlpha then some (some name, rest) else none
      | rest => some (none, rest)
    match rest with
    | [] => return { encoding }
    | [("standalone", value)] => return { encoding, standalone := ← standalone? value }
    | _ => none
  | _ => none

/-- The text up to the mark that ends an instruction, and the text after it. -/
def body? : List Char → Option (List Char × List Char)
  | [] => none
  | '?' :: '>' :: rest => some ([], rest)
  | c :: rest => (body? rest).map fun (body, after) => (c :: body, after)

/-- The declaration of a document, if it has one, and the text after it. -/
def read? (s : List Char) : Option (Declaration × List Char) :=
  match s with
  | '<' :: '?' :: 'x' :: 'm' :: 'l' :: rest =>
    if rest.head?.any isNameChar then some ({}, s)
    else do
      let (body, rest) ← body? rest
      return (← ofSettings? (← settings? 3 body), rest)
  | _ => some ({}, s)

end Declaration

end InputPanel.Xml
