import InputPanel.FileTree
import InputPanel.OrderedMap

/-!
# Environment files

An environment file has a line `name=value` for each variable; `export` may
stand before the name. A value in quotes may go on over several lines; in other
values white space and a `#` begin a comment. A line that makes no sense is
passed over. A value may refer to a variable as `${name}`, with a default
after `:-`. Variables that are set already are not changed. A variable that
cannot be is a fault of the file. The file stands in the directory where work is
done or in one that leads to it; of several the innermost counts.
-/

namespace InputPanel.EnvironmentFile

def isMargin (c : Char) : Bool := Text.isBlank c && c != '\n'

def skipMargin (s : List Char) : List Char := s.dropWhile isMargin

/-- The text before the quote that ends a value, and the text after it. A quote after a backslash
ends the value only if no other quote does; `last` is that end. -/
def untilQuote (quote : Char) (taken : List Char) (last : Option (List Char × List Char)) :
    List Char → Option (List Char × List Char)
  | [] => last
  | '\\' :: c :: rest =>
    if c = quote then
      untilQuote quote (c :: '\\' :: taken) (some (('\\' :: taken).reverse, rest)) rest
    else untilQuote quote ('\\' :: taken) last (c :: rest)
  | c :: rest =>
    if c = quote then some (taken.reverse, rest) else untilQuote quote (c :: taken) last rest

/-- What a character after a backslash stands for between double quotes. -/
def control? : Char → Option Char
  | 'a' => some '\x07'
  | 'b' => some '\x08'
  | 'f' => some '\x0c'
  | 'n' => some '\n'
  | 'r' => some '\r'
  | 't' => some '\t'
  | 'v' => some '\x0b'
  | '"' => some '"'
  | _ => none

/-- A quoted text without its escapes; between single quotes there are only two. -/
def unescape (quote : Char) : List Char → List Char
  | '\\' :: c :: rest =>
    if c = '\\' ∨ c = '\'' then c :: unescape quote rest
    else
      match if quote = '"' then control? c else none with
      | some c => c :: unescape quote rest
      | none => '\\' :: unescape quote (c :: rest)
  | c :: rest => c :: unescape quote rest
  | [] => []

/-- The text before white space that a comment follows. -/
def beforeComment : List Char → List Char
  | [] => []
  | c :: rest =>
    if Text.isBlank c && ((c :: rest).dropWhile Text.isBlank).head? == some '#' then []
    else c :: beforeComment rest

/-- A value, if it is well formed, and the text after it. -/
def value? (s : List Char) : Option String × List Char :=
  match s with
  | [] => (some "", s)
  | '\n' :: _ => (some "", s)
  | c :: rest =>
    if c = '\'' ∨ c = '"' then
      match untilQuote c [] none rest with
      | some (body, after) => (some (String.ofList (unescape c body)), after)
      | none => (none, s)
    else
      let line := s.takeWhile (· != '\n')
      (some (String.ofList (Text.trimRight (beforeComment line))), s.drop line.length)

/-- A name, if there is one, and the text after it. -/
def name? (s : List Char) : Option String × List Char :=
  match s with
  | '\'' :: rest =>
    let name := rest.takeWhile (· != '\'')
    if name.isEmpty || name.length = rest.length then (none, s)
    else (some (String.ofList name), rest.drop (name.length + 1))
  | _ =>
    let name := s.takeWhile fun c => c != '=' && c != '#' && !Text.isBlank c
    (if name.isEmpty then none else some (String.ofList name), s.drop name.length)

def afterExport (s : List Char) : List Char :=
  match s with
  | 'e' :: 'x' :: 'p' :: 'o' :: 'r' :: 't' :: rest =>
    if rest.head?.any isMargin then skipMargin rest else s
  | _ => s

def afterLine (s : List Char) : List Char := (s.dropWhile (· != '\n')).drop 1

/-- The text after a comment, if one follows, and the end of the line; nothing if something else
is there. -/
def end? (s : List Char) : Option (List Char) :=
  match skipMargin s with
  | [] => some []
  | '\n' :: rest => some rest
  | '#' :: rest => some (afterLine rest)
  | _ => none

/-- A name with its value, if it has one. -/
abbrev Binding := String × Option String

/-- What the next line binds, and the text after it. -/
def binding (s : List Char) : Option Binding × List Char :=
  let s := afterExport (s.dropWhile Text.isBlank)
  if s.head? = some '#' then (none, afterLine s)
  else
    match name? s with
    | (none, rest) => (none, afterLine rest)
    | (some name, rest) =>
      match skipMargin rest with
      | '=' :: rest =>
        match value? (skipMargin rest) with
        | (none, rest) => (none, afterLine rest)
        | (some value, rest) =>
          match end? rest with
          | some rest => (some (name, some value), rest)
          | none => (none, afterLine rest)
      | rest =>
        match end? rest with
        | some rest => (some (name, none), rest)
        | none => (none, afterLine rest)

/-- All bindings of a text; each takes at least one character of it. -/
def bindings : Nat → List Char → List Binding
  | 0, _ => []
  | fuel + 1, s =>
    if s.isEmpty then []
    else
      let (one, rest) := binding s
      one.toList ++ bindings fuel rest

/-- A reference to a variable with its default, and the text after it. -/
def reference? : List Char → Option ((String × String) × List Char)
  | '$' :: '\x7b' :: rest =>
    let name := rest.takeWhile fun c => c != '\x7d' && c != ':'
    match rest.drop name.length with
    | '\x7d' :: after => some ((String.ofList name, ""), after)
    | ':' :: '-' :: rest =>
      let default := rest.takeWhile (· != '\x7d')
      if default.length = rest.length then none
      else some ((String.ofList name, String.ofList default), rest.drop (default.length + 1))
    | _ => none
  | _ => none

/-- The names of the variables that a text refers to. -/
def referencedNames : List Char → List String
  | [] => []
  | c :: rest =>
    (reference? (c :: rest)).toList.map (fun found => found.1.1) ++ referencedNames rest

/-- A text with its references replaced. -/
def expand (lookup : String → Option String) : Nat → List Char → List Char
  | _, [] => []
  | 0, s => s
  | fuel + 1, c :: rest =>
    match reference? (c :: rest) with
    | some ((name, default), after) =>
      ((lookup name).getD default).toList ++ expand lookup fuel after
    | none => c :: expand lookup fuel rest

/-- The value that a name refers to: the one that is set already, or the one bound before. A name
bound without a value counts as empty. -/
def lookupIn (environment : OrderedMap String) (bound : OrderedMap (Option String))
    (name : String) : Option String :=
  match environment.get? name with
  | some value => some value
  | none => (bound.get? name).map fun value => value.getD ""

/-- The bindings in order, each value with its references replaced. -/
def resolve (environment : OrderedMap String) (bindings : List Binding) :
    OrderedMap (Option String) :=
  bindings.foldl (fun bound (name, value) =>
    let expanded := value.map fun text =>
      String.ofList (expand (lookupIn environment bound) text.length text.toList)
    bound.set name expanded) OrderedMap.empty

/-- Whether there can be a variable with this name and value: neither of them has a zero character,
and the name has no equals sign. -/
def isPossible (name value : String) : Bool :=
  !name.toList.contains '\x00' && !name.toList.contains '=' && !value.toList.contains '\x00'

/-- Adds the variables that an environment does not have yet, up to one that cannot be. -/
def addAll (environment : OrderedMap String) :
    List Binding → OrderedMap String × Except Failure Unit
  | [] => (environment, .ok ())
  | (_, none) :: rest => addAll environment rest
  | (name, some value) :: rest =>
    if environment.contains name then addAll environment rest
    else if isPossible name value then addAll (environment.set name value) rest
    else (environment, .error .badValue)

/-- An environment with the variables of a file that it does not have yet. -/
def addTo (environment : OrderedMap String) (text : String) :
    OrderedMap String × Except Failure Unit :=
  let s := text.toList
  addAll environment (resolve environment (bindings (s.length + 1) s)).toList

/-- Where an environment file may stand, the innermost place first. -/
def places (working : Location) : List Location :=
  (List.range (working.length + 1)).map fun n => working.take (working.length - n) ++ [".env"]

/-- The bytes of the environment file, if there is one. -/
def bytes? (tree : FileTree) : Option (List UInt8) :=
  (places tree.working).findSome? fun place =>
    match tree.entry? place with
    | some (.file bytes) => some bytes
    | _ => none

/-- An environment with the variables of the environment file that it does not have yet. -/
def load (tree : FileTree) (environment : OrderedMap String) :
    OrderedMap String × Except Failure Unit :=
  match (bytes? tree).map FileTree.textOf with
  | none => (environment, .ok ())
  | some (.ok text) => addTo environment text
  | some (.error failure) => (environment, .error failure)

end InputPanel.EnvironmentFile
