import InputPanel.Yaml.Token

/-!
# YAML trees

A document is a tree of scalars, sequences and mappings. Each node has a tag,
or says whether it was written plain, so that its tag can be told from its text.
An alias is replaced by the tree that its anchor marks; an anchor marks no
other tree. Within the tree that its anchor marks an alias stands for a loop.
-/

namespace InputPanel.Yaml

inductive Tree where
  | scalar (tag : Option String) (plain : Bool) (text : String)
  | sequence (tag : Option String) (items : List Tree)
  | mapping (tag : Option String) (entries : List (Tree × Tree))
  /-- a sequence or a mapping that the place stands in -/
  | loop (isMapping : Bool)
deriving Inhabited

namespace Tree

/-- Nothing where a node could stand. -/
def absent : Tree := scalar none true ""

/-- What is left to read, and what the anchors and tag handles seen so far stand for. An anchor
whose tree is not complete stands for a loop. -/
structure Reading where
  rest : List Token
  anchors : List (String × Tree)
  handles : List (String × String)

abbrev Reader := StateT Reading (Except Failure)

def bad {α : Type} : Reader α := throw .malformedYaml

def standardHandles : List (String × String) := [("!", "!"), ("!!", "tag:yaml.org,2002:")]

def peek : Reader Token := return ((← get).rest.head?).getD .streamEnd

def drop : Reader Unit := modify fun r => { r with rest := r.rest.tail }

/-- Passes a token if it comes next. -/
def passes (token : Token) : Reader Bool := do
  if (← peek) = token then
    drop
    return true
  else return false

def expect (token : Token) : Reader Unit := do
  unless ← passes token do bad

/-- Passes an anchor and tag, in either order. -/
def properties : Reader (Option String × Option TagText) := do
  match ← peek with
  | .anchor name =>
    drop
    match ← peek with
    | .tag text =>
      drop
      return (some name, some text)
    | _ => return (some name, none)
  | .tag text =>
    drop
    match ← peek with
    | .anchor name =>
      drop
      return (some name, some text)
    | _ => return (none, some text)
  | _ => return (none, none)

/-- The full tag that a written one stands for; a lone exclamation mark stands for none. -/
def fullTag : Option TagText → Reader (Option String)
  | none => return none
  | some ⟨none, suffix⟩ => return if suffix = "!" then none else some suffix
  | some ⟨some handle, suffix⟩ => do
    match (← get).handles.lookup handle with
    | some leading => return some (leading ++ suffix)
    | none => bad

/-- Whether a written tag is a lone exclamation mark, under which a scalar is read as if plain. -/
def isLoneMark : Option TagText → Bool
  | some ⟨none, "!"⟩ => true
  | _ => false

/-- Notes that an anchor marks a tree. -/
def mark (anchor : Option String) (tree : Tree) : Reader Unit :=
  match anchor with
  | none => return ()
  | some name => modify fun r => { r with anchors := (name, tree) :: r.anchors }

/-- Notes that an anchor marks the tree that comes next. -/
def openAnchor (anchor : Option String) : Reader Unit := do
  match anchor with
  | none => return ()
  | some name =>
    if ((← get).anchors.lookup name).isSome then bad
    let next ← peek
    mark anchor (.loop (next == .flowMappingStart || next == .blockMappingStart))

def aliased (name : String) : Reader Tree := do
  match (← get).anchors.lookup name with
  | some tree => return tree
  | none => bad

/-- Whether the next token is one of some. -/
def nextIs (tokens : List Token) : Reader Bool := return tokens.contains (← peek)

mutual

/-- A node. In a block it may be a block collection, and after a key a sequence that is not indented
further than the key. -/
def node (fuel : Nat) (inBlock unindented : Bool) : Reader Tree := do
  match fuel with
  | 0 => bad
  | fuel + 1 =>
    match ← peek with
    | .alias name =>
      drop
      aliased name
    | _ =>
      let (anchor, written) ← properties
      let tag ← fullTag written
      openAnchor anchor
      let tree ← match ← peek with
        | .blockEntry =>
          if unindented then pure (Tree.sequence tag (← openEntries fuel []))
          else if anchor.isSome || written.isSome then pure (.scalar tag tag.isNone "")
          else bad
        | .scalar text plain =>
          drop
          pure (.scalar tag ((plain && written.isNone) || isLoneMark written) text)
        | .flowSequenceStart =>
          drop
          pure (.sequence tag (← flowItems fuel true []))
        | .flowMappingStart =>
          drop
          pure (.mapping tag (← flowEntries fuel true []))
        | .blockSequenceStart =>
          if inBlock then
            drop
            pure (.sequence tag (← blockItems fuel []))
          else if anchor.isSome || written.isSome then pure (.scalar tag tag.isNone "")
          else bad
        | .blockMappingStart =>
          if inBlock then
            drop
            pure (.mapping tag (← blockEntries fuel []))
          else if anchor.isSome || written.isSome then pure (.scalar tag tag.isNone "")
          else bad
        | _ =>
          if anchor.isSome || written.isSome then pure (.scalar tag tag.isNone "") else bad
      mark anchor tree
      return tree

/-- A node, unless a token follows that ends it before it began. -/
def nodeBefore (fuel : Nat) (inBlock unindented : Bool) (ends : List Token) : Reader Tree := do
  match fuel with
  | 0 => bad
  | fuel + 1 => if ← nextIs ends then return absent else node fuel inBlock unindented

def blockItems (fuel : Nat) (acc : List Tree) : Reader (List Tree) := do
  match fuel with
  | 0 => bad
  | fuel + 1 =>
    if ← passes .blockEntry then
      let item ← nodeBefore fuel true false [.blockEntry, .blockEnd]
      blockItems fuel (item :: acc)
    else
      expect .blockEnd
      return acc.reverse

/-- The items of a sequence that has no indentation of its own. -/
def openEntries (fuel : Nat) (acc : List Tree) : Reader (List Tree) := do
  match fuel with
  | 0 => bad
  | fuel + 1 =>
    if ← passes .blockEntry then
      let item ← nodeBefore fuel true false [.blockEntry, .key, .value, .blockEnd]
      openEntries fuel (item :: acc)
    else return acc.reverse

def blockEntries (fuel : Nat) (acc : List (Tree × Tree)) : Reader (List (Tree × Tree)) := do
  match fuel with
  | 0 => bad
  | fuel + 1 =>
    let ends := [Token.key, .value, .blockEnd]
    if ← passes .key then
      let key ← nodeBefore fuel true true ends
      let value ← if ← passes .value then nodeBefore fuel true true ends else pure absent
      blockEntries fuel ((key, value) :: acc)
    else if ← nextIs [.value] then bad
    else
      expect .blockEnd
      return acc.reverse

def flowItems (fuel : Nat) (isFirst : Bool) (acc : List Tree) : Reader (List Tree) := do
  match fuel with
  | 0 => bad
  | fuel + 1 =>
    if ← passes .flowSequenceEnd then return acc.reverse
    if !isFirst then expect .flowEntry
    if ← passes .key then
      let key ← nodeBefore fuel false false [.value, .flowEntry, .flowSequenceEnd]
      let value ←
        if ← passes .value then nodeBefore fuel false false [.flowEntry, .flowSequenceEnd]
        else pure absent
      flowItems fuel false (.mapping none [(key, value)] :: acc)
    else if ← passes .flowSequenceEnd then return acc.reverse
    else
      let item ← node fuel false false
      flowItems fuel false (item :: acc)

def flowEntries (fuel : Nat) (isFirst : Bool) (acc : List (Tree × Tree)) :
    Reader (List (Tree × Tree)) := do
  match fuel with
  | 0 => bad
  | fuel + 1 =>
    if ← passes .flowMappingEnd then return acc.reverse
    if !isFirst then expect .flowEntry
    if ← passes .key then
      let key ← nodeBefore fuel false false [.value, .flowEntry, .flowMappingEnd]
      let value ←
        if ← passes .value then nodeBefore fuel false false [.flowEntry, .flowMappingEnd]
        else pure absent
      flowEntries fuel false ((key, value) :: acc)
    else if ← passes .flowMappingEnd then return acc.reverse
    else
      let key ← node fuel false false
      flowEntries fuel false ((key, absent) :: acc)

end

/-- The directives before a document: at most one version, of the first edition, and handles that
are given once. -/
def directives : Nat → Bool → List (String × String) → Reader (List (String × String))
  | 0, _, _ => bad
  | fuel + 1, hasVersion, handles => do
    match ← peek with
    | .versionDirective major =>
      drop
      if hasVersion || major != 1 then bad
      directives fuel true handles
    | .tagDirective handle leading =>
      drop
      if (handles.lookup handle).isSome then bad
      directives fuel hasVersion ((handle, leading) :: handles)
    | .otherDirective =>
      drop
      directives fuel hasVersion handles
    | _ => return handles

def skipDocumentEnds : Nat → Reader Unit
  | 0 => return ()
  | fuel + 1 => do if ← passes .documentEnd then skipDocumentEnds fuel

def startsDocument : Token → Bool
  | .versionDirective _ => true
  | .tagDirective _ _ => true
  | .otherDirective => true
  | .documentStart => true
  | _ => false

def endsContent (token : Token) : Bool :=
  startsDocument token || token == .documentEnd || token == .streamEnd

/-- The one document of a text, if there is one. -/
def document : Reader (Option Tree) := do
  let fuel := 4 * (← get).rest.length + 8
  let first ← peek
  if first = .streamEnd then return none
  let tree ←
    if startsDocument first then do
      let handles ← directives fuel false []
      let added := standardHandles.filter fun entry => (handles.lookup entry.1).isNone
      modify fun r => { r with handles := handles ++ added }
      expect .documentStart
      let content ← peek
      if endsContent content then pure absent else node fuel true false
    else node fuel true false
  skipDocumentEnds fuel
  expect .streamEnd
  return some tree

/-- The tree of a text; nothing if the text holds no document. -/
def read (text : List Char) : Except Failure (Option Tree) := do
  let tokens ← tokens text
  let (tree, _) ← document.run ⟨tokens, [], standardHandles⟩
  return tree

end Tree

end InputPanel.Yaml
