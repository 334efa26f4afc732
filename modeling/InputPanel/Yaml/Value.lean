import InputPanel.Yaml.Base64
import InputPanel.Yaml.Resolve
import InputPanel.Yaml.Tree

/-!
# The value of a YAML tree

A tree is read by its tag; one without a tag by its shape, and if it is a plain
scalar by its form. A merge key takes in the entries of other mappings, before
those of the mapping itself. Only values that do not change can be keys.
-/

namespace InputPanel.Yaml

/-- The tags that have a meaning, and any other. -/
inductive Tag where
  | null
  | bool
  | int
  | real
  | binary
  | time
  | orderedMap
  | pairs
  | set
  | text
  | sequence
  | mapping
  | merge
  | value
  | unknown
deriving DecidableEq, Repr

namespace Tag

def ofName (name : String) : Tag :=
  if !name.startsWith "tag:yaml.org,2002:" then unknown
  else
    match String.ofList (name.toList.drop "tag:yaml.org,2002:".length) with
    | "null" => null
    | "bool" => bool
    | "int" => int
    | "float" => real
    | "binary" => binary
    | "timestamp" => time
    | "omap" => orderedMap
    | "pairs" => pairs
    | "set" => set
    | "str" => text
    | "seq" => sequence
    | "map" => mapping
    | "merge" => merge
    | "value" => value
    | _ => unknown

def ofKind : Kind → Tag
  | .null => null
  | .bool => bool
  | .int => int
  | .real => real
  | .time => time
  | .merge => merge
  | .value => value
  | .text => text

end Tag

namespace Tree

def tagOf : Tree → Tag
  | scalar (some tag) _ _ => .ofName tag
  | scalar none plain content => if plain then .ofKind (kindOf content) else .text
  | sequence (some tag) _ => .ofName tag
  | sequence none _ => .sequence
  | mapping (some tag) _ => .ofName tag
  | mapping none _ => .mapping
  | loop isMapping => if isMapping then .mapping else .sequence

mutual

/-- The text of a scalar; of a mapping, that under its value key. -/
def content : Tree → Except Failure String
  | scalar _ _ text => .ok text
  | mapping _ entries => contentAmong entries
  | sequence _ _ => malformed
  | loop _ => malformed

def contentAmong : List (Tree × Tree) → Except Failure String
  | [] => malformed
  | (key, value) :: rest => if key.tagOf == .value then content value else contentAmong rest

end

/-- Values that can be keys; those that hold others and may change cannot. -/
def isKey : Data → Bool
  | .list _ => false
  | .map _ => false
  | .collection _ => false
  | .loop _ _ => false
  | .pair a b => isKey a && isKey b
  | _ => true

/-- The scalar that a tag makes of a text. -/
def scalarOf (tag : Tag) (text : String) : Except Failure Data :=
  match tag with
  | .null => .ok .null
  | .bool => (boolOf text).map .bool
  | .int => (intOf text).map .int
  | .real => (realOf text).map .real
  | .time => timeOf text
  | .binary => (Base64.read text).map .bytes
  | .text => .ok (.text text)
  | _ => malformed

/-- The entries that a mapping takes in, and its own. -/
structure Entries where
  merged : List (Data × Data)
  own : List (Data × Data)

namespace Entries

def none : Entries := ⟨[], []⟩

def all (entries : Entries) : List (Data × Data) := entries.merged ++ entries.own

end Entries

def keysOf : Data → List Data
  | .map entries => entries.map Prod.fst
  | _ => []

mutual

/-- The value of a tree. -/
def value : Tree → Except Failure Data
  | scalar tag plain text => scalarOf (scalar tag plain text).tagOf text
  | sequence tag items =>
    match (sequence tag items).tagOf with
    | .sequence => (values items).map .list
    | .orderedMap => (pairs items).map .list
    | .pairs => (pairs items).map .list
    | _ => malformed
  | mapping tag entries =>
    match (mapping tag entries).tagOf with
    | .mapping => (entriesOf entries).map fun entries => Data.mapOf entries.all
    | .set => (entriesOf entries).map fun entries => .collection (keysOf (Data.mapOf entries.all))
    | tag => do scalarOf tag (← contentAmong entries)
  | loop isMapping => .ok (.loop isMapping (if isMapping then "\x7b...\x7d" else "[...]"))

def values : List Tree → Except Failure (List Data)
  | [] => .ok []
  | item :: rest => do
    let first ← value item
    let others ← values rest
    return first :: others

/-- The entries of mappings that have one each. -/
def pairs : List Tree → Except Failure (List Data)
  | [] => .ok []
  | mapping _ [(key, second)] :: rest => do
    let first ← value key
    let second ← value second
    let others ← pairs rest
    return .pair first second :: others
  | _ :: _ => malformed

/-- A key under the value mark is a plain text. -/
def entriesOf : List (Tree × Tree) → Except Failure Entries
  | [] => .ok .none
  | (key, entry) :: rest => do
    if key.tagOf == .merge then
      let merged ← taken entry
      let more ← entriesOf rest
      return ⟨merged ++ more.merged, more.own⟩
    else
      let name ← if key.tagOf == .value then key.content.map .text else value key
      if isKey name then
        let first ← value entry
        let more ← entriesOf rest
        return ⟨more.merged, (name, first) :: more.own⟩
      else malformed

/-- The entries that a merged value gives: a mapping, or several of which the first wins. What it
is merged into gives none. -/
def taken : Tree → Except Failure (List (Data × Data))
  | mapping _ entries => (entriesOf entries).map Entries.all
  | sequence _ items => takenLastFirst items
  | scalar _ _ _ => malformed
  | loop _ => .ok []

def takenLastFirst : List Tree → Except Failure (List (Data × Data))
  | [] => .ok []
  | mapping _ entries :: rest => do
    let first ← entriesOf entries
    let later ← takenLastFirst rest
    return later ++ first.all
  | loop true :: rest => takenLastFirst rest
  | _ :: _ => malformed

end

end Tree

end InputPanel.Yaml
