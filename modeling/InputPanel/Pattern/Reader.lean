import InputPanel.Failure
import InputPanel.Number.Integer
import InputPanel.Pattern.Expr
import InputPanel.Text.Identifier

/-!
# Reading patterns

The text of a pattern is read as plain characters and escapes. Groups are
numbered in the order in which they open; a reference needs a group that is
closed. Options for the whole pattern stand at its start. A brace that begins
no repetition is a plain character.
-/

namespace InputPanel.Pattern

open Text

/-- A character of the text, or a backslash with the character after it. -/
inductive Piece where
  | plain (char : Char)
  | escaped (char : Char)
deriving DecidableEq, Repr

def Piece.text : Piece → List Char
  | plain c => [c]
  | escaped c => ['\\', c]

/-- The pieces of a text; a backslash must not come last. -/
def pieces : List Char → Except Failure (List Piece)
  | [] => .ok []
  | ['\\'] => .error .badPattern
  | '\\' :: c :: rest => (pieces rest).map (.escaped c :: ·)
  | c :: rest => (pieces rest).map (.plain c :: ·)

/-- What has been read so far. -/
structure Reading where
  rest : List Piece
  groups : Nat := 0
  closed : List (Nat × Width) := []
  names : List (String × Nat) := []
  /-- Inside a look behind, how many groups were open or closed before it. -/
  behindLimit : Option Nat := none
  tested : List Nat := []
  flags : List Char := []
  refused : Bool := false

abbrev Reader := StateT Reading (Except Failure)

def bad {α : Type} : Reader α := throw .badPattern

def next? : Reader (Option Piece) := return (← get).rest.head?

def take? : Reader (Option Piece) := do
  let state ← get
  set { state with rest := state.rest.tail }
  return state.rest.head?

def take : Reader Piece := do
  match ← take? with
  | some piece => return piece
  | none => bad

/-- Passes a plain character if it comes next. -/
def passes (c : Char) : Reader Bool := do
  if (← next?) = some (.plain c) then
    let _ ← take?
    return true
  else return false

def expect (c : Char) : Reader Unit := do
  unless ← passes c do bad

/-- The plain characters that come next and satisfy a test, up to a count. -/
def takeUpTo (p : Char → Bool) : Nat → Reader (List Char)
  | 0 => return []
  | n + 1 => do
    match ← next? with
    | some (.plain c) =>
      if p c then
        let _ ← take?
        return c :: (← takeUpTo p n)
      else return []
    | _ => return []

def takeAll (p : Char → Bool) : Reader (List Char) := do
  takeUpTo p (← get).rest.length

def takeTextTo (finish : Char) : List Piece → Reader (List Char)
  | [] => bad
  | piece :: rest => do
    let _ ← take?
    if piece = .plain finish then return []
    else return piece.text ++ (← takeTextTo finish rest)

/-- The text up to a closing character, which is passed; it must not be empty. -/
def takeName (finish : Char) : Reader String := do
  let name ← takeTextTo finish (← get).rest
  if name.isEmpty then bad else return String.ofList name

def isOctal (c : Char) : Bool := '0' ≤ c && c ≤ '7'

def octalValue (digits : List Char) : Nat :=
  digits.foldl (fun n c => n * 8 + (c.toNat - 48)) 0

def decimalValue (digits : List Char) : Nat :=
  digits.foldl (fun n c => n * 10 + (c.toNat - 48)) 0

def hexEscape (width : Nat) : Reader Nat := do
  let digits ← takeUpTo (fun c => (hexValue? c).isSome) width
  match hexNumber? digits with
  | some code => if digits.length = width then return code else bad
  | none => bad

def controlCode? : Char → Option Nat
  | 'a' => some 7
  | 'b' => some 8
  | 't' => some 9
  | 'n' => some 10
  | 'v' => some 11
  | 'f' => some 12
  | 'r' => some 13
  | _ => none

def category? : Char → Option Member
  | 'd' => some (.category .digit false)
  | 'D' => some (.category .digit true)
  | 's' => some (.category .blank false)
  | 'S' => some (.category .blank true)
  | 'w' => some (.category .word false)
  | 'W' => some (.category .word true)
  | _ => none

def anchor? : Char → Option Anchor
  | 'A' => some .start
  | 'Z' => some .finish
  | 'b' => some .boundary
  | 'B' => some .noBoundary
  | _ => none

/-- The code point that an escape with no other meaning stands for. -/
def codeEscape (c : Char) : Reader Nat := do
  match controlCode? c with
  | some code => return code
  | none =>
    match c with
    | 'x' => hexEscape 2
    | 'u' => hexEscape 4
    | 'U' =>
      let code ← hexEscape 8
      if code < 0x110000 then return code else bad
    | _ => if c.isAlphanum then bad else return c.toNat

def memberEscape (c : Char) : Reader Member := do
  match category? c with
  | some member => return member
  | none =>
    if isOctal c then
      let code := octalValue (c :: (← takeUpTo isOctal 2))
      if code ≤ 0o377 then return .one code else bad
    else return .one (← codeEscape c)

/-- Refuses a group that is not closed or, inside a look behind, did not come before it. -/
def checkBehind (index : Nat) : Reader Unit := do
  let state ← get
  match state.behindLimit with
  | none => return ()
  | some limit =>
    if (state.closed.lookup index).isNone || limit < index then bad

def groupAgain (index : Nat) : Reader Pattern := do
  if ((← get).closed.lookup index).isNone then bad
  checkBehind index
  return .again index

/-- An escape that begins with a digit other than zero: three octal digits, or a group. -/
def digitEscape (c : Char) : Reader Pattern := do
  match ← takeUpTo Char.isDigit 1 with
  | [d] =>
    let third ← if isOctal c && isOctal d then takeUpTo isOctal 1 else pure []
    if third.isEmpty then groupAgain (decimalValue [c, d])
    else
      let code := octalValue (c :: d :: third)
      if code ≤ 0o377 then return literal code else bad
  | _ => groupAgain (decimalValue [c])

def escape (c : Char) : Reader Pattern := do
  match anchor? c, category? c with
  | some a, _ => return .anchor a
  | none, some member => return .oneOf false [member]
  | none, none =>
    if c = '0' then return literal (octalValue (← takeUpTo isOctal 2))
    else if c.isDigit then digitEscape c
    else return literal (← codeEscape c)

def member : Piece → Reader Member
  | .plain c => return .one c.toNat
  | .escaped c => memberEscape c

/-- The members of a class up to its closing bracket; the first may be a bracket itself. -/
def members : Nat → List Member → Reader (List Member)
  | 0, _ => bad
  | fuel + 1, acc => do
    let this ← take
    if this = .plain ']' ∧ !acc.isEmpty then return acc.reverse
    let first ← member this
    if ← passes '-' then
      let that ← take
      if that = .plain ']' then return (.one '-'.toNat :: first :: acc).reverse
      match first, ← member that with
      | .one lo, .one hi => if hi < lo then bad else members fuel (.range lo hi :: acc)
      | _, _ => bad
    else members fuel (first :: acc)

def characterClass : Reader Pattern := do
  let negated ← passes '^'
  return .oneOf negated (← members ((← get).rest.length + 1) [])

/-- Counts at or above this are refused. -/
def repeatLimit : Nat := 4294967295

/-- The counts of a repetition that a brace begins; none if it is a plain brace. -/
def bracedCounts : Reader (Option (Nat × Option Nat)) := do
  if (← next?) = some (.plain '\x7d') then return none
  let saved ← get
  let lo ← takeAll Char.isDigit
  let hi ← if ← passes ',' then takeAll Char.isDigit else pure lo
  if ← passes '\x7d' then
    let least := decimalValue lo
    let most := if hi.isEmpty then none else some (decimalValue hi)
    if least ≥ repeatLimit then throw .outOfRange
    if most.any (· ≥ repeatLimit) then throw .outOfRange
    if most.any (· < least) then bad
    return some (least, most)
  else
    set saved
    return none

/-- The counts of a repetition that a character begins. -/
def counts? : Char → Reader (Option (Nat × Option Nat))
  | '?' => return some (0, some 1)
  | '*' => return some (0, none)
  | '+' => return some (1, none)
  | '\x7b' => bracedCounts
  | _ => return none

/-- Repeats the item read last. -/
def repeatLast (counts : Nat × Option Nat) : List Pattern → Reader (List Pattern)
  | [] => bad
  | .anchor _ :: _ => bad
  | .repeated _ _ _ _ :: _ => bad
  | item :: items => do
    let isLazy ← passes '?'
    let isPossessive ← if isLazy then pure false else passes '+'
    let eagerness := if isLazy then .lazy else if isPossessive then .possessive else .greedy
    modify fun state => { state with refused := state.refused || state.flags.contains 't' }
    return .repeated eagerness counts.1 counts.2 item :: items

def isFlag (c : Char) : Bool := ['i', 'L', 'm', 's', 'x', 'a', 't', 'u'].contains c

def flagPiece (stops : List Char) : Reader Char := do
  match ← take with
  | .plain c => if stops.contains c || isFlag c then return c else bad
  | .escaped _ => bad

/-- The flags that are turned on, and the character that ends them. -/
def flagsOn : Nat → List Char → Char → Reader (List Char × Char)
  | 0, _, _ => bad
  | fuel + 1, acc, c => do
    let acc := c :: acc
    if c = 'L' ∨ (acc.contains 'a' ∧ acc.contains 'u') then bad
    let c ← flagPiece [')', '-', ':']
    if isFlag c then flagsOn fuel acc c else return (acc, c)

def flagsOff : Nat → List Char → Reader (List Char)
  | 0, _ => bad
  | fuel + 1, acc => do
    let c ← flagPiece (if acc.isEmpty then [] else [':'])
    if c = ':' then return acc
    if ['a', 'u', 'L'].contains c then bad
    flagsOff fuel (c :: acc)

def optionsOf (flags : List Char) : Options :=
  ⟨flags.contains 'i', flags.contains 'm', flags.contains 's', flags.contains 'a'⟩

/-- The flags that a group sets: for the whole pattern, or on and off inside the group. -/
def groupFlags (first : Char) : Reader (List Char × Option (List Char)) := do
  let fuel := (← get).rest.length + 2
  let (on, stop) ← if first = '-' then pure ([], '-') else flagsOn fuel [] first
  if stop = ')' then return (on, none)
  if on.contains 't' then bad
  let off ← if stop = '-' then flagsOff fuel [] else pure []
  if off.contains 't' || on.any off.contains then bad
  return (on, some off)

def changeOf (on off : List Char) : Change :=
  ⟨optionsOf on, optionsOf off,
    if on.contains 'a' then some true else if on.contains 'u' then some false else none⟩

def openGroup (name : Option String) : Reader Nat := do
  let state ← get
  let index := state.groups + 1
  match name with
  | none => set { state with groups := index }
  | some name =>
    if (state.names.lookup name).isSome then bad
    set { state with groups := index, names := (name, index) :: state.names }
  return index

def Reading.widthOf (state : Reading) (index : Nat) : Width :=
  (state.closed.lookup index).getD (.exactly 0)

def closeGroup (index : Nat) (body : Pattern) : Reader Unit :=
  modify fun state =>
    { state with closed := (index, body.width state.widthOf) :: state.closed }

def checkedName (name : String) : Reader String :=
  if isIdentifier name.toList then return name else bad

def namedGroup (name : String) : Reader Nat := do
  match (← get).names.lookup name with
  | some index => return index
  | none => bad

/-- The group that a conditional tests, by its name or number. -/
def testedGroup (name : String) : Reader Nat := do
  if isIdentifier name.toList then namedGroup name
  else
    match Number.readInt name.toList with
    | some n =>
      if n ≤ 0 then bad
      modify fun state => { state with tested := n.toNat :: state.tested }
      return n.toNat
    | none => bad

def skipComment : List Piece → Reader Unit
  | [] => bad
  | piece :: rest => do
    let _ ← take?
    if piece = .plain ')' then return () else skipComment rest

def skipLine : List Piece → Reader Unit
  | [] => return ()
  | piece :: rest => do
    let _ ← take?
    if piece = .plain '\n' then return () else skipLine rest

def isSkipped (c : Char) : Bool := c == ' ' || (9 ≤ c.toNat && c.toNat ≤ 13)

mutual

/-- Alternatives up to the end of the group or of the text. -/
def alternatives (fuel : Nat) (nested verbose first : Bool) : Reader Pattern := do
  match fuel with
  | 0 => bad
  | fuel + 1 =>
    let items ← sequence fuel verbose first []
    if ← passes '|' then
      let flags := (← get).flags
      let verbose := if nested then verbose else flags.contains 'x'
      return .either items (← alternatives fuel nested verbose false)
    else return items

/-- Items up to a bar, the end of the group or of the text; `acc` holds those read, latest first. -/
def sequence (fuel : Nat) (verbose first : Bool) (acc : List Pattern) : Reader Pattern := do
  match fuel with
  | 0 => bad
  | fuel + 1 =>
    let state ← get
    match state.rest with
    | [] => return ofList acc.reverse
    | .escaped c :: rest =>
      set { state with rest }
      sequence fuel verbose first ((← escape c) :: acc)
    | .plain c :: rest =>
      if c = '|' ∨ c = ')' then return ofList acc.reverse
      set { state with rest }
      if verbose && isSkipped c then sequence fuel verbose first acc
      else if verbose && c = '#' then
        skipLine rest
        sequence fuel verbose first acc
      else
        match c with
        | '.' => sequence fuel verbose first (.any :: acc)
        | '^' => sequence fuel verbose first (.anchor .lineStart :: acc)
        | '$' => sequence fuel verbose first (.anchor .lineEnd :: acc)
        | '[' => sequence fuel verbose first ((← characterClass) :: acc)
        | '(' =>
          match ← group? fuel verbose (first && acc.isEmpty) with
          | some item => sequence fuel verbose first (item :: acc)
          | none => do
            let flags := (← get).flags
            sequence fuel (verbose || flags.contains 'x') first acc
        | _ =>
          match ← counts? c with
          | some counts => sequence fuel verbose first (← repeatLast counts acc)
          | none =>
            if ['?', '*', '+'].contains c then bad
            else sequence fuel verbose first (literal c.toNat :: acc)

/-- What an opening bracket begins; nothing for a comment and for options of the whole pattern. -/
def group? (fuel : Nat) (verbose first : Bool) : Reader (Option Pattern) := do
  match fuel with
  | 0 => bad
  | fuel + 1 =>
    if ← passes '?' then
      match ← take with
      | .plain 'P' =>
        if ← passes '<' then
          let name ← checkedName (← takeName '>')
          capture fuel verbose (some name)
        else
          expect '='
          let index ← namedGroup (← checkedName (← takeName ')'))
          return some (← groupAgain index)
      | .plain ':' => enclosed fuel verbose (.within (changeOf [] []))
      | .plain '>' => enclosed fuel verbose .atomic
      | .plain '#' =>
        skipComment (← get).rest
        return none
      | .plain '=' => enclosed fuel verbose (.ahead false)
      | .plain '!' => enclosed fuel verbose (.ahead true)
      | .plain '<' =>
        let negated ← if ← passes '!' then pure true else do expect '='; pure false
        let limit := (← get).behindLimit
        modify fun state => { state with behindLimit := some (limit.getD state.groups) }
        let body ← alternatives fuel true verbose false
        modify fun state => { state with behindLimit := limit }
        expect ')'
        let width := body.width (← get).widthOf
        modify fun state => { state with refused := state.refused || !width.isFixed }
        return some (.behind width.least negated body)
      | .plain '(' =>
        let index ← testedGroup (← takeName ')')
        checkBehind index
        let whenSet ← sequence fuel verbose false []
        let otherwise ← if ← passes '|' then sequence fuel verbose false [] else pure .nothing
        expect ')'
        return some (.ifGroup index whenSet otherwise)
      | .plain c =>
        if isFlag c || c = '-' then
          match ← groupFlags c with
          | (on, none) =>
            if !first then bad
            modify fun state => { state with flags := on ++ state.flags }
            return none
          | (on, some off) =>
            let verbose := (verbose || on.contains 'x') && !off.contains 'x'
            enclosed fuel verbose (.within (changeOf on off))
        else bad
      | .escaped _ => bad
    else capture fuel verbose none

def capture (fuel : Nat) (verbose : Bool) (name : Option String) : Reader (Option Pattern) := do
  match fuel with
  | 0 => bad
  | fuel + 1 =>
    let index ← openGroup name
    let body ← alternatives fuel true verbose false
    expect ')'
    closeGroup index body
    return some (.group index body)

/-- A group that is closed and made into an item. -/
def enclosed (fuel : Nat) (verbose : Bool) (item : Pattern → Pattern) :
    Reader (Option Pattern) := do
  match fuel with
  | 0 => bad
  | fuel + 1 =>
    let body ← alternatives fuel true verbose false
    expect ')'
    return some (item body)

end

/-- A whole pattern with the options that it sets for itself. -/
def whole : Reader (Pattern × Options) := do
  let pattern ← alternatives (6 * (← get).rest.length + 6) false false true
  let state ← get
  if state.flags.contains 'a' && state.flags.contains 'u' then throw .badValue
  if !state.rest.isEmpty || state.tested.any (state.groups < ·) || state.refused then bad
  return (pattern, optionsOf state.flags)

/-- The pattern that a text spells, with its options. -/
def read (text : List Char) : Except Failure (Pattern × Options) := do
  let rest ← pieces text
  let (result, _) ← whole.run { rest }
  return result

end InputPanel.Pattern
