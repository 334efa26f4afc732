import InputPanel.Store

/-!
# References to variables in text

A reference is `${name}`, with a non-empty name of letters, digits, dots, dashes
and underscores, or `$name`, with the longest name that begins with a letter or
an underscore and goes on with letters, digits and underscores. Only ASCII
letters and digits count. Text is read once from the left; what a reference is
replaced by is not read again, and a reference to an unset name stays.
-/

namespace InputPanel.Expansion

/-- Characters of a name in braces. -/
def isBracedChar (c : Char) : Bool := c.isAlphanum || c = '_' || c = '.' || c = '-'

def isBareStart (c : Char) : Bool := c.isAlpha || c = '_'

def isBareChar (c : Char) : Bool := c.isAlphanum || c = '_'

/-- A name and its closing brace, if the text begins with these. -/
def bracedName? (s : List Char) : Option (List Char × List Char) :=
  if (s.takeWhile isBracedChar).isEmpty then none
  else
    match s.dropWhile isBracedChar with
    | '}' :: rest => some (s.takeWhile isBracedChar, rest)
    | _ => none

def bareName? : List Char → Option (List Char × List Char)
  | [] => none
  | c :: rest =>
    if isBareStart c then some (c :: rest.takeWhile isBareChar, rest.dropWhile isBareChar)
    else none

/-- The name that a dollar sign before this text refers to, the spelling after the dollar sign,
and the text that follows. -/
def referenceAfterDollar? (s : List Char) : Option (List Char × List Char × List Char) :=
  match s with
  | '{' :: inner =>
    (bracedName? inner).map fun (name, rest) => (name, '{' :: name ++ ['}'], rest)
  | _ => (bareName? s).map fun (name, rest) => (name, name, rest)

theorem length_rest_bracedName {s name rest : List Char} (h : bracedName? s = some (name, rest)) :
    rest.length < s.length := by
  unfold bracedName? at h
  have bound : (s.dropWhile isBracedChar).length ≤ s.length :=
    (List.dropWhile_sublist isBracedChar).length_le
  split at h
  · simp at h
  · split at h
    · next after following =>
      simp only [Option.some.injEq, Prod.mk.injEq] at h
      simp only [following, List.length_cons, h.2] at bound
      omega
    · simp at h

theorem length_rest_bareName {s name rest : List Char} (h : bareName? s = some (name, rest)) :
    rest.length < s.length := by
  cases s with
  | nil => simp [bareName?] at h
  | cons c tail =>
    have bound : (tail.dropWhile isBareChar).length ≤ tail.length :=
      (List.dropWhile_sublist isBareChar).length_le
    simp only [bareName?] at h
    split at h
    · simp only [Option.some.injEq, Prod.mk.injEq] at h
      simp only [List.length_cons, ← h.2]
      omega
    · simp at h

theorem length_rest_reference {s name spelling rest : List Char}
    (h : referenceAfterDollar? s = some (name, spelling, rest)) : rest.length ≤ s.length := by
  unfold referenceAfterDollar? at h
  split at h
  · simp only [Option.map_eq_some_iff, Prod.mk.injEq] at h
    obtain ⟨⟨n, r⟩, found, _, _, same⟩ := h
    subst same
    have := length_rest_bracedName found
    simp only [List.length_cons]
    omega
  · simp only [Option.map_eq_some_iff, Prod.mk.injEq] at h
    obtain ⟨⟨n, r⟩, found, _, _, same⟩ := h
    subst same
    exact Nat.le_of_lt (length_rest_bareName found)

/-- A stretch of text: one literal character, or a reference with its spelling. -/
inductive Piece where
  | literal (c : Char)
  | reference (name spelling : List Char)
deriving DecidableEq, Repr

/-- The text read from the left, each reference taken whole. -/
def pieces (s : List Char) : List Piece :=
  match s with
  | [] => []
  | c :: rest =>
    if c = '$' then
      match h : referenceAfterDollar? rest with
      | some (name, spelling, after) =>
        have : after.length < rest.length + 1 := Nat.lt_succ_of_le (length_rest_reference h)
        .reference name ('$' :: spelling) :: pieces after
      | none => .literal c :: pieces rest
    else .literal c :: pieces rest
termination_by s.length

/-- What a piece stands for; an unset name keeps its spelling. -/
def Piece.render (lookup : String → Option String) : Piece → List Char
  | .literal c => [c]
  | .reference name spelling =>
    match lookup (String.ofList name) with
    | some value => value.toList
    | none => spelling

end Expansion

/-- The text with every reference to a set variable replaced by its value. -/
def Store.expand (store : Store) (text : String) : String :=
  String.ofList ((Expansion.pieces text.toList).flatMap (Expansion.Piece.render store.get?))

end InputPanel
