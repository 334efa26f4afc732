import InputPanel.Condition.Literal

/-!
# Replacement parts of formatted text

A formatted text holds expressions in braces, each perhaps with a conversion
and a format that may hold expressions again, two levels deep. Only whether
all this is well formed matters, and which expressions it holds.
-/

namespace InputPanel.Condition.Formatted

open Text

/-- The end of an expression in braces: its source, and the text from the mark that ends it.
`quote` is the quote that is open, if any, and whether it is a triple one. -/
def expressionEnd : Nat → Option (Char × Bool) → List Char → List Char →
    Option (List Char × List Char)
  | 0, _, _, _ => none
  | _ + 1, _, _, [] => none
  | _ + 1, _, _, '\\' :: _ => none
  | fuel + 1, some (quote, triple), awaited, c :: rest =>
    if c = quote then
      if triple then
        match rest with
        | d :: e :: after =>
          if d = quote ∧ e = quote then
            (expressionEnd fuel none awaited after).map fun (s, t) => (c :: d :: e :: s, t)
          else
            (expressionEnd fuel (some (quote, triple)) awaited rest).map fun (s, t) => (c :: s, t)
        | _ => none
      else (expressionEnd fuel none awaited rest).map fun (s, t) => (c :: s, t)
    else (expressionEnd fuel (some (quote, triple)) awaited rest).map fun (s, t) => (c :: s, t)
  | fuel + 1, none, awaited, c :: rest =>
    let goOn := fun awaited rest =>
      (expressionEnd fuel none awaited rest).map fun (s, t) => (c :: s, t)
    if c = '\'' ∨ c = '"' then
      match rest with
      | d :: e :: after =>
        if d = c ∧ e = c then
          (expressionEnd fuel (some (c, true)) awaited after).map fun (s, t) =>
            (c :: d :: e :: s, t)
        else (expressionEnd fuel (some (c, false)) awaited rest).map fun (s, t) => (c :: s, t)
      | _ => (expressionEnd fuel (some (c, false)) awaited rest).map fun (s, t) => (c :: s, t)
    else if c = '(' then goOn (')' :: awaited) rest
    else if c = '[' then goOn (']' :: awaited) rest
    else if c = '\x7b' then goOn ('\x7d' :: awaited) rest
    else if c = '#' then none
    else if awaited.isEmpty && ['!', ':', '\x7d', '=', '<', '>'].contains c then
      match rest with
      | '=' :: after =>
        if ['!', '=', '<', '>'].contains c then
          (expressionEnd fuel none awaited after).map fun (s, t) => (c :: '=' :: s, t)
        else some ([], c :: rest)
      | _ => if c = '<' ∨ c = '>' then goOn awaited rest else some ([], c :: rest)
    else if c = ')' ∨ c = ']' ∨ c = '\x7d' then
      match awaited with
      | expected :: others => if c = expected then goOn others rest else none
      | [] => none
    else goOn awaited rest

/-- After an expression: a sign of equality, a conversion. What follows is a format or the brace. -/
def afterExpression (s : List Char) : Option (List Char) :=
  let s := match s with
    | '=' :: rest => rest.dropWhile isBlank
    | _ => s
  match s with
  | '!' :: c :: rest => if c = 's' ∨ c = 'r' ∨ c = 'a' then some rest else none
  | '!' :: [] => none
  | _ => some s

/-- The expressions of a formatted text and what is left of it; at a level above zero a closing
brace ends the text. The literal stretches are checked for their escapes. -/
def parts (raw : Bool) : Nat → Nat → List Char → List Char → Option (List (List Char) × List Char)
  | 0, _, _, _ => none
  | _ + 1, _, literal, [] => if wellEscaped literal then some ([], []) else none
  | fuel + 1, level, literal, '\x7b' :: rest =>
    match level, rest with
    | 0, '\x7b' :: after => parts raw fuel level ('\x7b' :: literal) after
    | _, _ =>
      if 2 ≤ level || !wellEscaped literal then none
      else do
        let (source, after) ← expressionEnd (rest.length + 1) none [] rest
        if source.all isBlank then none
        else do
          let after ← afterExpression after
          match after with
          | '\x7d' :: more =>
            let (others, left) ← parts raw fuel level [] more
            return (source :: others, left)
          | ':' :: format =>
            let (inner, left) ← parts raw fuel (level + 1) [] format
            match left with
            | '\x7d' :: more =>
              let (others, left) ← parts raw fuel level [] more
              return (source :: inner ++ others, left)
            | _ => none
          | _ => none
  | fuel + 1, 0, literal, '\x7d' :: rest =>
    match rest with
    | '\x7d' :: after => parts raw fuel 0 ('\x7d' :: literal) after
    | _ => none
  | _ + 1, _ + 1, literal, '\x7d' :: rest =>
    if wellEscaped literal then some ([], '\x7d' :: rest) else none
  | fuel + 1, level, literal, '\\' :: c :: rest =>
    if raw || c == '\x7b' || c == '\x7d' then parts raw fuel level ('\\' :: literal) (c :: rest)
    else parts raw fuel level (c :: '\\' :: literal) rest
  | fuel + 1, level, literal, c :: rest => parts raw fuel level (c :: literal) rest
where
  /-- `literal` is the stretch read so far, last character first. -/
  wellEscaped (literal : List Char) : Bool :=
    raw || (unescape true (literal.length + 1) literal.reverse).isSome

/-- The sources of the expressions in a formatted text. -/
def sources? (raw : Bool) (body : List Char) : Option (List (List Char)) :=
  match parts raw (2 * body.length + 2) 0 [] body with
  | some (sources, []) => some sources
  | _ => none

end InputPanel.Condition.Formatted
