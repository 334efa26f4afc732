import InputPanel.Condition.Expr
import InputPanel.Condition.Formatted
import InputPanel.Condition.Token

/-!
# The grammar of condition expressions

The whole expression language is read, so that an expression that may not be
evaluated is told apart from one that is not well formed. Elements that no
condition may hold are read for their form and kept as their kind alone.
Every reader takes a bound on its depth, which the length of the text supplies.
-/

namespace InputPanel.Condition.Grammar

/-- An expression as read, and whether it could be the target of a loop. -/
structure Parsed where
  expr : Expr
  target : Bool := false

abbrev Reader (α : Type) := List Token → Option (α × List Token)

def element (e : Element) : Parsed := ⟨.unsupported e, false⟩

/-- Symbols between operands, apart from comparisons; how tightly each binds makes no difference to
what is well formed. -/
def binarySymbols : List String :=
  ["|", "^", "&", "<<", ">>", "+", "-", "*", "/", "//", "%", "@"]

def comparison? : Reader CompareOp
  | .op "==" :: rest => some (.eq, rest)
  | .op "!=" :: rest => some (.ne, rest)
  | .op "<" :: rest => some (.lt, rest)
  | .op "<=" :: rest => some (.le, rest)
  | .op ">" :: rest => some (.gt, rest)
  | .op ">=" :: rest => some (.ge, rest)
  | .keyword "not" :: .keyword "in" :: rest => some (.notMem, rest)
  | .keyword "in" :: rest => some (.mem, rest)
  | .keyword "is" :: .keyword "not" :: rest => some (.isNot, rest)
  | .keyword "is" :: rest => some (.is, rest)
  | _ => none

def expect (symbol : String) : Reader Unit
  | .op s :: rest => if s = symbol then some ((), rest) else none
  | _ => none

def beginsClause : List Token → Bool
  | .keyword "for" :: _ => true
  | .keyword "async" :: .keyword "for" :: _ => true
  | _ => false

/-- The parameters of a function so far. -/
structure Parameters where
  named : Bool := false
  slash : Bool := false
  star : Bool := false
  /-- a bare star still waits for a name -/
  bare : Bool := false
  defaulted : Bool := false

/-- The arguments of a call so far, last first. -/
structure Arguments where
  positional : List Expr := []
  keyword : Bool := false
  mapping : Bool := false

/-- The texts of adjacent literals; bytes do not mix with text. -/
def joinTexts : List Token → Option (Constant ⊕ Unit) × List Token
  | tokens => go none tokens
where
  go (held : Option (Constant ⊕ Unit)) : List Token → Option (Constant ⊕ Unit) × List Token
    | .text s :: rest =>
      match held with
      | none => go (some (.inl (.text s))) rest
      | some (.inl (.text t)) => go (some (.inl (.text (t ++ s)))) rest
      | some (.inr ()) => go (some (.inr ())) rest
      | _ => (none, [])
    | .bytes b :: rest =>
      match held with
      | none => go (some (.inl (.bytes b))) rest
      | some (.inl (.bytes c)) => go (some (.inl (.bytes (c ++ b)))) rest
      | _ => (none, [])
    | .formatted raw body :: rest =>
      match held with
      | some (.inl (.bytes _)) => (none, [])
      | _ => if (Formatted.sources? raw body).isSome then go (some (.inr ())) rest else (none, [])
    | rest => (held, rest)

/-- The formatted texts among adjacent literals. -/
def formattedSources : List Token → List (List Char)
  | .text _ :: rest => formattedSources rest
  | .formatted raw body :: rest => (Formatted.sources? raw body).getD [] ++ formattedSources rest
  | _ => []

mutual

def expression : Nat → Reader Parsed
  | 0, _ => none
  | fuel + 1, tokens =>
    match tokens with
    | .keyword "lambda" :: rest => do
      let ((), rest) ← parameters fuel {} rest
      let ((), rest) ← expect ":" rest
      let (_, rest) ← expression fuel rest
      return (element .function, rest)
    | _ => do
      let (value, rest) ← disjunction fuel tokens
      match rest with
      | .keyword "if" :: rest =>
        let (_, rest) ← disjunction fuel rest
        match rest with
        | .keyword "else" :: rest =>
          let (_, rest) ← expression fuel rest
          return (element .conditional, rest)
        | _ => none
      | _ => return (value, rest)

/-- An expression that may give its value a name. -/
def namedExpression : Nat → Reader Parsed
  | 0, _ => none
  | fuel + 1, .name _ :: .op ":=" :: rest => do
    let (_, rest) ← expression fuel rest
    return (element .assignment, rest)
  | fuel + 1, tokens => expression fuel tokens

/-- A named expression, or a starred operand. -/
def starredNamed : Nat → Reader Parsed
  | 0, _ => none
  | fuel + 1, .op "*" :: rest => do
    let (operand, rest) ← arithmetic fuel rest
    return (⟨.unsupported .starred, operand.target⟩, rest)
  | fuel + 1, tokens => namedExpression fuel tokens

/-- An expression, or a starred operand. -/
def starredExpression : Nat → Reader Parsed
  | 0, _ => none
  | fuel + 1, .op "*" :: rest => do
    let (operand, rest) ← arithmetic fuel rest
    return (⟨.unsupported .starred, operand.target⟩, rest)
  | fuel + 1, tokens => expression fuel tokens

def disjunction : Nat → Reader Parsed
  | 0, _ => none
  | fuel + 1, tokens => do
    let (first, rest) ← conjunction fuel tokens
    match rest with
    | .keyword "or" :: _ =>
      let (others, rest) ← moreDisjuncts fuel rest
      return (⟨.boolean .or (first.expr :: others), false⟩, rest)
    | _ => return (first, rest)

def moreDisjuncts : Nat → Reader (List Expr)
  | 0, _ => none
  | fuel + 1, .keyword "or" :: rest => do
    let (operand, rest) ← conjunction fuel rest
    let (others, rest) ← moreDisjuncts fuel rest
    return (operand.expr :: others, rest)
  | _ + 1, tokens => some ([], tokens)

def conjunction : Nat → Reader Parsed
  | 0, _ => none
  | fuel + 1, tokens => do
    let (first, rest) ← inversion fuel tokens
    match rest with
    | .keyword "and" :: _ =>
      let (others, rest) ← moreConjuncts fuel rest
      return (⟨.boolean .and (first.expr :: others), false⟩, rest)
    | _ => return (first, rest)

def moreConjuncts : Nat → Reader (List Expr)
  | 0, _ => none
  | fuel + 1, .keyword "and" :: rest => do
    let (operand, rest) ← inversion fuel rest
    let (others, rest) ← moreConjuncts fuel rest
    return (operand.expr :: others, rest)
  | _ + 1, tokens => some ([], tokens)

def inversion : Nat → Reader Parsed
  | 0, _ => none
  | fuel + 1, .keyword "not" :: rest => do
    let (operand, rest) ← inversion fuel rest
    return (⟨.unary .not operand.expr, false⟩, rest)
  | fuel + 1, tokens => do
    let (first, rest) ← arithmetic fuel tokens
    match comparison? rest with
    | some _ =>
      let (links, rest) ← moreLinks fuel rest
      return (⟨.compare first.expr links, false⟩, rest)
    | none => return (first, rest)

def moreLinks : Nat → Reader (List (CompareOp × Expr))
  | 0, _ => none
  | fuel + 1, tokens =>
    match comparison? tokens with
    | none => some ([], tokens)
    | some (op, rest) => do
      let (operand, rest) ← arithmetic fuel rest
      let (links, rest) ← moreLinks fuel rest
      return ((op, operand.expr) :: links, rest)

def arithmetic : Nat → Reader Parsed
  | 0, _ => none
  | fuel + 1, tokens => do
    let (first, rest) ← factor fuel tokens
    match rest with
    | .op symbol :: more =>
      if binarySymbols.contains symbol then
        let (_, rest) ← arithmetic fuel more
        return (element .binary, rest)
      else return (first, rest)
    | _ => return (first, rest)

def factor : Nat → Reader Parsed
  | 0, _ => none
  | fuel + 1, .op "+" :: rest => do
    let (operand, rest) ← factor fuel rest
    return (⟨.unary .plus operand.expr, false⟩, rest)
  | fuel + 1, .op "-" :: rest => do
    let (operand, rest) ← factor fuel rest
    return (⟨.unary .minus operand.expr, false⟩, rest)
  | fuel + 1, .op "~" :: rest => do
    let (operand, rest) ← factor fuel rest
    return (⟨.unary .invert operand.expr, false⟩, rest)
  | fuel + 1, tokens => do
    let (base, rest) ← awaited fuel tokens
    match rest with
    | .op "**" :: rest =>
      let (_, rest) ← factor fuel rest
      return (element .binary, rest)
    | _ => return (base, rest)

def awaited : Nat → Reader Parsed
  | 0, _ => none
  | fuel + 1, .keyword "await" :: rest => do
    let (first, rest) ← atom fuel rest
    let (_, rest) ← trailers fuel first rest
    return (element .await, rest)
  | fuel + 1, tokens => do
    let (first, rest) ← atom fuel tokens
    trailers fuel first rest

/-- Members, calls and subscripts after an expression. -/
def trailers : Nat → Parsed → Reader Parsed
  | 0, _, _ => none
  | fuel + 1, _, .op "." :: .name _ :: rest => trailers fuel ⟨.unsupported .member, true⟩ rest
  | _ + 1, _, .op "." :: _ => none
  | fuel + 1, callee, .op "(" :: rest => do
    let (arguments, rest) ← arguments fuel {} rest
    let call := Expr.call callee.expr arguments.positional.reverse
      (arguments.keyword || arguments.mapping)
    trailers fuel ⟨call, false⟩ rest
  | fuel + 1, _, .op "[" :: rest => do
    let ((), rest) ← slices fuel rest
    trailers fuel ⟨.unsupported .subscript, true⟩ rest
  | _ + 1, callee, tokens => some (callee, tokens)

def atom : Nat → Reader Parsed
  | 0, _ => none
  | _ + 1, .name id :: rest => some (⟨.name id, true⟩, rest)
  | _ + 1, .number value :: rest => some (⟨.literal value, false⟩, rest)
  | _ + 1, .keyword "True" :: rest => some (⟨.literal (.bool true), false⟩, rest)
  | _ + 1, .keyword "False" :: rest => some (⟨.literal (.bool false), false⟩, rest)
  | _ + 1, .keyword "None" :: rest => some (⟨.literal .none, false⟩, rest)
  | _ + 1, .op "..." :: rest => some (⟨.literal .ellipsis, false⟩, rest)
  | fuel + 1, .op "(" :: rest => parenthesised fuel rest
  | fuel + 1, .op "[" :: rest => bracketed fuel rest
  | fuel + 1, .op "\x7b" :: rest => braced fuel rest
  | fuel + 1, tokens =>
    match joinTexts tokens with
    | (some (.inl value), rest) => some (⟨.literal value, false⟩, rest)
    | (some (.inr ()), rest) =>
      if replacements fuel (formattedSources tokens) then some (element .formatted, rest) else none
    | (none, _) => none

/-- Whether every source is well formed between parentheses. -/
def replacements : Nat → List (List Char) → Bool
  | 0, _ => false
  | _ + 1, [] => true
  | fuel + 1, source :: others =>
    match tokens? ('(' :: source ++ [')']) with
    | some (.op "(" :: tokens) =>
      match parenthesised fuel tokens with
      | some (_, [.lineEnd]) => replacements fuel others
      | _ => false
    | _ => false

/-- A row of starred expressions, at least one. -/
def starredRow : Nat → Reader Unit
  | 0, _ => none
  | fuel + 1, tokens => do
    let (_, rest) ← starredExpression fuel tokens
    match rest with
    | .op "," :: .op ")" :: more => return ((), .op ")" :: more)
    | .op "," :: rest => starredRow fuel rest
    | _ => return ((), rest)

def parenthesised : Nat → Reader Parsed
  | 0, _ => none
  | _ + 1, .op ")" :: rest => some (⟨.display [], true⟩, rest)
  | fuel + 1, .keyword "yield" :: .keyword "from" :: rest => do
    let (_, rest) ← expression fuel rest
    let ((), rest) ← expect ")" rest
    return (element .yieldFrom, rest)
  | _ + 1, .keyword "yield" :: .op ")" :: rest => some (element .yield, rest)
  | fuel + 1, .keyword "yield" :: rest => do
    let ((), rest) ← starredRow fuel rest
    let ((), rest) ← expect ")" rest
    return (element .yield, rest)
  | fuel + 1, tokens => do
    let starred := match tokens with
      | .op "*" :: _ => true
      | _ => false
    let (first, rest) ← starredNamed fuel tokens
    if beginsClause rest then
      if starred then none
      else
        let ((), rest) ← clauses fuel rest
        let ((), rest) ← expect ")" rest
        return (element .generator, rest)
    else
      match rest with
      | .op ")" :: rest => if starred then none else return (first, rest)
      | .op "," :: rest =>
        let (items, rest) ← moreItems fuel ")" rest
        return (⟨.display (first.expr :: items.map (·.expr)),
          first.target && items.all (·.target)⟩, rest)
      | _ => none

def bracketed : Nat → Reader Parsed
  | 0, _ => none
  | _ + 1, .op "]" :: rest => some (⟨.display [], true⟩, rest)
  | fuel + 1, tokens => do
    let starred := match tokens with
      | .op "*" :: _ => true
      | _ => false
    let (first, rest) ← starredNamed fuel tokens
    if beginsClause rest then
      if starred then none
      else
        let ((), rest) ← clauses fuel rest
        let ((), rest) ← expect "]" rest
        return (element .listComprehension, rest)
    else
      match rest with
      | .op "]" :: rest => return (⟨.display [first.expr], first.target⟩, rest)
      | .op "," :: rest =>
        let (items, rest) ← moreItems fuel "]" rest
        return (⟨.display (first.expr :: items.map (·.expr)),
          first.target && items.all (·.target)⟩, rest)
      | _ => none

/-- The items after a comma, up to the closing bracket. -/
def moreItems : Nat → String → Reader (List Parsed)
  | 0, _, _ => none
  | fuel + 1, close, tokens =>
    match expect close tokens with
    | some ((), rest) => some ([], rest)
    | none => do
      let (item, rest) ← starredNamed fuel tokens
      match rest with
      | .op "," :: rest =>
        let (items, rest) ← moreItems fuel close rest
        return (item :: items, rest)
      | _ =>
        let ((), rest) ← expect close rest
        return ([item], rest)

def braced : Nat → Reader Parsed
  | 0, _ => none
  | _ + 1, .op "\x7d" :: rest => some (element .mapping, rest)
  | fuel + 1, .op "**" :: rest => do
    let (_, rest) ← arithmetic fuel rest
    let ((), rest) ← moreEntries fuel rest
    return (element .mapping, rest)
  | fuel + 1, tokens => do
    let plain := match tokens with
      | .op "*" :: _ => false
      | .name _ :: .op ":=" :: _ => false
      | _ => true
    let (first, rest) ← starredNamed fuel tokens
    match plain, rest with
    | true, .op ":" :: rest =>
      let (_, rest) ← expression fuel rest
      if beginsClause rest then
        let ((), rest) ← clauses fuel rest
        let ((), rest) ← expect "\x7d" rest
        return (element .mapComprehension, rest)
      else
        let ((), rest) ← moreEntries fuel rest
        return (element .mapping, rest)
    | _, _ =>
      if beginsClause rest then
        match tokens with
        | .op "*" :: _ => none
        | _ =>
          let ((), rest) ← clauses fuel rest
          let ((), rest) ← expect "\x7d" rest
          return (element .setComprehension, rest)
      else
        match rest with
        | .op "," :: rest =>
          let (items, rest) ← moreItems fuel "\x7d" rest
          return (⟨.display (first.expr :: items.map (·.expr)), false⟩, rest)
        | _ =>
          let ((), rest) ← expect "\x7d" rest
          return (⟨.display [first.expr], false⟩, rest)

/-- The entries of a mapping after its first, from the comma on. -/
def moreEntries : Nat → Reader Unit
  | 0, _ => none
  | _ + 1, .op "\x7d" :: rest => some ((), rest)
  | _ + 1, .op "," :: .op "\x7d" :: rest => some ((), rest)
  | fuel + 1, .op "," :: .op "**" :: rest => do
    let (_, rest) ← arithmetic fuel rest
    moreEntries fuel rest
  | fuel + 1, .op "," :: rest => do
    let (_, rest) ← expression fuel rest
    let ((), rest) ← expect ":" rest
    let (_, rest) ← expression fuel rest
    moreEntries fuel rest
  | _ + 1, _ => none

/-- The loops and tests of a comprehension, at least one loop. -/
def clauses : Nat → Reader Unit
  | 0, _ => none
  | fuel + 1, .keyword "async" :: .keyword "for" :: rest => clauses fuel (.keyword "for" :: rest)
  | fuel + 1, .keyword "for" :: rest => do
    let ((), rest) ← targets fuel rest
    match rest with
    | .keyword "in" :: rest =>
      let (_, rest) ← disjunction fuel rest
      let ((), rest) ← tests fuel rest
      if beginsClause rest then clauses fuel rest else return ((), rest)
    | _ => none
  | _ + 1, _ => none

def tests : Nat → Reader Unit
  | 0, _ => none
  | fuel + 1, .keyword "if" :: rest => do
    let (_, rest) ← disjunction fuel rest
    tests fuel rest
  | _ + 1, tokens => some ((), tokens)

/-- The targets of a loop, up to its `in`. -/
def targets : Nat → Reader Unit
  | 0, _ => none
  | fuel + 1, tokens => do
    let operand := match tokens with
      | .op "*" :: rest => rest
      | _ => tokens
    let (item, rest) ← arithmetic fuel operand
    if !item.target then none
    else
      match rest with
      | .op "," :: .keyword "in" :: more => return ((), .keyword "in" :: more)
      | .op "," :: rest => targets fuel rest
      | _ => return ((), rest)

/-- What stands between the brackets of a subscript. -/
def slices : Nat → Reader Unit
  | 0, _ => none
  | fuel + 1, tokens => do
    let (_, rest) ← slice fuel tokens
    match rest with
    | .op "]" :: rest => return ((), rest)
    | .op "," :: .op "]" :: rest => return ((), rest)
    | .op "," :: rest => slices fuel rest
    | _ => none

def slice : Nat → Reader Unit
  | 0, _ => none
  | fuel + 1, .op ":" :: rest => sliceEnd fuel rest
  | fuel + 1, tokens => do
    match tokens with
    | .op "*" :: rest => (expression fuel rest).map fun (_, rest) => ((), rest)
    | .name _ :: .op ":=" :: _ => (namedExpression fuel tokens).map fun (_, rest) => ((), rest)
    | _ =>
      let (_, rest) ← expression fuel tokens
      match rest with
      | .op ":" :: rest => sliceEnd fuel rest
      | _ => return ((), rest)

/-- A slice after its first colon. -/
def sliceEnd : Nat → Reader Unit
  | 0, _ => none
  | fuel + 1, tokens => do
    let ((), rest) ← bound fuel tokens
    match rest with
    | .op ":" :: rest => bound fuel rest
    | _ => return ((), rest)

/-- One end of a slice, which may be left out. -/
def bound : Nat → Reader Unit
  | 0, _ => none
  | fuel + 1, tokens =>
    match tokens with
    | .op ":" :: _ => some ((), tokens)
    | .op "]" :: _ => some ((), tokens)
    | .op "," :: _ => some ((), tokens)
    | _ => (expression fuel tokens).map fun (_, rest) => ((), rest)

/-- The arguments of a call, up to the closing parenthesis. -/
def arguments : Nat → Arguments → Reader Arguments
  | 0, _, _ => none
  | _ + 1, found, .op ")" :: rest => some (found, rest)
  | fuel + 1, found, .op "*" :: rest =>
    if found.mapping then none
    else do
      let (_, rest) ← expression fuel rest
      nextArgument fuel { found with positional := .unsupported .starred :: found.positional } rest
  | fuel + 1, found, .op "**" :: rest => do
    let (_, rest) ← expression fuel rest
    nextArgument fuel { found with mapping := true } rest
  | fuel + 1, found, .name _ :: .op "=" :: rest => do
    let (_, rest) ← expression fuel rest
    nextArgument fuel { found with keyword := true } rest
  | fuel + 1, found, tokens => do
    let (value, rest) ← namedExpression fuel tokens
    if beginsClause rest then
      if found.positional.isEmpty && !found.keyword && !found.mapping then
        let ((), rest) ← clauses fuel rest
        let ((), rest) ← expect ")" rest
        return ({ found with positional := [.unsupported .generator] }, rest)
      else none
    else if found.keyword || found.mapping then none
    else nextArgument fuel { found with positional := value.expr :: found.positional } rest

def nextArgument : Nat → Arguments → Reader Arguments
  | 0, _, _ => none
  | _ + 1, found, .op ")" :: rest => some (found, rest)
  | fuel + 1, found, .op "," :: rest => arguments fuel found rest
  | _ + 1, _, _ => none

/-- The parameters of a function, up to its colon. -/
def parameters : Nat → Parameters → Reader Unit
  | 0, _, _ => none
  | _ + 1, found, .op ":" :: rest => if found.bare then none else some ((), .op ":" :: rest)
  | fuel + 1, found, .op "/" :: rest =>
    if found.slash || found.star || !found.named then none
    else nextParameter fuel { found with slash := true } rest
  | _ + 1, found, .op "**" :: .name _ :: rest =>
    if found.bare then none
    else
      match rest with
      | .op "," :: .op ":" :: more => some ((), .op ":" :: more)
      | .op ":" :: _ => some ((), rest)
      | _ => none
  | fuel + 1, found, .op "*" :: .name _ :: rest =>
    if found.star then none else nextParameter fuel { found with star := true } rest
  | fuel + 1, found, .op "*" :: .op "," :: rest =>
    if found.star then none else parameters fuel { found with star := true, bare := true } rest
  | fuel + 1, found, .name _ :: .op "=" :: rest => do
    let (_, rest) ← expression fuel rest
    nextParameter fuel
      { found with named := true, bare := false, defaulted := found.defaulted || !found.star } rest
  | fuel + 1, found, .name _ :: rest =>
    if found.defaulted && !found.star then none
    else nextParameter fuel { found with named := true, bare := false } rest
  | _ + 1, _, _ => none

def nextParameter : Nat → Parameters → Reader Unit
  | 0, _, _ => none
  | _ + 1, found, .op ":" :: rest => if found.bare then none else some ((), .op ":" :: rest)
  | fuel + 1, found, .op "," :: rest => parameters fuel found rest
  | _ + 1, _, _ => none

end

/-- A row of expressions at the top: one, or a display of several. -/
def row : Nat → Reader (List Expr × Bool)
  | 0, _ => none
  | fuel + 1, tokens => do
    let (first, rest) ← expression fuel tokens
    match rest with
    | .op "," :: .lineEnd :: more => return (([first.expr], true), .lineEnd :: more)
    | .op "," :: rest =>
      let ((others, _), rest) ← row fuel rest
      return ((first.expr :: others, true), rest)
    | _ => return (([first.expr], false), rest)

end Grammar

/-- The expression that a text spells. -/
def Expr.parse (text : String) : Except Failure Expr :=
  let s := text.toList
  if s.contains '\x00' then .error .badSyntax
  else
    match tokens? s with
    | none => .error .badSyntax
    | some tokens =>
      match Grammar.row (40 * (s.length + 4)) tokens with
      | some (([single], false), [.lineEnd]) => .ok single
      | some ((items, true), [.lineEnd]) => .ok (.display items)
      | _ => .error .badSyntax

end InputPanel.Condition
