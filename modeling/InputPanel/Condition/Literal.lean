import InputPanel.Condition.Value

/-!
# Literals of condition expressions

Numbers and quoted texts as they are written. A number must not run into a
name, unless a word that may follow a number begins there. Escapes in quoted
text that mean nothing keep their backslash; the escape of a surrogate stands
for a private-use character, since no text holds surrogates.
-/

namespace InputPanel.Condition

open Number Text

/-- A character that a name could go on with, as far as numbers care. -/
def isWordChar (c : Char) : Bool := c.isAlphanum || c == '_' || decide (128 ≤ c.toNat)

def followsAsWord (word : List Char) (s : List Char) : Bool :=
  word.isPrefixOf s &&
    (match s.drop word.length with | [] => true | c :: _ => !isWordChar c)

/-- Whether a number may end before this text. -/
def endsNumber (s : List Char) : Bool :=
  match s with
  | [] => true
  | 'i' :: c :: _ => c == 'f' || c == 'n' || c == 's'
  | c :: _ =>
    !isWordChar c || followsAsWord "and".toList s || followsAsWord "else".toList s ||
      followsAsWord "for".toList s || followsAsWord "or".toList s || followsAsWord "not".toList s

/-- Digits of a base, an underscore allowed before each; at least one. The second part follows. -/
def digitsWithin (base : Nat) : List Char → List Nat × List Char
  | [] => ([], [])
  | '_' :: c :: rest =>
    match (hexValue? c).filter (· < base) with
    | some d =>
      let (ds, after) := digitsWithin base rest
      (d :: ds, after)
    | none => ([], '_' :: c :: rest)
  | c :: rest =>
    match (hexValue? c).filter (· < base) with
    | some d =>
      let (ds, after) := digitsWithin base rest
      (d :: ds, after)
    | none => ([], c :: rest)

/-- Digits from nine down, beginning with a digit. -/
def decimalTail (s : List Char) : List Nat × List Char :=
  match s with
  | c :: _ => if c.isDigit then digitsWithin 10 s else ([], s)
  | [] => ([], s)

/-- A number in a base announced after its leading zero. -/
def prefixedNumber (base : Nat) (s : List Char) : Option (Constant × List Char) :=
  let (digits, rest) := digitsWithin base s
  if digits.isEmpty || !endsNumber rest then none
  else some (.int (ofDigits base digits), rest)

/-- An exponent with its mark, if one is written here. An `e` that no digit follows is none. -/
def exponentOf (s : List Char) : Option (Option Int × List Char) :=
  match s with
  | mark :: rest =>
    if mark = 'e' ∨ mark = 'E' then
      match rest with
      | sign :: c :: more =>
        if sign = '+' ∨ sign = '-' then
          if c.isDigit then
            let (digits, after) := decimalTail (c :: more)
            some (some (signed (sign == '-') (ofDigits 10 digits)), after)
          else none
        else if sign.isDigit then
          let (digits, after) := decimalTail rest
          some (some (ofDigits 10 digits), after)
        else some (none, s)
      | [c] =>
        if c.isDigit then some (some (ofDigits 10 [c.toNat - 48]), [])
        else if c = '+' ∨ c = '-' then none else some (none, s)
      | [] => some (none, s)
    else some (none, s)
  | [] => some (none, s)

/-- What an unprefixed number is after its digits before and after the point. -/
def finishNumber (whole fraction : List Nat) (point : Bool) (s : List Char) :
    Option (Constant × List Char) := do
  let (exponent, rest) ← exponentOf s
  let digits := ofDigits 10 (whole ++ fraction)
  let shift := exponent.getD 0 - fraction.length
  match rest with
  | c :: after =>
    if c = 'j' ∨ c = 'J' then
      if endsNumber after then
        return (.imaginary (.ofDecimal false digits shift) (Binary64.ofDecimal_defined _ _ _), after)
      else none
    else if endsNumber rest then finish exponent digits shift rest else none
  | [] => finish exponent digits shift rest
where
  finish (exponent : Option Int) (digits : Nat) (shift : Int) (rest : List Char) :
      Option (Constant × List Char) :=
    if point || exponent.isSome then
      some (.real (.ofDecimal false digits shift) (Binary64.ofDecimal_defined _ _ _), rest)
    else if whole.head? = some 0 ∧ whole.any (· ≠ 0) then none
    else if whole.length > digitLimit then none
    else some (.int (ofDigits 10 whole), rest)

/-- A number at the front of a text that begins with a digit, or with a point and a digit. -/
def scanNumber (s : List Char) : Option (Constant × List Char) :=
  match s with
  | '0' :: mark :: rest =>
    match announcedBase mark with
    | some base => prefixedNumber base rest
    | none => unprefixed s
  | _ => unprefixed s
where
  unprefixed (s : List Char) : Option (Constant × List Char) :=
    let (whole, rest) := decimalTail s
    match rest with
    | '.' :: after =>
      let (fraction, rest) := decimalTail after
      finishNumber whole fraction true rest
    | _ => finishNumber whole [] false rest

/-- A character by its code point; surrogates are moved to the private plane. -/
def charOfCode? (n : Nat) : Option Char :=
  if 0x110000 ≤ n then none
  else if 0xd800 ≤ n ∧ n < 0xe000 then some (Char.ofNat (0x100000 + n))
  else some (Char.ofNat n)

/-- The escape of a fixed number of hexadecimal digits. -/
def hexEscape? (width : Nat) (s : List Char) : Option Nat :=
  if s.length < width then none else hexNumber? (s.take width)

def isOctal (c : Char) : Bool := '0' ≤ c && c ≤ '7'

def octalEscape (s : List Char) : Nat :=
  ofDigits 8 (((s.take 3).takeWhile isOctal).map fun c => c.toNat - 48)

/-- One-letter escapes. -/
def controlEscape? : Char → Option Char
  | '\\' => some '\\'
  | '\'' => some '\''
  | '"' => some '"'
  | 'a' => some '\x07'
  | 'b' => some '\x08'
  | 'f' => some '\x0c'
  | 'n' => some '\n'
  | 'r' => some '\r'
  | 't' => some '\t'
  | 'v' => some '\x0b'
  | _ => none

/-- The text that quoted text with escapes spells; `wide` allows the escapes of text that bytes do
not have. Characters named by a word are not known. -/
def unescape (wide : Bool) : Nat → List Char → Option (List Char)
  | 0, _ => some []
  | _ + 1, [] => some []
  | fuel + 1, '\\' :: c :: rest =>
    if c = '\n' then unescape wide fuel rest
    else
      match controlEscape? c with
      | some d => (unescape wide fuel rest).map (d :: ·)
      | none =>
        if isOctal c then do
          let n := octalEscape (c :: rest)
          let used := ((c :: rest).take 3).takeWhile isOctal
          let d ← charOfCode? (if wide then n else n % 256)
          (unescape wide fuel ((c :: rest).drop used.length)).map (d :: ·)
        else
          let width := if c = 'x' then 2
            else if wide && c == 'u' then 4
            else if wide && c == 'U' then 8
            else 0
          if width = 0 then
            if wide && c == 'N' then none
            else (unescape wide fuel rest).map ('\\' :: c :: ·)
          else do
            let n ← hexEscape? width rest
            let d ← charOfCode? n
            (unescape wide fuel (rest.drop width)).map (d :: ·)
  | fuel + 1, c :: rest => (unescape wide fuel rest).map (c :: ·)

/-- The letters before a quote. -/
structure QuoteMarks where
  raw : Bool := false
  bytes : Bool := false
  formatted : Bool := false
  plain : Bool := false

namespace QuoteMarks

def add (marks : QuoteMarks) (c : Char) : Option QuoteMarks :=
  if c = 'b' ∨ c = 'B' then
    if marks.bytes || marks.plain || marks.formatted then none
    else some { marks with bytes := true }
  else if c = 'u' ∨ c = 'U' then
    if marks.bytes || marks.plain || marks.raw || marks.formatted then none
    else some { marks with plain := true }
  else if c = 'r' ∨ c = 'R' then
    if marks.raw || marks.plain then none else some { marks with raw := true }
  else if c = 'f' ∨ c = 'F' then
    if marks.formatted || marks.bytes || marks.plain then none
    else some { marks with formatted := true }
  else none

/-- The letters, if they may stand before a quote. -/
def ofLetters? (letters : List Char) : Option QuoteMarks :=
  letters.foldl (fun marks c => marks.bind (·.add c)) (some {})

end QuoteMarks

/-- The inside of a quoted text after its opening quote, and what follows the closing one. A
backslash keeps the next character inside. -/
def quotedBody (quote : Char) (triple : Bool) : List Char → Option (List Char × List Char)
  | [] => none
  | '\\' :: c :: rest =>
    (quotedBody quote triple rest).map fun (body, after) => ('\\' :: c :: body, after)
  | c :: rest =>
    if c = quote then
      if !triple then some ([], rest)
      else
        match rest with
        | d :: e :: after =>
          if d = quote ∧ e = quote then some ([], after)
          else (quotedBody quote triple rest).map fun (body, after) => (c :: body, after)
        | _ => none
    else if c = '\n' && !triple then none
    else (quotedBody quote triple rest).map fun (body, after) => (c :: body, after)

/-- A text from its opening quote on. -/
def scanQuoted : List Char → Option (List Char × List Char)
  | a :: b :: c :: rest =>
    if a = b ∧ b = c then quotedBody a true rest
    else if a = b then some ([], c :: rest)
    else quotedBody a false (b :: c :: rest)
  | [a, b] => if a = b then some ([], []) else none
  | _ => none

end InputPanel.Condition
