import InputPanel.Number.Integer

/-!
# Binary floating point numbers

A finite number is a mantissa below `2 ^ 53` times a power of two not below
`2 ^ (-1074)`, with the mantissa as large as these allow. Reading rounds a
decimal to the nearest such number, a half to the even mantissa. Writing takes
the fewest digits that read back, and of those the nearest to the number.
All steps are exact arithmetic on naturals.
-/

namespace InputPanel.Number

inductive Binary64 where
  | finite (negative : Bool) (mantissa : Nat) (exponent : Int)
  | infinite (negative : Bool)
  | undefined
deriving DecidableEq, Repr

namespace Binary64

def leastExponent : Int := -1074

/-- A power of two whose exponent is not negative. -/
def twoTo (exponent : Int) : Nat := Nat.pow 2 exponent.toNat

/-- A power of ten whose exponent is not negative. -/
def tenTo (exponent : Int) : Nat := Nat.pow 10 exponent.toNat

/-- The least mantissa of a number whose exponent is not the least. -/
def fullMantissa : Nat := twoTo 52

/-- `num / den * 2 ^ (-e)`, as a quotient. -/
def scaled (num den : Nat) (e : Int) : Nat × Nat :=
  if 0 ≤ e then (num, den * twoTo e) else (num * twoTo (-e), den)

/-- A quotient rounded to the nearest natural, a half to the even one. -/
def roundHalfEven (num den : Nat) : Nat :=
  let q := num / den
  let twice := 2 * (num % den)
  if twice < den then q
  else if den < twice then q + 1
  else if q % 2 = 0 then q else q + 1

/-- The number nearest to `num / den`. -/
def ofRatio (negative : Bool) (num den : Nat) : Binary64 :=
  if num = 0 ∨ den = 0 then .finite negative 0 leastExponent
  else
    let guess : Int := max ((Nat.log2 num : Int) - Nat.log2 den - 52) leastExponent
    let (n, d) := scaled num den guess
    let e := if n / d < fullMantissa then max (guess - 1) leastExponent else guess
    let (n, d) := scaled num den e
    let m := roundHalfEven n d
    let (m, e) := if m = 2 * fullMantissa then (fullMantissa, e + 1) else (m, e)
    if 971 < e then .infinite negative else .finite negative m e

def decimalLength (n : Nat) : Nat := (Nat.repr n).length

/-- The number nearest to `digits * 10 ^ exponent`. -/
def ofDecimal (negative : Bool) (digits : Nat) (exponent : Int) : Binary64 :=
  let magnitude := (decimalLength digits : Int) + exponent
  if digits = 0 ∨ magnitude < -400 then .finite negative 0 leastExponent
  else if 400 < magnitude then .infinite negative
  else if 0 ≤ exponent then ofRatio negative (digits * tenTo exponent) 1
  else ofRatio negative digits (tenTo (-exponent))

theorem ofRatio_defined (negative : Bool) (num den : Nat) :
    ofRatio negative num den ≠ .undefined := by
  unfold ofRatio
  split
  · simp
  · dsimp only
    generalize (if roundHalfEven _ _ = _ then _ else _ : Nat × Int) = rounded
    split <;> simp

/-- A decimal is a number, however large. -/
theorem ofDecimal_defined (negative : Bool) (digits : Nat) (exponent : Int) :
    ofDecimal negative digits exponent ≠ .undefined := by
  unfold ofDecimal
  dsimp only
  split
  · simp
  · split
    · simp
    · split <;> exact ofRatio_defined _ _ _

/-- An exponent mark with a signed decimal, or nothing. -/
def readExponent : List Char → Option Int
  | [] => some 0
  | mark :: rest =>
    if mark = 'e' ∨ mark = 'E' then
      let (negative, digits) := splitSign rest
      if digits.isEmpty || !digits.all Char.isDigit then none
      else some (signed negative (ofDigits 10 (digits.map fun c => c.toNat - 48)))
    else none

/-- Digits with or without a point, then perhaps an exponent. -/
def readUnsigned (negative : Bool) (s : List Char) : Option Binary64 :=
  let whole := s.takeWhile Char.isDigit
  let rest := s.dropWhile Char.isDigit
  let (fraction, rest) := match rest with
    | '.' :: rest => (rest.takeWhile Char.isDigit, rest.dropWhile Char.isDigit)
    | _ => ([], rest)
  if whole.isEmpty && fraction.isEmpty then none
  else (readExponent rest).map fun e =>
    ofDecimal negative (ofDigits 10 ((whole ++ fraction).map fun c => c.toNat - 48))
      (e - fraction.length)

def read (s : List Char) : Option Binary64 :=
  let (negative, rest) := splitSign s
  readUnsigned negative rest

/-- Sign, numerator and denominator of a finite number. -/
def ratio (negative : Bool) (mantissa : Nat) (exponent : Int) : Int × Nat :=
  let m := signed negative mantissa
  if 0 ≤ exponent then (m * twoTo exponent, 1) else (m, twoTo (-exponent))

def negate : Binary64 → Binary64
  | .finite negative m e => .finite (!negative) m e
  | .infinite negative => .infinite (!negative)
  | .undefined => .undefined

def isZero : Binary64 → Bool
  | .finite _ m _ => m == 0
  | _ => false

/-- Exact comparison; nothing compares with what is undefined. -/
def compare? : Binary64 → Binary64 → Option Ordering
  | .undefined, _ => none
  | _, .undefined => none
  | .infinite a, .infinite b => some (if a == b then .eq else if a then .lt else .gt)
  | .infinite a, .finite .. => some (if a then .lt else .gt)
  | .finite .., .infinite b => some (if b then .gt else .lt)
  | .finite s m e, .finite s' m' e' =>
    let (n, d) := ratio s m e
    let (n', d') := ratio s' m' e'
    some (compare (n * d') (n' * d))

/-- Exact comparison with an integer. -/
def compareInt? (x : Binary64) (k : Int) : Option Ordering :=
  match x with
  | .undefined => none
  | .infinite negative => some (if negative then .lt else .gt)
  | .finite s m e =>
    let (n, d) := ratio s m e
    some (compare n (k * d))

/-- The number nearest to the sum; without a value if that has none. -/
def add : Binary64 → Binary64 → Binary64
  | finite s m e, finite t n f =>
    let (a, b) := ratio s m e
    let (c, d) := ratio t n f
    let sum := a * d + c * b
    if sum = 0 then finite (s && t) 0 leastExponent else ofRatio (sum < 0) sum.natAbs (b * d)
  | infinite s, infinite t => if s == t then infinite s else undefined
  | infinite s, finite _ _ _ => infinite s
  | finite _ _ _, infinite t => infinite t
  | _, _ => undefined

/-- The number nearest to a natural multiple. -/
def times (x : Binary64) (k : Nat) : Binary64 :=
  match x with
  | finite s m e =>
    let (a, b) := ratio s m e
    ofRatio s (a.natAbs * k) b
  | infinite s => if k = 0 then undefined else infinite s
  | undefined => undefined

/-- The integer nearest towards zero. -/
def truncate? : Binary64 → Option Int
  | .finite s m e => let (n, d) := ratio s m e; some (n.tdiv d)
  | _ => none

/-- The digits of a positive decimal and the place of its point, counted from their front. -/
structure Decimal where
  digits : List Char
  point : Int

/-- Where `10 ^ place` first exceeds `num / den`, looking from `guess` upwards. -/
def pointOf (num den : Nat) : Nat → Int → Int
  | 0, place => place
  | fuel + 1, place =>
    let below := if 0 ≤ place then num < den * tenTo place else num * tenTo (-place) < den
    if below then place else pointOf num den fuel (place + 1)

/-- The decimal with `count` digits that lies in the interval and is nearest to the number, all
scaled so that one unit is one step of the grid; `inside` tests a multiple of the step. -/
def gridPoint (num den : Nat) (inside : Nat → Bool) : Option Nat :=
  let q := num / den
  match inside q, inside (q + 1) with
  | true, true => some (roundHalfEven num den)
  | true, false => some q
  | false, true => some (q + 1)
  | false, false => none

def shortestFrom (num den low high half : Nat) (closed : Bool) (place : Int) : Nat → Nat → Decimal
  | 0, count => ⟨natText (num / den), count⟩
  | fuel + 1, count =>
    -- one step of the grid is `10 ^ (place - count)`
    let step := place - count
    let (up, down) := if 0 ≤ step then (1, tenTo step) else (tenTo (-step), 1)
    -- the interval is `low / (den * half)` to `high / (den * half)`
    let inside := fun k =>
      let x := k * down * den * half
      let lo := low * up
      let hi := high * up
      if closed then lo ≤ x && x ≤ hi else lo < x && x < hi
    match gridPoint (num * up) (den * down) inside with
    | some k =>
      let digits := natText k
      ⟨digits, place + ((digits.length : Int) - count)⟩
    | none => shortestFrom num den low high half closed place fuel (count + 1)

/-- The shortest decimal that reads back as a positive finite number, without final zeros. -/
def shortest (mantissa : Nat) (exponent : Int) : Decimal :=
  let (n, den) := ratio false mantissa exponent
  let num := n.toNat
  -- the neighbours' midpoints, in quarters of the last mantissa place
  let unit := num / mantissa
  let lowGap := if mantissa = fullMantissa ∧ exponent ≠ leastExponent then unit else 2 * unit
  let guess : Int := ((Nat.log2 num : Int) - Nat.log2 den) * 3 / 10 - 2
  let place := pointOf num den 60 guess
  let d := shortestFrom num den (4 * num - lowGap) (4 * num + 2 * unit) 4 (mantissa % 2 == 0)
    place 20 1
  ⟨Text.dropRightWhile (· == '0') d.digits, d.point⟩

/-- Positional from `10 ^ (-4)` to below `10 ^ 16`, otherwise with an exponent of two digits or
more; a number without a fraction ends in `.0` when `pointZero` asks for it. -/
def decimalText (pointZero : Bool) (d : Decimal) : List Char :=
  let n := d.digits.length
  if -4 < d.point ∧ d.point ≤ 16 then
    if d.point ≤ 0 then
      '0' :: '.' :: List.replicate (-d.point).toNat '0' ++ d.digits
    else if n ≤ d.point.toNat then
      d.digits ++ List.replicate (d.point.toNat - n) '0' ++ (if pointZero then ['.', '0'] else [])
    else d.digits.take d.point.toNat ++ '.' :: d.digits.drop d.point.toNat
  else
    let fraction := d.digits.drop 1
    let e := d.point - 1
    let exponentDigits := natText e.natAbs
    d.digits.take 1 ++ (if fraction.isEmpty then [] else '.' :: fraction) ++
      ['e', if e < 0 then '-' else '+'] ++
      (if exponentDigits.length < 2 then '0' :: exponentDigits else exponentDigits)

def writeWith (pointZero : Bool) : Binary64 → List Char
  | .undefined => ['n', 'a', 'n']
  | .infinite negative => (if negative then ['-'] else []) ++ ['i', 'n', 'f']
  | .finite negative m e =>
    (if negative then ['-'] else []) ++
      (if m = 0 then (if pointZero then ['0', '.', '0'] else ['0'])
        else decimalText pointZero (shortest m e))

def write (x : Binary64) : String := String.ofList (writeWith true x)

end Binary64

end InputPanel.Number
