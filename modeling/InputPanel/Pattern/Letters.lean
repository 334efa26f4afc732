import InputPanel.Pattern.Expr
import InputPanel.Text.Blank
import InputPanel.Text.Case
import InputPanel.Text.Digit
import InputPanel.Text.WordChar

/-!
# Characters in patterns

Which characters belong to a class, and which count as one when case is
ignored. Two characters are alike when their lower forms are equal or share an
upper form. Under the ASCII option only ASCII characters have a category or a
case.
-/

namespace InputPanel.Pattern

open Text

def Category.holds (ascii : Bool) (kind : Category) (c : Char) : Bool :=
  match kind with
  | .digit => if ascii then c.isDigit else isDecimalDigit c
  | .blank => isBlank c && (!ascii || c == ' ' || (9 ≤ c.toNat && c.toNat ≤ 13))
  | .word => if ascii then c.isAlphanum || c == '_' else isWordChar c

/-- Lower forms that have the same upper form, group by group. -/
def sharedUpper : List (List Nat) :=
  [[0x69, 0x131], [0x73, 0x17f], [0xb5, 0x3bc], [0x345, 0x3b9, 0x1fbe], [0x390, 0x1fd3],
    [0x3b0, 0x1fe3], [0x3b2, 0x3d0], [0x3b5, 0x3f5], [0x3b8, 0x3d1], [0x3ba, 0x3f0],
    [0x3c0, 0x3d6], [0x3c1, 0x3f1], [0x3c2, 0x3c3], [0x3c6, 0x3d5], [0x432, 0x1c80],
    [0x434, 0x1c81], [0x43e, 0x1c82], [0x441, 0x1c83], [0x442, 0x1c84, 0x1c85], [0x44a, 0x1c86],
    [0x463, 0x1c87], [0x1c88, 0xa64b], [0x1e61, 0x1e9b], [0xfb05, 0xfb06]]

/-- The lower form of a character as one character. -/
def fold (ascii : Bool) (c : Char) : Char :=
  if ascii then c.toLower else ((lowerChar c).head?).getD c

/-- The code points whose lower form is the given one. -/
def foldedTo (lower : Nat) : List Nat :=
  let preimage := fun (r : CaseRun) =>
    let code := ((lower : Int) - r.shift).toNat
    if (lowerTable.single (Char.ofNat code)).toNat == lower && code != lower then some code
    else none
  let expanded := lowerTable.expansions.filterMap fun e =>
    if e.2.head? == some lower then some e.1 else none
  lower :: lowerTable.runs.toList.filterMap preimage ++ expanded

/-- The code points that count as a character. -/
def alike (options : Options) (c : Char) : List Nat :=
  if !options.ignoreCase then [c.toNat]
  else if options.ascii then [c.toNat, c.toLower.toNat, c.toUpper.toNat]
  else
    let lower := (fold false c).toNat
    ((sharedUpper.find? (·.contains lower)).getD [lower]).flatMap foldedTo

def Member.holds (ascii : Bool) (codes : List Nat) (c : Char) : Member → Bool
  | .one code => codes.contains code
  | .range first last => codes.any fun code => first ≤ code && code ≤ last
  | .category kind negated => kind.holds ascii c != negated

/-- Whether a character belongs to the class of the members. -/
def belongs (options : Options) (members : List Member) (c : Char) : Bool :=
  let codes := alike options c
  members.any (Member.holds options.ascii codes c)

/-- Whether two characters count as one when a group is matched again. -/
def sameAgain (options : Options) (a b : Char) : Bool :=
  if options.ignoreCase then fold options.ascii a == fold options.ascii b else a == b

end InputPanel.Pattern
