/-!
# Sets of characters as ascending boundaries

A set is the list of the code points at which membership changes, written as
the differences between neighbours. A character belongs to it when an odd
number of boundaries lie at or below it.
-/

namespace InputPanel.Text

/-- The numbers that a text of decimal digits and blanks spells. -/
def numbersIn (s : String) : Array Nat :=
  let step := fun (acc : Array Nat × Option Nat) (c : Char) =>
    if c.isDigit then (acc.1, some (acc.2.getD 0 * 10 + (c.toNat - '0'.toNat)))
    else (match acc.2 with | some n => acc.1.push n | none => acc.1, none)
  let (numbers, last) := s.toList.foldl step (#[], none)
  match last with
  | some n => numbers.push n
  | none => numbers

/-- The partial sums of a list of differences. -/
def runningSums (differences : Array Nat) : Array Nat :=
  (differences.foldl (fun (acc : Array Nat × Nat) d => (acc.1.push (acc.2 + d), acc.2 + d))
    (#[], 0)).1

/-- How many entries of an ascending array from index `lo` to `hi` are at most `x`, plus `lo`. -/
def countUpTo (a : Array Nat) (x lo hi : Nat) : Nat :=
  if lo < hi then
    let mid := (lo + hi) / 2
    if a.getD mid 0 ≤ x then countUpTo a x (mid + 1) hi else countUpTo a x lo mid
  else lo
termination_by hi - lo

structure CharSet where
  boundaries : Array Nat

namespace CharSet

def ofDifferences (s : String) : CharSet := ⟨runningSums (numbersIn s)⟩

def contains (set : CharSet) (c : Char) : Bool :=
  countUpTo set.boundaries c.toNat 0 set.boundaries.size % 2 == 1

end CharSet

end InputPanel.Text
