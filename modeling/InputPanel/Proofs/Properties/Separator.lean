import InputPanel.Properties
import Mathlib.Algebra.Group.Nat.Even
import Mathlib.Data.List.DropRight
import Mathlib.Order.Bounds.Defs

/-!
# Where a line is parted

A separator is open if an even number of backslashes stands right before it:
these take each other in pairs, and none is left for the separator. A line is
parted at its first open separator. The splitter does not count backslashes; it
goes through the line once, and passes over each of them together with the
character that this one takes. What it has passed over ends in an even number of
backslashes, and so has no say in whether a later separator is open.
-/

namespace InputPanel.Properties

/-- How many backslashes stand one after the other at the end of a text. -/
def closingBackslashes (s : List Char) : Nat := (s.rtakeWhile (· == '\\')).length

/-- A position with a separator, and an even number of backslashes right before it. -/
structure OpenAt (text : List Char) (i : Nat) : Prop where
  separates : text[i]? = some '=' ∨ text[i]? = some ':'
  even : Even (closingBackslashes (text.take i))

section Backslashes

variable {seen : List Char}

theorem closingBackslashes_append (s t : List Char) :
    closingBackslashes (s ++ t) =
      if closingBackslashes t = t.length then closingBackslashes s + closingBackslashes t
      else closingBackslashes t := by
  simp only [closingBackslashes, List.rtakeWhile, List.reverse_append, List.length_reverse,
    List.takeWhile_append]
  split
  · next all => rw [List.length_append, all, Nat.add_comm, List.length_reverse]
  · rfl

theorem even_closingBackslashes_append (even : Even (closingBackslashes seen)) (t : List Char) :
    Even (closingBackslashes (seen ++ t)) ↔ Even (closingBackslashes t) := by
  rw [closingBackslashes_append]
  split
  · rw [Nat.even_add]
    exact ⟨fun same => same.1 even, fun later => iff_of_true even later⟩
  · rfl

/-- Whether a separator is open does not depend on a text before it that ends in an even number of
backslashes. -/
theorem openAt_append (even : Even (closingBackslashes seen)) (rest : List Char) (i : Nat) :
    OpenAt (seen ++ rest) (seen.length + i) ↔ OpenAt rest i := by
  have there : (seen ++ rest)[seen.length + i]? = rest[i]? := by
    rw [List.getElem?_append_right (Nat.le_add_right _ _), Nat.add_sub_cancel_left]
  have before : (seen ++ rest).take (seen.length + i) = seen ++ rest.take i :=
    List.take_length_add_append i
  constructor
  · rintro ⟨separates, closing⟩
    rw [before, even_closingBackslashes_append even] at closing
    exact ⟨there ▸ separates, closing⟩
  · rintro ⟨separates, closing⟩
    refine ⟨there ▸ separates, ?_⟩
    rwa [before, even_closingBackslashes_append even]

end Backslashes

section Steps

variable {seen rest : List Char}

/-- A piece of a line that leaves every separator in it closed, and those after it as they are. -/
structure PassedOver (seen rest : List Char) : Prop where
  even : Even (closingBackslashes seen)
  closed : ∀ j < seen.length, ¬ OpenAt (seen ++ rest) j

theorem PassedOver.openAt_iff (passed : PassedOver seen rest) {j : Nat} :
    OpenAt (seen ++ rest) j ↔ ∃ k, OpenAt rest k ∧ seen.length + k = j := by
  constructor
  · intro here
    rcases Nat.lt_or_ge j seen.length with early | late
    · exact absurd here (passed.closed j early)
    · obtain ⟨k, rfl⟩ := Nat.exists_eq_add_of_le late
      exact ⟨k, (openAt_append passed.even rest k).1 here, rfl⟩
  · rintro ⟨k, later, rfl⟩
    exact (openAt_append passed.even rest k).2 later

theorem openAt_zero_iff {c : Char} : OpenAt (c :: rest) 0 ↔ c = '=' ∨ c = ':' := by
  constructor
  · rintro ⟨separates, _⟩
    simpa using separates
  · intro separator
    have none : closingBackslashes ((c :: rest).take 0) = 0 := rfl
    exact ⟨by simpa using separator, none ▸ Even.zero⟩

theorem passedOver_plain {c : Char} (plain : c ≠ '\\') (other : ¬ (c = '=' ∨ c = ':'))
    (rest : List Char) : PassedOver [c] rest := by
  refine ⟨by simp [closingBackslashes, List.rtakeWhile, plain], fun j early here => ?_⟩
  obtain rfl : j = 0 := by simpa using early
  exact other (openAt_zero_iff.1 here)

/-- A backslash takes the character after it, even if this is a backslash or a separator. -/
theorem passedOver_taken (c : Char) (rest : List Char) : PassedOver ['\\', c] rest := by
  constructor
  · by_cases same : c = '\\'
    · have pair : closingBackslashes ['\\', '\\'] = 2 := rfl
      rw [same, pair]
      decide
    · simp [closingBackslashes, List.rtakeWhile, same]
  · intro j early here
    match j, early with
    | 0, _ => exact absurd (openAt_zero_iff.1 here) (by decide)
    | 1, _ =>
      have single : closingBackslashes ((['\\', c] ++ rest).take 1) = 1 := rfl
      exact absurd (single ▸ here.even) (by decide)

end Steps

section Parting

variable {seen rest : List Char}

/-- The parts of a line: before and after its first open separator, or all of it and nothing if no
separator is open. -/
inductive Parts (line : List Char) : List Char × List Char → Prop where
  | cut {i : Nat} (first : IsLeast {j | OpenAt line j} i) :
      Parts line (line.take i, line.drop (i + 1))
  | whole (closed : ∀ i, ¬ OpenAt line i) : Parts line (line, [])

/-- What was passed over goes to the first part. -/
theorem Parts.append {name value : List Char} (passed : PassedOver seen rest)
    (parts : Parts rest (name, value)) : Parts (seen ++ rest) (seen ++ name, value) := by
  cases parts with
  | @cut i first =>
    have least : IsLeast {j | OpenAt (seen ++ rest) j} (seen.length + i) := by
      refine ⟨passed.openAt_iff.2 ⟨i, first.1, rfl⟩, fun j here => ?_⟩
      obtain ⟨k, later, rfl⟩ := passed.openAt_iff.1 here
      exact Nat.add_le_add_left (first.2 later) _
    have cut := Parts.cut least
    rwa [List.take_length_add_append, Nat.add_assoc, List.drop_length_add_append] at cut
  | whole closed =>
    refine .whole fun j here => ?_
    obtain ⟨k, later, _⟩ := passed.openAt_iff.1 here
    exact closed k later

theorem parts_splitLine (line : List Char) : Parts line (splitLine line) := by
  -- Each call of the splitter but the last leaves a piece behind that it has passed over.
  fun_induction splitLine line with
  | case1 => exact .whole fun i here => by simpa using here.separates
  | case2 =>
    refine .whole fun i here => ?_
    cases i with
    | zero => exact absurd (openAt_zero_iff.1 here) (by decide)
    | succ i => simpa using here.separates
  | case3 c rest name value same ih =>
    rw [same] at ih
    exact ih.append (passedOver_taken c rest)
  | case4 c rest _ _ separator =>
    simp only [Bool.or_eq_true, decide_eq_true_eq] at separator
    exact .cut ⟨openAt_zero_iff.2 separator, fun j _ => Nat.zero_le j⟩
  | case5 c rest last taking other name value same ih =>
    rw [same] at ih
    have plain : c ≠ '\\' := by
      intro backslash
      cases rest with
      | nil => exact last backslash rfl
      | cons d rest => exact taking d rest backslash rfl
    simp only [Bool.or_eq_true, decide_eq_true_eq] at other
    exact ih.append (passedOver_plain plain other rest)

/-- A line is parted at its first open separator, which belongs to neither part; a line without an
open separator is a name and nothing else. -/
theorem splitLine_at_first_open (line : List Char) :
    (∃ i, IsLeast {j | OpenAt line j} i ∧ splitLine line = (line.take i, line.drop (i + 1))) ∨
      (∀ i, ¬ OpenAt line i) ∧ splitLine line = (line, []) := by
  have parts := parts_splitLine line
  generalize splitLine line = made at parts ⊢
  cases parts with
  | cut first => exact .inl ⟨_, first, rfl⟩
  | whole closed => exact .inr ⟨closed, rfl⟩

-- One backslash takes the separator after it, two take each other.
example : splitLine "a\\=b\\\\=c=d".toList = ("a\\=b\\\\".toList, "c=d".toList) := by decide

end Parting

end InputPanel.Properties
