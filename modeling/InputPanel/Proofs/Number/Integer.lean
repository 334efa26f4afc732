import InputPanel.Number.Integer
import InputPanel.Proofs.Text.Lines
import Mathlib.Algebra.Group.Nat.Defs

/-!
# The integers that a text spells

Without white space around it an integer is a sign or none and a numeral:
decimal digits of any script, neighbours with one underscore between them at
most, and no more of them than the limit. Reading a text finds the integer that
is spelled, and finds none where none is.
-/

namespace InputPanel.Number

open Text

section Runs

/-- Digits, each with its value, where one underscore may stand between two of them. -/
inductive Spaced (value? : Char → Option Nat) : List Char → List Nat → Prop where
  | last {c : Char} {d : Nat} (digit : value? c = some d) : Spaced value? [c] [d]
  | next {c : Char} {d : Nat} {rest : List Char} {ds : List Nat} (digit : value? c = some d)
      (later : Spaced value? rest ds) : Spaced value? (c :: rest) (d :: ds)
  | underscore {c : Char} {d : Nat} {rest : List Char} {ds : List Nat} (digit : value? c = some d)
      (later : Spaced value? rest ds) : Spaced value? (c :: '_' :: rest) (d :: ds)

variable {value? : Char → Option Nat} {s : List Char} {ds : List Nat}

theorem Spaced.begins (run : Spaced value? s ds) :
    ∃ c rest, s = c :: rest ∧ (value? c).isSome = true := by
  cases run with
  | last digit | next digit _ | underscore digit _ => exact ⟨_, _, rfl, by rw [digit]; rfl⟩

/-- An underscore is no digit, so that it cannot begin what stands after a digit. -/
theorem digitRun_eq_some_iff (mark : value? '_' = none) :
    digitRun value? s = some ds ↔ Spaced value? s ds := by
  constructor
  · intro read
    fun_induction digitRun value? s generalizing ds with
    | case1 => cases read
    | case2 c =>
      obtain ⟨d, digit, rfl⟩ := Option.map_eq_some_iff.1 read
      exact .last digit
    | case3 c rest ih =>
      obtain ⟨d, digit, read⟩ := Option.bind_eq_some_iff.1 read
      obtain ⟨later, after, read⟩ := Option.bind_eq_some_iff.1 read
      cases read
      exact .underscore digit (ih after)
    | case4 c rest _ _ ih =>
      obtain ⟨d, digit, read⟩ := Option.bind_eq_some_iff.1 read
      obtain ⟨later, after, read⟩ := Option.bind_eq_some_iff.1 read
      cases read
      exact .next digit (ih after)
  · intro run
    induction run with
    | last digit => rw [digitRun, digit]; rfl
    | @next c d rest ds digit later ih =>
      obtain ⟨first, more, rfl, isDigit⟩ := later.begins
      have unmarked : first ≠ '_' := by
        rintro rfl
        rw [mark] at isDigit
        cases isDigit
      rw [digitRun, digit, ih]
      · rfl
      · simp
      · intro tail same
        exact unmarked (List.cons.inj same).1
    | underscore digit _ ih => rw [digitRun, digit, ih]; rfl

/-- A text gives one row of digits at most. -/
theorem Spaced.unique {es : List Nat} (mark : value? '_' = none) (one : Spaced value? s ds)
    (two : Spaced value? s es) : ds = es := by
  have first := (digitRun_eq_some_iff mark).2 one
  rw [(digitRun_eq_some_iff mark).2 two] at first
  exact (Option.some.inj first).symm

end Runs

theorem lt_ten_of_digitValue? {c : Char} {d : Nat} (digit : digitValue? c = some d) : d < 10 := by
  unfold digitValue? at digit
  split at digit
  · next ascii =>
    have upper : c.toNat ≤ 57 := by
      simp only [Char.isDigit, Bool.and_eq_true, decide_eq_true_eq] at ascii
      exact ascii.2
    have value : c.toNat - 48 = d := Option.some.inj digit
    omega
  · split at digit
    · cases digit
    · dsimp only at digit
      split at digit
      · have value := Option.some.inj digit
        omega
      · cases digit

/-- Letters are digits only in bases above ten. -/
theorem digitBelow_ten (c : Char) : digitBelow 10 c = digitValue? c := by
  unfold digitBelow alphanumericValue?
  cases known : digitValue? c with
  | some d => simp [lt_ten_of_digitValue? known]
  | none =>
    dsimp only
    split
    · simp
    · split
      · simp
      · rfl

/-- A text without white space that spells an integer. -/
inductive Numeral : List Char → Int → Prop where
  | unsigned {s : List Char} {ds : List Nat} (digits : Spaced digitValue? s ds)
      (short : ds.length ≤ digitLimit) : Numeral s (ofDigits 10 ds)
  | plus {s : List Char} {ds : List Nat} (digits : Spaced digitValue? s ds)
      (short : ds.length ≤ digitLimit) : Numeral ('+' :: s) (ofDigits 10 ds)
  | minus {s : List Char} {ds : List Nat} (digits : Spaced digitValue? s ds)
      (short : ds.length ≤ digitLimit) : Numeral ('-' :: s) (-(ofDigits 10 ds : Int))

variable {s : List Char} {i : Int}

theorem readNatural_ten_eq_some_iff {n : Nat} :
    readNatural 10 s = some n ↔
      ∃ ds, Spaced digitValue? s ds ∧ ds.length ≤ digitLimit ∧ n = ofDigits 10 ds := by
  have runs (ds : List Nat) : digitRun (digitBelow 10) s = some ds ↔ Spaced digitValue? s ds := by
    rw [funext digitBelow_ten]
    exact digitRun_eq_some_iff rfl
  unfold readNatural
  constructor
  · intro read
    obtain ⟨ds, run, read⟩ := Option.bind_eq_some_iff.1 read
    split at read
    · cases read
    · next within =>
      cases read
      refine ⟨ds, (runs ds).1 run, ?_, rfl⟩
      simpa [isPowerOfTwo] using within
  · rintro ⟨ds, run, short, rfl⟩
    rw [(runs ds).2 run]
    simp [isPowerOfTwo, short]

theorem isBlank_of_isMargin {c : Char} (h : isMargin c = true) : isBlank c = true := by
  unfold isMargin at h
  split at h
  · simp only [Bool.or_eq_true, beq_iff_eq, Bool.and_eq_true, decide_eq_true_eq] at h
    rcases h with rfl | within
    · rfl
    · simp [isBlank, within]
  · exact h

theorem withoutMargin_eq_self (solid : ∀ c ∈ s, isBlank c = false) : withoutMargin s = s := by
  have kept : ∀ c ∈ s, isMargin c = false := by
    intro c present
    cases margin : isMargin c with
    | false => rfl
    | true =>
      have blank := isBlank_of_isMargin margin
      rw [solid c present] at blank
      cases blank
  have left : s.dropWhile isMargin = s :=
    dropWhile_eq_self_iff.2 fun c first => kept c (List.mem_of_head? first)
  rw [withoutMargin, left]
  exact dropRightWhile_eq_self_iff.2 fun c last => kept c (List.mem_of_getLast? last)

theorem splitSign_cases (s : List Char) :
    (∃ rest, s = '-' :: rest ∧ splitSign s = (true, rest)) ∨
      (∃ rest, s = '+' :: rest ∧ splitSign s = (false, rest)) ∨ splitSign s = (false, s) := by
  unfold splitSign
  split
  · exact .inl ⟨_, rfl, rfl⟩
  · exact .inr (.inl ⟨_, rfl, rfl⟩)
  · exact .inr (.inr rfl)

/-- A sign is no digit. -/
theorem Spaced.splitSign_eq {ds : List Nat} (digits : Spaced digitValue? s ds) :
    splitSign s = (false, s) := by
  obtain ⟨c, rest, rfl, isDigit⟩ := digits.begins
  rcases splitSign_cases (c :: rest) with ⟨_, same, _⟩ | ⟨_, same, _⟩ | kept
  · cases same
    cases isDigit
  · cases same
    cases isDigit
  · exact kept

theorem signed_eq_some_iff :
    (readNatural 10 (splitSign s).2).map (signed (splitSign s).1) = some i ↔ Numeral s i := by
  rw [Option.map_eq_some_iff]
  constructor
  · rintro ⟨n, natural, rfl⟩
    obtain ⟨ds, digits, short, rfl⟩ := readNatural_ten_eq_some_iff.1 natural
    rcases splitSign_cases s with ⟨rest, rfl, split⟩ | ⟨rest, rfl, split⟩ | split
    · exact .minus digits short
    · exact .plus digits short
    · rw [split] at digits ⊢
      exact .unsigned digits short
  · intro spelled
    cases spelled with
    | @unsigned _ ds digits short =>
      rw [digits.splitSign_eq]
      exact ⟨_, readNatural_ten_eq_some_iff.2 ⟨ds, digits, short, rfl⟩, rfl⟩
    | @plus rest ds digits short =>
      exact ⟨_, readNatural_ten_eq_some_iff.2 ⟨ds, digits, short, rfl⟩, rfl⟩
    | @minus rest ds digits short =>
      exact ⟨_, readNatural_ten_eq_some_iff.2 ⟨ds, digits, short, rfl⟩, rfl⟩

/-- A text spells one integer at most. -/
theorem Numeral.unique {j : Int} (one : Numeral s i) (two : Numeral s j) : i = j :=
  Option.some.inj ((signed_eq_some_iff.2 one).symm.trans (signed_eq_some_iff.2 two))

/-- Reading finds the integer that is spelled, and none if none is. -/
theorem readInt_eq_some_iff (solid : ∀ c ∈ s, isBlank c = false) :
    readInt s = some i ↔ Numeral s i := by
  rw [← signed_eq_some_iff, readInt, withoutMargin_eq_self solid]

section Decimal

theorem spaced_of_digits (filled : s ≠ []) (digits : ∀ c ∈ s, c.isDigit = true) :
    Spaced digitValue? s (s.map fun c => c.toNat - 48) := by
  have value {c : Char} (digit : c.isDigit = true) : digitValue? c = some (c.toNat - 48) := by
    rw [digitValue?, if_pos digit]
  induction s with
  | nil => exact absurd rfl filled
  | cons c s ih =>
    rw [List.forall_mem_cons] at digits
    cases s with
    | nil => exact .last (value digits.1)
    | cons d s => exact .next (value digits.1) (ih (by simp) digits.2)

theorem natText_eq_toDigits (n : Nat) : natText n = Nat.toDigits 10 n := Nat.toList_repr

theorem isDigit_of_mem_natText {n : Nat} {c : Char} (inside : c ∈ natText n) :
    c.isDigit = true := by
  rw [natText_eq_toDigits] at inside
  exact Nat.isDigit_of_mem_toDigits (by decide) (by decide) inside

theorem spaced_natText (n : Nat) :
    Spaced digitValue? (natText n) ((natText n).map fun c => c.toNat - 48) := by
  have filled : natText n ≠ [] := by
    rw [natText_eq_toDigits]
    exact Nat.toDigits_ne_nil
  exact spaced_of_digits filled fun _ inside => isDigit_of_mem_natText inside

theorem ofDigits_natText (n : Nat) : ofDigits 10 ((natText n).map fun c => c.toNat - 48) = n := by
  have read : Nat.ofDigitChars 10 (Nat.toDigits 10 n) 0 = n := Nat.ofDigitChars_ten_toDigits
  rw [Nat.ofDigitChars_eq_foldl] at read
  simp only [Nat.mul_comm 10] at read
  rw [natText_eq_toDigits, ofDigits, List.foldl_map]
  exact read

/-- The decimal numeral of a natural number spells this number alone, and spells it unless it has
too many digits. -/
theorem numeral_natText_iff {n : Nat} : Numeral (natText n) i ↔ i = n ∧ n < 10 ^ digitLimit := by
  have short : (natText n).length ≤ digitLimit ↔ n < 10 ^ digitLimit := by
    rw [natText_eq_toDigits]
    exact Nat.length_toDigits_le_iff (by decide) (by decide)
  rw [← signed_eq_some_iff, (spaced_natText n).splitSign_eq, ← short]
  constructor
  · intro read
    obtain ⟨m, natural, rfl⟩ := Option.map_eq_some_iff.1 read
    obtain ⟨ds, digits, within, rfl⟩ := readNatural_ten_eq_some_iff.1 natural
    have same := digits.unique rfl (spaced_natText n)
    rw [same, List.length_map] at within
    rw [same, ofDigits_natText]
    exact ⟨rfl, within⟩
  · rintro ⟨rfl, within⟩
    have natural : readNatural 10 (natText n) = some n := by
      refine readNatural_ten_eq_some_iff.2 ⟨_, spaced_natText n, ?_, (ofDigits_natText n).symm⟩
      rwa [List.length_map]
    rw [natural]
    rfl

end Decimal

end InputPanel.Number
