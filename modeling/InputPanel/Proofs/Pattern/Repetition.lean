import InputPanel.Pattern.Match
import Mathlib.Data.List.TakeWhile

/-!
# How a pattern is tried

What trying a pattern comes to, by the kind of the pattern. A greedy repetition of
single characters goes on as far as it can. It ends there, unless what follows
fails there and would go on from an earlier place.
-/

namespace InputPanel.Pattern

variable {s tail : List Char} {c : Char} {p : Nat} {groups : List (Nat × Nat × Nat)}
  {test : Char → Bool} {next : Continuation}

section Stretches

theorem drop_succ_of_drop (here : s.drop p = c :: tail) : s.drop (p + 1) = tail := by
  rw [← List.tail_drop, here]
  rfl

theorem length_of_drop (here : s.drop p = c :: tail) : s.length = p + tail.length + 1 := by
  have length := congrArg List.length here
  rw [List.length_drop, List.length_cons] at length
  omega

theorem drop_add_length_takeWhile (here : s.drop p = tail) (test : Char → Bool) :
    s.drop (p + (tail.takeWhile test).length) = tail.dropWhile test := by
  have split := List.takeWhile_append_dropWhile (p := test) (l := tail)
  calc s.drop (p + (tail.takeWhile test).length)
      = (tail.takeWhile test ++ tail.dropWhile test).drop (tail.takeWhile test).length := by
        rw [← List.drop_drop, here, split]
    _ = tail.dropWhile test := List.drop_left

theorem exists_of_lt_length_takeWhile {q : Nat} (here : s.drop p = tail)
    (first : p ≤ q) (before : q < p + (tail.takeWhile test).length) :
    ∃ c rest, s.drop q = c :: rest ∧ test c = true := by
  obtain ⟨k, rfl⟩ := Nat.exists_eq_add_of_le first
  have inside : k < (tail.takeWhile test).length := by omega
  have split : s.drop (p + k) = (tail.takeWhile test).drop k ++ tail.dropWhile test := by
    rw [← List.drop_drop, here, ← List.drop_append_of_le_length (Nat.le_of_lt inside),
      List.takeWhile_append_dropWhile]
  rw [List.drop_eq_getElem_cons inside, List.cons_append] at split
  exact ⟨_, _, split, List.mem_takeWhile_imp (List.getElem_mem inside)⟩

end Stretches

section Kinds

variable {subject : Array Char} {options : Options} {place : Place}

theorem run_class (negated : Bool) (members : List Member) :
    run subject (.oneOf negated members) options =
      step subject fun c => belongs options members c != negated :=
  rfl

theorem run_both (a b : Pattern) :
    run subject (.both a b) options place next =
      run subject a options place fun after => run subject b options after next :=
  rfl

theorem run_either (a b : Pattern) :
    run subject (.either a b) options place next =
      (run subject a options place next).or (run subject b options place next) := by
  change (run subject a options place next).orElse _ = _
  cases run subject a options place next <;> rfl

theorem run_group (index : Nat) (body : Pattern) :
    run subject (.group index body) options place next =
      run subject body options place fun after =>
        next { after with groups := (index, place.position, after.position) :: after.groups } :=
  rfl

theorem run_greedy (least : Nat) (body : Pattern) :
    run subject (.repeated .greedy least none body) options place next =
      rounds (run subject body options) .greedy least none (least + subject.size + 3) 0 none place
        next :=
  rfl

end Kinds

section Rounds

theorem step_cons (here : s.drop p = c :: tail) :
    step s.toArray test ⟨p, groups⟩ next = if test c then next ⟨p + 1, groups⟩ else none := by
  have found : s.toArray[p]? = some c := by
    rw [List.getElem?_toArray, ← List.head?_drop, here]
    rfl
  simp only [step, found]

theorem step_nil (here : s.drop p = []) : step s.toArray test ⟨p, groups⟩ next = none := by
  have found : s.toArray[p]? = none := by
    rw [List.getElem?_toArray, ← List.head?_drop, here]
    rfl
  simp only [step, found]

theorem step_eq_some_iff {place : Place} :
    step s.toArray test ⟨p, groups⟩ next = some place ↔
      ∃ c tail, s.drop p = c :: tail ∧ test c = true ∧ next ⟨p + 1, groups⟩ = some place := by
  cases here : s.drop p with
  | nil => simp [step_nil here]
  | cons c tail => simp [step_cons here]

/-- One round of a greedy repetition that has moved on since the round before. -/
theorem rounds_succ {body : Place → Continuation → Option Place} {least fuel count : Nat}
    {before : Option Nat} {place : Place} (moved : before ≠ some place.position) :
    rounds body .greedy least none (fuel + 1) count before place next =
      let more := body place fun after =>
        rounds body .greedy least none fuel (count + 1) (some place.position) after next
      if count < least then more else more.or (next place) := by
  have unmoved : (before != some place.position) = true := by simpa using moved
  rw [rounds]
  simp only [unmoved, Bool.true_and, if_true]
  cases body place _ <;> rfl

/-- A greedy repetition ends after all characters in a row that satisfy the test. For this the rest
must succeed from there, or else fail from every place before. -/
theorem rounds_greedy {least fuel count : Nat} {before : Option Nat} (within : p ≤ s.length)
    (enough : s.length < p + fuel) (moved : before ≠ some p)
    (settled : (next ⟨p + ((s.drop p).takeWhile test).length, groups⟩).isSome = true ∨
      ∀ q, p ≤ q → q < p + ((s.drop p).takeWhile test).length → next ⟨q, groups⟩ = none) :
    rounds (step s.toArray test) .greedy least none fuel count before ⟨p, groups⟩ next =
      if least ≤ count + ((s.drop p).takeWhile test).length then
        next ⟨p + ((s.drop p).takeWhile test).length, groups⟩
      else none := by
  induction fuel generalizing p count before with
  | zero => omega
  | succ fuel ih =>
    rw [rounds_succ moved]
    dsimp only
    by_cases goesOn : ∃ c tail, s.drop p = c :: tail ∧ test c = true
    · obtain ⟨c, tail, here, holds⟩ := goesOn
      have shown := congrArg List.length here
      rw [List.length_drop, List.length_cons] at shown
      have length : ((s.drop p).takeWhile test).length =
          1 + ((s.drop (p + 1)).takeWhile test).length := by
        rw [drop_succ_of_drop here, here, List.takeWhile_cons_of_pos holds, List.length_cons,
          Nat.add_comm]
      simp only [length, ← Nat.add_assoc] at settled ⊢
      have later := @ih (p + 1) (count + 1) (some p) (by omega) (by omega) (by simp)
        (settled.imp_right fun fails q later => fails q (by omega))
      rw [step_cons here, if_pos holds, later]
      by_cases few : count < least
      · rw [if_pos few]
      · rw [if_neg few, if_pos (by omega)]
        rcases settled with succeeds | fails
        · exact Option.or_of_isSome succeeds
        · rw [fails p (Nat.le_refl p) (by omega), Option.or_none]
    · have stops : (s.drop p).takeWhile test = [] := by
        cases here : s.drop p with
        | nil => rfl
        | cons c tail => exact List.takeWhile_cons_of_neg fun holds => goesOn ⟨c, tail, here, holds⟩
      have halts (next : Continuation) : step s.toArray test ⟨p, groups⟩ next = none := by
        cases here : s.drop p with
        | nil => exact step_nil here
        | cons c tail =>
          rw [step_cons here]
          exact if_neg fun holds => goesOn ⟨c, tail, here, holds⟩
      rw [halts, stops]
      by_cases few : count < least
      · rw [if_pos few, if_neg (by simpa using few)]
      · rw [if_neg few, if_pos (by simpa using few), Option.none_or]
        rfl

/-- The same for a pattern whose body takes single characters. -/
theorem run_repeated {body : Pattern} {options : Options} {least : Nat} (within : p ≤ s.length)
    (steps : run s.toArray body options = step s.toArray test)
    (settled : (next ⟨p + ((s.drop p).takeWhile test).length, groups⟩).isSome = true ∨
      ∀ q, p ≤ q → q < p + ((s.drop p).takeWhile test).length → next ⟨q, groups⟩ = none) :
    run s.toArray (.repeated .greedy least none body) options ⟨p, groups⟩ next =
      if least ≤ ((s.drop p).takeWhile test).length then
        next ⟨p + ((s.drop p).takeWhile test).length, groups⟩
      else none := by
  have enough : s.length < p + (least + s.toArray.size + 3) := by
    rw [List.size_toArray]
    omega
  rw [run_greedy, steps, rounds_greedy within enough (by simp) settled, Nat.zero_add]

end Rounds

end InputPanel.Pattern
