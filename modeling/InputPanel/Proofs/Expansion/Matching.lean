import InputPanel.Pattern
import InputPanel.Proofs.Expansion
import InputPanel.Proofs.Pattern.Repetition

/-!
# References as matches of a pattern

The same references are found by a pattern: a dollar sign with a name in braces,
or else a dollar sign with a bare name. Where the pattern is tried, the first way
in which it matches is the reference that begins there, and its one group is the
name.
-/

namespace InputPanel.Expansion

open Pattern

/-- A dollar sign and a name in braces. -/
def bracedPattern : Pattern :=
  .both (literal '$'.toNat) (.both (literal '{'.toNat) (.both
    (.group 1 (.repeated .greedy 1 none (.oneOf false
      [.range 'A'.toNat 'Z'.toNat, .range 'a'.toNat 'z'.toNat, .range '0'.toNat '9'.toNat,
        .one '_'.toNat, .one '.'.toNat, .one '-'.toNat])))
    (literal '}'.toNat)))

/-- A dollar sign and a bare name. -/
def barePattern : Pattern :=
  .both (literal '$'.toNat) (.group 2 (.both
    (.oneOf false [.range 'A'.toNat 'Z'.toNat, .range 'a'.toNat 'z'.toNat, .one '_'.toNat])
    (.repeated .greedy 0 none (.oneOf false
      [.range 'A'.toNat 'Z'.toNat, .range 'a'.toNat 'z'.toNat, .range '0'.toNat '9'.toNat,
        .one '_'.toNat]))))

theorem read_reference :
    Pattern.read "\\$\\\x7b([A-Za-z0-9_.\\-]+)\\\x7d|\\$([A-Za-z_][A-Za-z0-9_]*)".toList =
      .ok (.either bracedPattern barePattern, .plain) := by
  decide +kernel

section Characters

variable {c : Char}

theorem isAlpha_iff : c.isAlpha = true ↔
    'A'.toNat ≤ c.toNat ∧ c.toNat ≤ 'Z'.toNat ∨ 'a'.toNat ≤ c.toNat ∧ c.toNat ≤ 'z'.toNat := by
  have upper : c.isUpper = decide ('A'.val ≤ c.val ∧ c.val ≤ 'Z'.val) := rfl
  have lower : c.isLower = (decide ('a'.val ≤ c.val) && decide (c.val ≤ 'z'.val)) := rfl
  have either : c.isAlpha = (c.isUpper || c.isLower) := rfl
  simp only [either, upper, lower, Bool.or_eq_true, Bool.and_eq_true, decide_eq_true_eq,
    UInt32.le_iff_toNat_le, Char.toNat_val]

theorem isDigit_iff : c.isDigit = true ↔ '0'.toNat ≤ c.toNat ∧ c.toNat ≤ '9'.toNat := by
  simp only [Char.isDigit, Bool.and_eq_true, decide_eq_true_eq, ge_iff_le,
    UInt32.le_iff_toNat_le, Char.toNat_val]

theorem belongs_plain_iff {members : List Member} :
    (belongs .plain members c != false) = true ↔
      members.any (Member.holds false [c.toNat] c) = true := by
  simp only [belongs, alike, Options.plain, bne_iff_ne, ne_eq, Bool.not_eq_false]
  rfl

end Characters

section Classes

variable {s : List Char} {place : Place} {next : Continuation}

/-- A class of characters is one step by the test for them. -/
theorem run_oneOf {members : List Member} {test : Char → Bool}
    (same : ∀ c, members.any (Member.holds false [c.toNat] c) = true ↔ test c = true) :
    run s.toArray (.oneOf false members) .plain = step s.toArray test := by
  have tests : (fun c => belongs .plain members c != false) = test := by
    funext c
    rw [Bool.eq_iff_iff, belongs_plain_iff, same]
  rw [run_class, tests]

theorem run_literal (c : Char) :
    run s.toArray (literal c.toNat) .plain = step s.toArray (· == c) := by
  refine run_oneOf fun d => ?_
  simp only [List.any_cons, List.any_nil, Member.holds, List.contains_cons, List.contains_nil,
    Bool.or_false, beq_iff_eq, Char.toNat_inj, eq_comm (b := d)]

theorem run_bracedChar :
    run s.toArray (.oneOf false [.range 'A'.toNat 'Z'.toNat, .range 'a'.toNat 'z'.toNat,
      .range '0'.toNat '9'.toNat, .one '_'.toNat, .one '.'.toNat, .one '-'.toNat]) .plain =
      step s.toArray isBracedChar := by
  refine run_oneOf fun c => ?_
  simp only [List.any_cons, List.any_nil, Member.holds, List.contains_cons, List.contains_nil,
    isBracedChar, Char.isAlphanum, Bool.or_eq_true, isAlpha_iff, isDigit_iff, Bool.and_eq_true,
    decide_eq_true_eq, beq_iff_eq, Bool.or_false, Char.toNat_inj, or_assoc, eq_comm (b := c)]

theorem run_bareStart :
    run s.toArray (.oneOf false [.range 'A'.toNat 'Z'.toNat, .range 'a'.toNat 'z'.toNat,
      .one '_'.toNat]) .plain = step s.toArray isBareStart := by
  refine run_oneOf fun c => ?_
  simp only [List.any_cons, List.any_nil, Member.holds, List.contains_cons, List.contains_nil,
    isBareStart, Bool.or_eq_true, isAlpha_iff, Bool.and_eq_true, decide_eq_true_eq, beq_iff_eq,
    Bool.or_false, Char.toNat_inj, or_assoc, eq_comm (b := c)]

theorem run_bareChar :
    run s.toArray (.oneOf false [.range 'A'.toNat 'Z'.toNat, .range 'a'.toNat 'z'.toNat,
      .range '0'.toNat '9'.toNat, .one '_'.toNat]) .plain = step s.toArray isBareChar := by
  refine run_oneOf fun c => ?_
  simp only [List.any_cons, List.any_nil, Member.holds, List.contains_cons, List.contains_nil,
    isBareChar, Char.isAlphanum, Bool.or_eq_true, isAlpha_iff, isDigit_iff, Bool.and_eq_true,
    decide_eq_true_eq, beq_iff_eq, Bool.or_false, Char.toNat_inj, or_assoc, eq_comm (b := c)]

end Classes

section Matches

variable {s tail : List Char} {p : Nat} {place : Place}

/-- A brace is no character of a name, so that it cannot close the name before its end. -/
theorem run_bracedName (within : p ≤ s.length) (here : s.drop p = tail) :
    run s.toArray (.both
        (.group 1 (.repeated .greedy 1 none (.oneOf false
          [.range 'A'.toNat 'Z'.toNat, .range 'a'.toNat 'z'.toNat, .range '0'.toNat '9'.toNat,
            .one '_'.toNat, .one '.'.toNat, .one '-'.toNat])))
        (literal '}'.toNat)) .plain ⟨p, []⟩ some =
      (bracedName? tail).map fun found =>
        ⟨p + found.1.length + 1, [(1, p, p + found.1.length)]⟩ := by
  rw [run_both, run_group, run_literal, run_repeated within run_bracedChar]
  · rw [here, bracedName?]
    cases named : tail.takeWhile isBracedChar with
    | nil => rfl
    | cons c more =>
      have after := drop_add_length_takeWhile here isBracedChar
      rw [named] at after
      rw [if_pos (by simp), if_neg (by simp)]
      cases closed : tail.dropWhile isBracedChar with
      | nil =>
        rw [closed] at after
        rw [step_nil after]
        rfl
      | cons d rest =>
        rw [closed] at after
        rw [step_cons after]
        by_cases brace : d = '}'
        · subst brace
          rfl
        · rw [if_neg (by simpa using brace)]
          split
          · next same => exact absurd (List.cons.inj same).1 brace
          · rfl
  · right
    intro q first before
    rw [here] at before
    obtain ⟨c, rest, there, braced⟩ := exists_of_lt_length_takeWhile here first before
    rw [step_cons there, if_neg]
    intro brace
    rw [eq_of_beq brace] at braced
    cases braced

/-- What follows the longest bare name is not asked for, so that no shorter one is tried. -/
theorem run_bareName (here : s.drop p = tail) :
    run s.toArray (.group 2 (.both
        (.oneOf false [.range 'A'.toNat 'Z'.toNat, .range 'a'.toNat 'z'.toNat, .one '_'.toNat])
        (.repeated .greedy 0 none (.oneOf false
          [.range 'A'.toNat 'Z'.toNat, .range 'a'.toNat 'z'.toNat, .range '0'.toNat '9'.toNat,
            .one '_'.toNat])))) .plain ⟨p, []⟩ some =
      (bareName? tail).map fun found =>
        ⟨p + found.1.length, [(2, p, p + found.1.length)]⟩ := by
  rw [run_group, run_both, run_bareStart]
  cases tail with
  | nil =>
    rw [step_nil here]
    rfl
  | cons first more =>
    have length := length_of_drop here
    rw [step_cons here, bareName?]
    by_cases start : isBareStart first = true
    · rw [if_pos start, if_pos start, run_repeated (by omega) run_bareChar (.inl rfl),
        if_pos (Nat.zero_le _), drop_succ_of_drop here]
      simp [Nat.add_assoc, Nat.add_comm 1]
    · rw [if_neg start, if_neg start]
      rfl

theorem run_bracedPattern (here : s.drop p = '$' :: '{' :: tail) :
    run s.toArray bracedPattern .plain ⟨p, []⟩ some =
      (bracedName? tail).map fun found =>
        ⟨p + 2 + found.1.length + 1, [(1, p + 2, p + 2 + found.1.length)]⟩ := by
  have brace := drop_succ_of_drop here
  have length := length_of_drop brace
  rw [bracedPattern, run_both, run_literal, step_cons here, if_pos (beq_self_eq_true _), run_both,
    run_literal, step_cons brace, if_pos (beq_self_eq_true _)]
  exact run_bracedName (by omega) (drop_succ_of_drop brace)

theorem run_bracedPattern_of_unbraced (unbraced : ∀ inner, s.drop p ≠ '$' :: '{' :: inner) :
    run s.toArray bracedPattern .plain ⟨p, []⟩ some = none := by
  rw [bracedPattern, run_both, run_literal, Option.eq_none_iff_forall_ne_some]
  intro place found
  obtain ⟨c, tail, here, dollar, found⟩ := step_eq_some_iff.1 found
  rw [run_both, run_literal] at found
  obtain ⟨d, inner, brace, braced, _⟩ := step_eq_some_iff.1 found
  rw [drop_succ_of_drop here] at brace
  rw [eq_of_beq dollar, brace, eq_of_beq braced] at here
  exact unbraced inner here

theorem run_barePattern (here : s.drop p = '$' :: tail) :
    run s.toArray barePattern .plain ⟨p, []⟩ some =
      (bareName? tail).map fun found =>
        ⟨p + 1 + found.1.length, [(2, p + 1, p + 1 + found.1.length)]⟩ := by
  rw [barePattern, run_both, run_literal, step_cons here, if_pos (beq_self_eq_true _)]
  exact run_bareName (drop_succ_of_drop here)

theorem run_barePattern_of_undollared (undollared : ∀ tail, s.drop p ≠ '$' :: tail) :
    run s.toArray barePattern .plain ⟨p, []⟩ some = none := by
  rw [barePattern, run_both, run_literal, Option.eq_none_iff_forall_ne_some]
  intro place found
  obtain ⟨c, tail, here, dollar, _⟩ := step_eq_some_iff.1 found
  rw [eq_of_beq dollar] at here
  exact undollared tail here

/-- Where a reference begins, the first way in which the pattern matches is this reference, with its
name as the only group. -/
theorem run_reference_of_begins {text name spelling rest : List Char} (here : s.drop p = text)
    (begins : Begins text name spelling rest) :
    ∃ index first, run s.toArray (.either bracedPattern barePattern) .plain ⟨p, []⟩ some =
        some ⟨p + spelling.length, [(index, first, first + name.length)]⟩ ∧
      (s.drop first).take name.length = name := by
  rw [run_either]
  cases begins with
  | braced named allowed =>
    rw [run_bracedPattern here, bracedName?_eq_some_iff.2 ⟨rfl, named, allowed⟩]
    refine ⟨1, p + 2, ?_, ?_⟩
    · have position : p + 2 + name.length + 1 = p + ('$' :: '{' :: (name ++ ['}'])).length := by
        simp only [List.length_cons, List.length_append, List.length_nil]
        omega
      rw [← position]
      rfl
    · rw [drop_succ_of_drop (drop_succ_of_drop here), List.take_left' rfl]
  | @bare first more _ start allowed longest =>
    have unbraced : ∀ inner, s.drop p ≠ '$' :: '{' :: inner := by
      intro inner braced
      rw [here] at braced
      cases braced
      cases start
    rw [run_bracedPattern_of_unbraced unbraced, run_barePattern here,
      bareName?_eq_some_iff.2 ⟨_, _, rfl, rfl, start, allowed, longest⟩]
    refine ⟨2, p + 1, ?_, ?_⟩
    · have position : p + 1 + (first :: more).length = p + ('$' :: first :: more).length := by
        simp only [List.length_cons]
        omega
      rw [← position]
      rfl
    · rw [drop_succ_of_drop here, ← List.cons_append, List.take_left' rfl]

/-- Where no reference begins, the pattern does not match. -/
theorem run_reference_of_not_begins
    (none : ∀ name spelling rest, ¬ Begins (s.drop p) name spelling rest) :
    run s.toArray (.either bracedPattern barePattern) .plain ⟨p, []⟩ some = Option.none := by
  rw [run_either]
  by_cases dollared : ∃ tail, s.drop p = '$' :: tail
  · obtain ⟨tail, here⟩ := dollared
    rw [here] at none
    have unfound : referenceAfterDollar? tail = Option.none := by
      cases found : referenceAfterDollar? tail with
      | none => rfl
      | some parts => exact absurd (referenceAfterDollar?_eq_some_iff.1 found) (none _ _ _)
    rw [run_barePattern here]
    unfold referenceAfterDollar? at unfound
    split at unfound
    · next inner =>
      rw [run_bracedPattern here, Option.map_eq_none_iff.1 unfound]
      rfl
    · next unbraced =>
      rw [run_bracedPattern_of_unbraced, Option.map_eq_none_iff.1 unfound]
      · rfl
      · intro inner braced
        rw [here] at braced
        exact unbraced inner (List.cons.inj braced).2
  · have undollared : ∀ tail, s.drop p ≠ '$' :: tail := fun tail here => dollared ⟨tail, here⟩
    rw [run_bracedPattern_of_unbraced fun inner => undollared _,
      run_barePattern_of_undollared undollared]
    rfl

end Matches

/-- A text is read in one way, from the left, and nothing of it is lost. Expanding puts for each
reference the value of its variable, or the reference itself if the variable is not set; so the
other variables have no say, and a text whose variables are all unset stays as it is. What begins a
reference is told by a pattern: where it is tried, it matches exactly a reference that begins there,
taken by the first way in which it matches. -/
theorem expand_replaces (store : Store) (text : String) :
    (∃ found, (∀ other, Reads text.toList other ↔ other = found) ∧
      found.flatMap Piece.spelling = text.toList ∧
      (∀ out, Replaced store found out ↔ out = (store.expand text).toList) ∧
      ((∀ name spelling, .reference name spelling ∈ found →
        store.get? (String.ofList name) = none) → store.expand text = text) ∧
      ∀ other : Store, (∀ name spelling, .reference name spelling ∈ found →
        store.get? (String.ofList name) = other.get? (String.ofList name)) →
        store.expand text = other.expand text) ∧
    ∃ pattern,
      Pattern.read "\\$\\\x7b([A-Za-z0-9_.\\-]+)\\\x7d|\\$([A-Za-z_][A-Za-z0-9_]*)".toList =
        .ok (pattern, .plain) ∧
      ∀ p,
        (∀ name spelling rest, Begins (text.toList.drop p) name spelling rest →
          ∃ index first, run text.toList.toArray pattern .plain ⟨p, []⟩ some =
              some ⟨p + spelling.length, [(index, first, first + name.length)]⟩ ∧
            (text.toList.drop first).take name.length = name) ∧
        ((∀ name spelling rest, ¬ Begins (text.toList.drop p) name spelling rest) →
          run text.toList.toArray pattern .plain ⟨p, []⟩ some = none) := by
  constructor
  · refine ⟨pieces text.toList, fun other => reads_iff, (reads_pieces _).flatMap_spelling, ?_, ?_,
      ?_⟩
    · intro out
      rw [Store.expand, String.toList_ofList]
      exact replaced_iff
    · intro unset
      rw [Store.expand, flatMap_render_of_unset unset, (reads_pieces _).flatMap_spelling,
        String.ofList_toList]
    · intro other alike
      refine Store.expand_congr fun name referred => ?_
      obtain ⟨spelling, present⟩ := referred
      have same := alike _ _ present
      rwa [String.ofList_toList] at same
  · exact ⟨_, read_reference, fun p => ⟨fun name spelling rest begins =>
      run_reference_of_begins rfl begins, run_reference_of_not_begins⟩⟩

end InputPanel.Expansion
