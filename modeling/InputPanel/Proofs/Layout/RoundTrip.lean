import InputPanel.Proofs.Layout.Shown

/-!
# Slots that are written and read

A value is written for its slot as the number of the slot in decimal, a colon and
the value. Tokens that are written so, one for each of the first slots, read as
the values they were written for: the place of a token and the white space around
it are of no account, and colons in a value stay in it. A number with more digits
than a numeral may have cannot be read, so that there is a largest row of values;
no row in a memory comes near it.
-/

namespace InputPanel.Layout

open Number (digitLimit natText numeral_natText_iff)
open Text (isBlank words)

def slotToken (k : Nat) (value : List Char) : List Char := natText k ++ ':' :: value

variable {k : Nat} {value : List Char}

section Tokens

theorem colon_not_mem_natText : ':' ∉ natText k := by
  intro inside
  have digit := Number.isDigit_of_mem_natText inside
  revert digit
  decide

theorem solid_slotToken (solid : ∀ c ∈ value, isBlank c = false) :
    ∀ c ∈ slotToken k value, isBlank c = false := by
  have digits : ∀ c ∈ natText k, isBlank c = false := by
    intro c inside
    have digit := Number.isDigit_of_mem_natText inside
    simp only [Char.isDigit, Bool.and_eq_true, decide_eq_true_eq] at digit
    have low : 48 ≤ c.toNat := digit.1
    have high : c.toNat ≤ 57 := digit.2
    simp only [isBlank, Bool.or_eq_false_iff, Bool.and_eq_false_iff, decide_eq_false_iff_not,
      beq_eq_false_iff_ne]
    omega
  rw [slotToken, List.forall_mem_append, List.forall_mem_cons]
  exact ⟨digits, by decide, solid⟩

/-- What a written token gives is what it was written for, if its index can be read. -/
theorem gives_slotToken_iff {i : Int} {other : List Char} :
    Gives (slotToken k value) i other ↔ i = k ∧ other = value ∧ k < 10 ^ digitLimit := by
  constructor
  · rintro ⟨index, same, first, spelled⟩
    have cut : Text.cutAt ':' (slotToken k value) = some (natText k, value) :=
      Text.cutAt_eq_some_iff.2 ⟨rfl, colon_not_mem_natText⟩
    rw [Text.cutAt_eq_some_iff.2 ⟨same, first⟩] at cut
    cases cut
    obtain ⟨rfl, short⟩ := numeral_natText_iff.1 spelled
    exact ⟨rfl, rfl, short⟩
  · rintro ⟨rfl, rfl, short⟩
    exact ⟨natText k, rfl, colon_not_mem_natText, numeral_natText_iff.2 ⟨rfl, short⟩⟩

theorem exists_wrong_slotToken_iff {count : Nat} (solid : ∀ c ∈ value, isBlank c = false) :
    (∃ error, Wrong count (slotToken k value) error) ↔ ¬ (k < count ∧ k < 10 ^ digitLimit) := by
  constructor
  · rintro ⟨error, wrong⟩ ⟨within, short⟩
    have gives : Gives (slotToken k value) k value := gives_slotToken_iff.2 ⟨rfl, rfl, short⟩
    have taken : assign count [] (slotToken k value) = .ok (List.set [] k (some value)) :=
      assign_of_gives (solid_slotToken solid) gives within
    rw [assign_of_wrong (solid_slotToken solid) wrong] at taken
    cases taken
  · intro beyond
    rcases token_cases (solid_slotToken (k := k) solid) count with
      free | ⟨j, within, other, gives⟩ | wrong
    · exact absurd (by simp [slotToken]) free
    · obtain ⟨same, -, short⟩ := gives_slotToken_iff.1 gives
      obtain rfl := Int.ofNat.inj same
      exact absurd ⟨within, short⟩ beyond
    · exact wrong

end Tokens

section Rows

variable {values tokens : List (List Char)}

theorem exists_lastGiven {given : List (List Char)} {token : List Char} {i : Int}
    (present : token ∈ given) (gives : Gives token i value) : ∃ last, LastGiven given i last := by
  induction given generalizing token value with
  | nil => exact absurd present List.not_mem_nil
  | cons first given ih =>
    by_cases again : ∃ later ∈ given, ∃ other, Gives later i other
    · obtain ⟨later, inside, other, gives⟩ := again
      obtain ⟨last, holds⟩ := ih inside gives
      exact ⟨last, lastGiven_cons.2 (.inl holds)⟩
    · have none : ∀ later ∈ given, ∀ other, ¬ Gives later i other := by
        intro later inside other gives
        exact again ⟨later, inside, other, gives⟩
      rcases List.mem_cons.1 present with rfl | inside
      · exact ⟨value, lastGiven_cons.2 (.inr ⟨gives, none⟩)⟩
      · exact absurd gives (none token inside value)

theorem mem_written_iff (order : tokens.Perm (values.mapIdx slotToken)) {token : List Char} :
    token ∈ tokens ↔ ∃ (k : Nat) (value : List Char), values[k]? = some value ∧
      slotToken k value = token := by
  rw [order.mem_iff, List.mem_mapIdx]
  constructor
  · rintro ⟨k, inside, same⟩
    exact ⟨k, values[k], List.getElem?_eq_getElem inside, same⟩
  · rintro ⟨k, value, there, same⟩
    obtain ⟨inside, rfl⟩ := List.getElem?_eq_some_iff.1 there
    exact ⟨k, inside, same⟩

/-- Each slot is given its value by one token, so that any order gives the same. -/
theorem lastGiven_written_iff (order : tokens.Perm (values.mapIdx slotToken))
    (short : values.length ≤ 10 ^ digitLimit) :
    LastGiven tokens k value ↔ values[k]? = some value := by
  have only {other : List Char} (last : LastGiven tokens k other) : values[k]? = some other := by
    obtain ⟨token, present, gives⟩ := last.exists_gives
    obtain ⟨j, written, there, rfl⟩ := (mem_written_iff order).1 present
    obtain ⟨same, rfl, -⟩ := gives_slotToken_iff.1 gives
    obtain rfl := Int.ofNat.inj same
    exact there
  constructor
  · exact only
  · intro there
    have inside := (List.getElem?_eq_some_iff.1 there).1
    have present : slotToken k value ∈ tokens := (mem_written_iff order).2 ⟨k, value, there, rfl⟩
    have gives : Gives (slotToken k value) k value :=
      gives_slotToken_iff.2 ⟨rfl, rfl, by omega⟩
    obtain ⟨last, holds⟩ := exists_lastGiven present gives
    have same : value = last := by
      have read := only holds
      rw [there] at read
      exact Option.some.inj read
    exact same ▸ holds

theorem getElem?_values_append {empty : Nat} :
    (values.map some ++ List.replicate empty none)[k]? = some (some value) ↔
      values[k]? = some value := by
  by_cases inside : k < values.length
  · simp [List.getElem?_append_left, inside]
  · simp [List.getElem?_append_right, Nat.le_of_not_lt inside, List.getElem?_replicate]

/-- Slots that hold the same values are the same. -/
theorem slots_ext {one two : Slots} (length : one.length = two.length)
    (same : ∀ k < one.length, ∀ value, one[k]? = some (some value) ↔ two[k]? = some (some value)) :
    one = two := by
  apply List.ext_getElem length
  intro k inside inside'
  have holds := same k inside
  rw [List.getElem?_eq_getElem inside, List.getElem?_eq_getElem inside'] at holds
  cases first : one[k] with
  | some value =>
    rw [first] at holds
    exact (Option.some.inj ((holds value).1 rfl)).symm
  | none =>
    cases second : two[k] with
    | none => rfl
    | some value =>
      rw [first, second] at holds
      exact absurd ((holds value).2 rfl) (by simp)

variable {text : List Char} {count : Nat}

theorem solid_of_getElem? (solid : ∀ value ∈ values, ∀ c ∈ value, isBlank c = false)
    (there : values[k]? = some value) : ∀ c ∈ value, isBlank c = false :=
  solid value (List.mem_of_getElem? there)

theorem words_of_written (solid : ∀ value ∈ values, ∀ c ∈ value, isBlank c = false)
    (order : tokens.Perm (values.mapIdx slotToken)) (joined : Text.Joined tokens text) :
    words text = tokens := by
  refine Text.words_of_joined ?_ ?_ joined
  · rintro token present rfl
    obtain ⟨j, written, -, empty⟩ := (mem_written_iff order).1 present
    simp [slotToken] at empty
  · intro token present
    obtain ⟨j, written, there, rfl⟩ := (mem_written_iff order).1 present
    exact solid_slotToken (solid_of_getElem? solid there)

theorem written_fails_iff (solid : ∀ value ∈ values, ∀ c ∈ value, isBlank c = false)
    (room : values.length ≤ count) (order : tokens.Perm (values.mapIdx slotToken))
    (joined : Text.Joined tokens text) :
    (∃ error, parseSlots text count = .error error) ↔ 10 ^ digitLimit < values.length := by
  rw [parseSlots_fails_iff, words_of_written solid order joined]
  constructor
  · rintro ⟨token, present, wrong⟩
    obtain ⟨j, written, there, rfl⟩ := (mem_written_iff order).1 present
    have inside := (List.getElem?_eq_some_iff.1 there).1
    have beyond := (exists_wrong_slotToken_iff (solid_of_getElem? solid there)).1 wrong
    omega
  · intro long
    have there := List.getElem?_eq_getElem long
    have present := (mem_written_iff order).2 ⟨_, _, there, rfl⟩
    refine ⟨_, present, (exists_wrong_slotToken_iff (solid_of_getElem? solid there)).2 ?_⟩
    rintro ⟨_, short⟩
    exact Nat.lt_irrefl _ short

/-- Values that are written for the first slots come back in the order of the slots, with empty
slots after them: the tokens may stand in any order, with any white space between them. That is so
exactly as long as the last index can be read. -/
theorem written_slots_read (solid : ∀ value ∈ values, ∀ c ∈ value, isBlank c = false)
    (room : values.length ≤ count) (order : tokens.Perm (values.mapIdx slotToken))
    (joined : Text.Joined tokens text) :
    parseSlots text count =
        .ok (values.map some ++ List.replicate (count - values.length) none) ↔
      values.length ≤ 10 ^ digitLimit := by
  have fails := written_fails_iff solid room order joined
  cases parsed : parseSlots text count with
  | error error =>
    have long := fails.1 ⟨error, parsed⟩
    constructor
    · rintro ⟨⟩
    · omega
  | ok slots =>
    have short : values.length ≤ 10 ^ digitLimit := by
      apply Nat.le_of_not_lt
      intro long
      obtain ⟨error, failed⟩ := fails.2 long
      rw [parsed] at failed
      cases failed
    have length : slots.length = count := (filled_parseSlots parsed).length_eq
    have same : slots = values.map some ++ List.replicate (count - values.length) none := by
      refine slots_ext ?_ fun k inside value => ?_
      · rw [List.length_append, List.length_map, List.length_replicate]
        omega
      · rw [getElem?_parseSlots (by omega) parsed, words_of_written solid order joined,
          lastGiven_written_iff order short, getElem?_values_append]
    rw [same]
    exact iff_of_true rfl short

theorem three_slots_read :
    Text.Joined ["2:".toList, "0:10".toList, "1:a:b".toList] "2:\t0:10 \n1:a:b".toList ∧
      parseSlots "2:\t0:10 \n1:a:b".toList 4 =
        .ok [some "10".toList, some "a:b".toList, some [], none] := by
  have tab : ∀ c ∈ "\t".toList, isBlank c = true := by simp [isBlank]
  have newline : ∀ c ∈ " \n".toList, isBlank c = true := by simp [isBlank]
  have joined : Text.Joined ["2:".toList, "0:10".toList, "1:a:b".toList]
      ("2:".toList ++ "\t".toList ++ ("0:10".toList ++ " \n".toList ++ "1:a:b".toList)) :=
    .cons _ (by decide) tab (.cons _ (by decide) newline (.single _))
  have solid : ∀ value ∈ ["10".toList, "a:b".toList, []], ∀ c ∈ value, isBlank c = false := by
    simp [isBlank]
  have order : ["2:".toList, "0:10".toList, "1:a:b".toList].Perm
      (["10".toList, "a:b".toList, []].mapIdx slotToken) := by decide
  have digit : 10 ^ 1 ≤ 10 ^ digitLimit := Nat.pow_le_pow_right (by decide) (by decide)
  have short : 3 ≤ 10 ^ digitLimit := by omega
  exact ⟨joined, (written_slots_read solid (by decide) order joined).2 short⟩

end Rows

end InputPanel.Layout
