import InputPanel.Proofs.Session.Passwords

/-!
# What a password leaves and what confirms it

Each input of a password stores its value before the validators judge the round.
So a value that they refuse stays under the variable if nothing more is answered.
It is also what the next input offers: where a password is entered twice, a blank
second answer takes the first one and thereby confirms it, unless expanding it
makes something else of it.
-/

namespace InputPanel.Session

open Dialogue

variable {session : Session} {field : PasswordField} {target secret : String} {store : Store}
  {answers : List String} {compiler : Compiler} {node : Node}

section Refused

variable {rounds : List (List String)} {shown : List Event} {before : Store} {binding : Binding}

/-- A password fails if the answers end with a round that is refused. Then its variable, and nothing
else, holds the last value of that round; it is as it was before the password was asked for if and
only if it already held this value. -/
theorem refused_stays (compiled : (compiler.compile node).value = .ok (.password field))
    (named : named? field.target = some target)
    (earlier : session.Refuses field target store rounds shown before)
    (complete : answers.length = field.inputs.length)
    (refused : session.refuser? field target before answers = some binding) :
    let asked := session.interviewPassword field store (rounds.flatten ++ answers)
    let last := (session.valuesOf field target before answers).getLastD ""
    asked.value = false ∧ asked.pending = [] ∧ asked.store = store.set target last ∧
      (asked.store.get? target = store.get? target ↔ store.get? target = some last) := by
  have enters := enters_of_compile compiled named
  have all := earlier.snoc complete refused
  have none : ([] : List String).length < field.inputs.length := enters.length_pos
  obtain ⟨fails, kept, unread⟩ := interviewPassword_of_few enters all none
  rw [valuesOf_nil, List.foldl_nil, earlier.set_eq] at kept
  rw [List.append_nil, List.flatten_append, List.flatten_singleton] at fails kept unread
  dsimp only
  rw [kept, OrderedMap.get?_set_self]
  exact ⟨fails, unread, rfl, eq_comm⟩

/-- Two that differ are refused, and the second one stays where there was nothing. -/
theorem paired_refused_stays :
    (paired.interviewPassword pairedField .empty ["a", "b"]).value = false ∧
    (paired.interviewPassword pairedField .empty ["a", "b"]).store = .ofList [("secret", "b")] := by
  have earlier : paired.Refuses pairedField "secret" .empty [] [] .empty := .none
  have complete : ["a", "b"].length = pairedField.inputs.length := rfl
  obtain ⟨fails, _, stored, _⟩ := refused_stays compile_pairedNode rfl earlier complete rfl
  exact ⟨fails, stored⟩

/-- So it is not true that a refused password is not kept. -/
theorem paired_not_withdrawn :
    (paired.interviewPassword pairedField .empty ["a", "b"]).value = false ∧
    (paired.interviewPassword pairedField .empty ["a", "b"]).store.get? "secret" = some "b" ∧
    OrderedMap.get? (.empty : Store) "secret" = none ∧
    ¬ ∀ (session : Session) (store before : Store) (node : Node) (field : PasswordField)
        (target : String) (rounds : List (List String)) (shown : List Event),
      ((session.compiler store).compile node).value = .ok (.password field) →
      named? field.target = some target → rounds ≠ [] →
      session.Refuses field target store rounds shown before →
        (session.interviewPassword field store rounds.flatten).store.get? target =
          store.get? target := by
  refine ⟨rfl, rfl, rfl, fun withdrawn => ?_⟩
  have refused : paired.Refuses pairedField "secret" .empty [["a", "b"]] _ _ :=
    .round rfl rfl .none
  have same := withdrawn paired .empty _ pairedNode pairedField "secret" [["a", "b"]] _
    compile_pairedNode rfl (by decide) refused
  cases same

end Refused

section Confirmed

theorem meant_nothing (answer : String) : meant "" answer = Text.trimmed answer := by
  rw [meant]
  split
  · next blank => exact (String.isEmpty_iff.1 blank).symm
  · rfl

theorem expand_empty (store : Store) : store.expand "" = "" := by
  simp [Store.expand, Expansion.pieces]

/-- An answer stands for the stored value again if it is this value, or if it is blank and the value
is not changed by expanding it. -/
theorem meant_expand_eq_iff (store : Store) (secret answer : String) :
    meant (store.expand secret) answer = secret ↔
      Text.trimmed answer = secret ∨
        Text.trimmed answer = "" ∧ store.expand secret = secret := by
  rw [meant]
  split
  · next blank =>
    rw [String.isEmpty_iff.1 blank]
    refine ⟨fun plain => .inr ⟨rfl, plain⟩, ?_⟩
    rintro (rfl | ⟨_, plain⟩)
    · exact expand_empty store
    · exact plain
  · next told =>
    refine ⟨.inl, ?_⟩
    rintro (same | ⟨blank, _⟩)
    · exact same
    · exact absurd (String.isEmpty_iff.2 blank) told

/-- Inputs that follow one that has stored a value give this value again if and only if each answer
stands for it: the value stays stored as long as they do. -/
theorem exchanges_all_eq_iff (session : Session) (stored : store.get? target = some secret)
    {inputs : List TextField} (complete : answers.length = inputs.length) :
    (∀ value ∈ (session.exchanges target store inputs answers).map Prod.snd, value = secret) ↔
      ∀ answer ∈ answers, meant (store.expand secret) answer = secret := by
  induction inputs generalizing answers with
  | nil =>
    obtain rfl := List.length_eq_zero_iff.1 complete
    simp [exchanges_nil]
  | cons input inputs ih =>
    obtain ⟨answer, answers, rfl⟩ := List.exists_cons_of_length_eq_add_one complete
    have fewer : answers.length = inputs.length := by simpa using complete
    have offers := offered_of_stored stored input.preset
    have unchanged : store.set target secret = store := OrderedMap.set_eq_self_iff.2 stored
    rw [exchanges, List.map_cons, List.forall_mem_cons, List.forall_mem_cons, exchange, offers]
    dsimp only
    refine and_congr_right fun same => ?_
    rw [same, unchanged]
    exact ih fewer

/-- The first input of a variable that is unset, with nothing to offer, takes the answer itself. -/
theorem exchange_bare (session : Session) (unset : store.get? target = none) {input : TextField}
    (bare : input.preset.getD "" = "") (answer : String) :
    (session.exchange target store input answer).2 = Text.trimmed answer := by
  rw [exchange, offered, bare, OrderedMap.getD, unset, Option.getD_none, expand_empty,
    meant_nothing]

/-- A round is accepted if and only if each later answer stands for the first one once this is
stored, and the other validators accept the first one from all inputs alike. -/
theorem refuser?_eq_none_iff {binding : Binding} {first : String} {others : List String}
    (listed : binding ∈ field.validators)
    (makes : session.factory.create binding.className = .ok Validators.passwordEquality)
    (bare : ∀ input ∈ field.inputs, input.preset.getD "" = "")
    (unset : store.get? target = none)
    (complete : (first :: others).length = field.inputs.length) :
    let secret := Text.trimmed first
    session.refuser? field target store (first :: others) = none ↔
      (∀ other ∈ others, meant (Store.expand (store.set target secret) secret) other = secret) ∧
        ∀ validator ∈ field.validators, validator ≠ binding →
          (validator.isValid session.factory
            (.many (List.replicate field.inputs.length (some secret)))).value = true := by
  intro secret
  obtain ⟨input, inputs, split⟩ := List.exists_cons_of_length_eq_add_one complete.symm
  have fewer : others.length = inputs.length := by
    rw [split] at complete
    simpa using complete
  have taken := session.exchange_bare unset (bare input (split ▸ List.mem_cons_self)) first
  have values : session.valuesOf field target store (first :: others) =
      secret :: (session.exchanges target (store.set target secret) inputs others).map Prod.snd := by
    rw [valuesOf, split, exchanges, List.map_cons, taken]
  have alike := session.exchanges_all_eq_iff (OrderedMap.get?_set_self store target secret) fewer
  -- Once all are the same, the others judge nothing but copies of the first one.
  have copies (same : ∀ value ∈ (session.exchanges target (store.set target secret) inputs
      others).map Prod.snd, value = secret) :
      (session.valuesOf field target store (first :: others)).map some =
        List.replicate field.inputs.length (some secret) := by
    have count : ((session.exchanges target (store.set target secret) inputs others).map
        Prod.snd).length = inputs.length := by
      rw [List.length_map, length_exchanges, fewer, Nat.min_self]
    rw [values, List.eq_replicate_iff.2 ⟨count, same⟩, split, List.length_cons, List.map_cons,
      List.map_replicate, List.replicate_succ]
  rw [refuser?, Binding.find?_refuses_eq_none_iff, ← alike]
  constructor
  · intro all
    have equal := all binding listed
    rw [values, Validators.isValid_passwordEquality_iff makes] at equal
    refine ⟨equal, fun validator present _ => ?_⟩
    rw [← copies equal]
    exact all validator present
  · rintro ⟨same, rest⟩ validator present
    by_cases own : validator = binding
    · rw [own, values, Validators.isValid_passwordEquality_iff makes]
      exact same
    · rw [copies same]
      exact rest validator present own

/-- A password with a validator of equality, of an unset variable and without presets, is accepted
with the first round of answers if and only if each later answer is the first one, apart from white
space around it, or is blank while expanding the first one does not change it, and the other
validators accept the first one from all inputs alike. -/
theorem confirmed_iff {binding : Binding} {first : String} {others : List String}
    (compiled : (compiler.compile node).value = .ok (.password field))
    (named : named? field.target = some target) (listed : binding ∈ field.validators)
    (makes : session.factory.create binding.className = .ok Validators.passwordEquality)
    (bare : ∀ input ∈ field.inputs, input.preset.getD "" = "")
    (unset : store.get? target = none)
    (complete : (first :: others).length = field.inputs.length) (left : List String) :
    let secret := Text.trimmed first
    let asked := session.interviewPassword field store (first :: others ++ left)
    (asked.value = true ∧ asked.pending = left) ↔
      (∀ other ∈ others, Text.trimmed other = secret ∨
        Text.trimmed other = "" ∧ Store.expand (store.set target secret) secret = secret) ∧
        ∀ validator ∈ field.validators, validator ≠ binding →
          (validator.isValid session.factory
            (.many (List.replicate field.inputs.length (some secret)))).value = true := by
  intro secret asked
  have enters := enters_of_compile compiled named
  have judged := refuser?_eq_none_iff listed makes bare unset complete
  simp only [meant_expand_eq_iff] at judged
  rw [← judged]
  constructor
  · rintro ⟨succeeded, unread⟩
    obtain ⟨other, rounds, answers, rest, shown, before, again, split, refuses, whole, accepted⟩ :=
      exists_accepted enters.inputs succeeded
    obtain rfl : target = other := Option.some.inj (named.symm.trans again)
    obtain ⟨_, _, remaining, _⟩ := interviewPassword_of_accepted enters refuses whole accepted rest
    rw [← split] at remaining
    obtain rfl : rest = left := remaining.symm.trans unread
    rw [← List.append_assoc] at split
    have taken := List.append_cancel_right split
    -- A refused round before would be one answer for each input more than there are.
    cases refuses with
    | none => exact taken ▸ accepted
    | round earlier _ _ =>
      have count := congrArg List.length taken
      have some := enters.length_pos
      rw [List.flatten_cons, List.length_append, List.length_append] at count
      omega
  · intro accepted
    obtain ⟨succeeds, _, unread, _⟩ :=
      interviewPassword_of_accepted enters .none complete accepted left
    exact ⟨succeeds, unread⟩

/-- One that is typed is confirmed by a blank. -/
theorem paired_confirmed_by_blank :
    OrderedMap.get? (.empty : Store) "secret" = none ∧
    (paired.interviewPassword pairedField .empty ["a", "", "1"]).value = true ∧
    (paired.interviewPassword pairedField .empty ["a", "", "1"]).pending = ["1"] := by
  have plain : Store.expand (.ofList [("secret", "a")]) "a" = "a" := by decide +kernel
  have makes : paired.factory.create "PasswordEqualityValidator" =
      .ok Validators.passwordEquality := rfl
  have complete : ["a", ""].length = pairedField.inputs.length := rfl
  have bare : ∀ input ∈ pairedField.inputs, input.preset.getD "" = "" := by decide
  refine ⟨rfl, (confirmed_iff compile_pairedNode rfl List.mem_cons_self makes bare rfl complete
    ["1"]).2 ⟨?_, ?_⟩⟩
  · exact List.forall_mem_singleton.2 (.inr ⟨by decide, plain⟩)
  · intro validator present own
    exact absurd (List.mem_singleton.1 present) own

/-- So not only answers that are the same are accepted. -/
theorem paired_not_retyped :
    (paired.interviewPassword pairedField .empty ["a", ""]).value = true ∧
    (paired.interviewPassword pairedField .empty ["a", ""]).store.get? "secret" = some "a" ∧
    Text.trimmed "" ≠ Text.trimmed "a" ∧
    ¬ ∀ (session : Session) (store : Store) (node : Node) (field : PasswordField)
        (target first : String) (others left : List String) (binding : Binding),
      ((session.compiler store).compile node).value = .ok (.password field) →
      named? field.target = some target → binding ∈ field.validators →
      session.factory.create binding.className = .ok Validators.passwordEquality →
      (∀ input ∈ field.inputs, input.preset.getD "" = "") → store.get? target = none →
      (first :: others).length = field.inputs.length → others ≠ [] →
      (session.interviewPassword field store (first :: others ++ left)).value = true →
      (session.interviewPassword field store (first :: others ++ left)).pending = left →
        ∀ other ∈ others, Text.trimmed other = Text.trimmed first := by
  have accepted : (paired.interviewPassword pairedField .empty ["a", ""]).value = true := by
    decide +kernel
  have spent : (paired.interviewPassword pairedField .empty ["a", ""]).pending = [] := by
    decide +kernel
  have stored : (paired.interviewPassword pairedField .empty ["a", ""]).store.get? "secret" =
      some "a" := by
    decide +kernel
  refine ⟨accepted, stored, by decide, fun retyped => ?_⟩
  have same := retyped paired .empty pairedNode pairedField "secret" "a" [""] []
    ⟨"PasswordEqualityValidator", .empty, some "Passwords differ"⟩ compile_pairedNode rfl
    List.mem_cons_self rfl (by decide) rfl rfl (by decide) accepted spent "" List.mem_cons_self
  exact absurd same (by decide)

end Confirmed

end InputPanel.Session
