import InputPanel.Proofs.Session.Selections

/-!
# Fields that fail

A field that fails has stored nothing, as a value is stored only when it is accepted, and
then the field succeeds. A password is the exception: it stores the value of each answer
before this is judged, and the value stays when it fails. It fails only when the answers
have come to an end, so that its variable holds what the last of them stands for.
-/

namespace InputPanel.Session

open Dialogue

variable {session : Session} {store : Store} {target : String} {pending : List String}

section Entries

variable {field : PasswordField} {preset : Option String} {answers : List String}

/-- The values that answers stand for, as each value is stored before the next answer is taken. -/
def entries (target : String) (preset : Option String) : Store → List String → List String
  | _, [] => []
  | store, answer :: answers =>
    let value := meant (offered store target preset) answer
    value :: entries target preset (store.set target value) answers

theorem length_entries (target : String) (preset : Option String) (store : Store)
    (answers : List String) : (entries target preset store answers).length = answers.length := by
  induction answers generalizing store with
  | nil => rfl
  | cons answer answers ih => rw [entries, List.length_cons, ih, List.length_cons]

theorem entries_append (target : String) (preset : Option String) (store : Store)
    (answers others : List String) :
    let values := entries target preset store answers
    entries target preset store (answers ++ others) =
      values ++ entries target preset
        (values.foldl (fun store value => store.set target value) store) others := by
  induction answers generalizing store with
  | nil => rfl
  | cons answer answers ih => exact congrArg (_ :: ·) (ih _)

theorem foldl_set_eq_elim (target : String) (values : List String) (store : Store) :
    values.foldl (fun store value => store.set target value) store =
      values.getLast?.elim store (store.set target) := by
  cases values with
  | nil => rfl
  | cons first others =>
    rw [foldl_set, List.getLastD_eq_getLast?, List.getLast?_cons]
    rfl

/-- What the inputs of a password offer at first counts only for the first of them: those after it
offer what is stored by then. -/
theorem exchanges_eq_entries (session : Session) {inputs : List TextField}
    (few : answers.length ≤ inputs.length)
    (offers : (store.get? target).isSome = true ∨
      inputs.head?.bind TextField.preset = preset) :
    (session.exchanges target store inputs answers).map Prod.snd =
      entries target preset store answers := by
  induction inputs generalizing answers store with
  | nil =>
    obtain rfl := List.length_eq_zero_iff.1 (Nat.le_zero.1 few)
    rfl
  | cons input inputs ih =>
    cases answers with
    | nil => rfl
    | cons answer answers =>
      have same : offered store target input.preset = offered store target preset := by
        rcases offers with present | first
        · obtain ⟨value, stored⟩ := Option.isSome_iff_exists.1 present
          rw [offered_of_stored stored, offered_of_stored stored]
        · rw [← first]
          rfl
      have next : ((store.set target (session.exchange target store input answer).2).get?
          target).isSome = true := by
        rw [OrderedMap.get?_set_self]
        rfl
      have later := ih (Nat.le_of_succ_le_succ few) (.inl next)
      rw [exchanges, List.map_cons, later, entries, exchange, same]

/-- Refused rounds store the values of their answers one after the other. -/
theorem Refuses.store_eq {rounds : List (List String)} {shown : List Event} {before : Store}
    (enters : Enters field target)
    (refuses : session.Refuses field target store rounds shown before)
    (offers : (store.get? target).isSome = true ∨ (Field.password field).preset = preset) :
    before = (entries target preset store rounds.flatten).foldl
        (fun store value => store.set target value) store ∧
      ((before.get? target).isSome = true ∨ (Field.password field).preset = preset) := by
  induction refuses with
  | none => exact ⟨rfl, offers⟩
  | @round store before answers rounds shown binding complete refused later ih =>
    have values : session.valuesOf field target store answers =
        entries target preset store answers :=
      session.exchanges_eq_entries (Nat.le_of_eq complete) offers
    have after : store.set target ((session.valuesOf field target store answers).getLastD "") =
        (entries target preset store answers).foldl (fun store value => store.set target value)
          store := by
      obtain ⟨first, others, entered, _⟩ := session.askInputs_of_enters enters complete store []
      rw [← values, entered, foldl_set]
    have present : ((store.set target ((session.valuesOf field target store answers).getLastD
        "")).get? target).isSome = true := by
      rw [OrderedMap.get?_set_self]
      rfl
    obtain ⟨last, still⟩ := ih (.inl present)
    refine ⟨?_, still⟩
    rw [last, after, List.flatten_cons, entries_append, List.foldl_append]

end Entries

section Failures

/-- A password that fails has taken all answers, and its variable, and nothing else, holds the value
of the last of them, if there is one. -/
theorem interviewPassword_of_false {field : PasswordField} (enters : Enters field target)
    (failed : (session.interviewPassword field store pending).value = false) :
    let values := entries target (Field.password field).preset store pending
    let asked := session.interviewPassword field store pending
    asked.pending = [] ∧ asked.store = values.getLast?.elim store (store.set target) := by
  obtain ⟨rounds, rest, shown, before, split, refuses, few | ⟨answers, left, parts, whole⟩⟩ :=
    session.exists_refuses enters store pending
  · obtain ⟨stored, offers⟩ := refuses.store_eq enters (.inr rfl)
    obtain ⟨_, after, unread⟩ := interviewPassword_of_few enters refuses few
    have values : session.valuesOf field target before rest =
        entries target (Field.password field).preset before rest :=
      session.exchanges_eq_entries (Nat.le_of_lt few) offers
    rw [← split, values] at after
    rw [← split] at unread
    refine ⟨unread, ?_⟩
    rw [after, ← foldl_set_eq_elim, split, entries_append, List.foldl_append, ← stored]
  · obtain ⟨succeeded, _⟩ := interviewPassword_of_accepted enters refuses whole.1 whole.2 left
    rw [← parts, ← split, failed] at succeeded
    cases succeeded

/-- Where a field succeeds just if a value is given, and stores it then, it stores nothing when it
fails. -/
theorem store_of_failed {α : Type} {given : Option α} {setTo : α → Store} {after : Store}
    (failed : given.isSome = false) (stored : after = given.elim store setTo) : after = store := by
  cases given with
  | none => exact stored
  | some value => cases failed

theorem store_interviewText_of_false {field : TextField}
    (failed : (session.interviewText field store pending).value = false) :
    (session.interviewText field store pending).store = store := by
  obtain ⟨succeeds, after, _⟩ := session.interviewText_follows field store pending
  exact store_of_failed (succeeds.symm.trans failed) after

theorem store_interviewChoice_of_false {field : ChoiceField}
    (failed : (session.interviewChoice field store pending).value.2 = false) :
    (session.interviewChoice field store pending).store = store := by
  cases named : named? field.target with
  | none =>
    rw [interviewChoice, named]
    rfl
  | some target =>
    by_cases full : field.choices = []
    · have kept := (printText_follows field.description store pending).1
      simp only [interviewChoice, named, store_bind, full, List.isEmpty_nil, if_true, store_pure]
      exact kept
    · obtain ⟨succeeds, after, _⟩ := session.interviewChoice_follows named full store pending
      exact store_of_failed (succeeds.symm.trans failed) after

theorem store_interviewCheck_of_false {field : CheckField}
    (failed : (session.interviewCheck field store pending).value.2 = false) :
    (session.interviewCheck field store pending).store = store := by
  cases named : named? field.target with
  | none =>
    rw [interviewCheck, named]
    rfl
  | some target =>
    cases defined : field.box with
    | none =>
      rw [interviewCheck, named, defined]
      rfl
    | some box =>
      obtain ⟨succeeds, after, _⟩ := session.interviewCheck_follows named defined store pending
      exact store_of_failed (succeeds.symm.trans failed) after

variable {field : Field}

/-- A field that fails leaves the store as it was, unless it is a password with a variable: then all
answers have been taken, and the variable, and nothing else, holds the value of the last of them, if
there is one. -/
theorem failed_interview_keeps {compiler : Compiler} {node : Node}
    (compiled : (compiler.compile node).value = .ok field)
    (failed : (session.interview field store pending).value.2 = false) :
    let asked := session.interview field store pending
    (∀ password target, field = .password password → named? password.target = some target →
      let values := entries target field.preset store pending
      asked.pending = [] ∧ values.length = pending.length ∧
        asked.store = values.getLast?.elim store (store.set target)) ∧
    ((∀ password, field = .password password → named? password.target = none) →
      asked.store = store) := by
  intro asked
  constructor
  · rintro password target rfl named
    obtain ⟨unread, after⟩ := interviewPassword_of_false (enters_of_compile compiled named) failed
    exact ⟨unread, length_entries _ _ _ _, after⟩
  · intro unnamed
    cases field with
    | filler decoration => cases failed
    | decoration decoration => cases failed
    | text f => exact store_interviewText_of_false failed
    | choice f => exact store_interviewChoice_of_false failed
    | check f => exact store_interviewCheck_of_false failed
    | password f =>
      obtain ⟨nodes, some, inputs⟩ := Compiler.inputs_of_compile compiled
      exact (interviewPassword_of_unnamed some inputs (unnamed f rfl) store pending).2

/-- A round that is refused and the one answer after it: this stays. -/
theorem paired_failed_keeps :
    ((paired.compiler .empty).compile pairedNode).value = .ok (.password pairedField) ∧
    let asked := paired.interview (.password pairedField) .empty ["a", "b", " c "]
    asked.value.2 = false ∧ asked.pending = [] ∧ asked.store = .ofList [("secret", "c")] := by
  have failed : (paired.interview (.password pairedField) .empty ["a", "b", " c "]).value.2 =
      false := rfl
  obtain ⟨unread, _, after⟩ :=
    (failed_interview_keeps compile_pairedNode failed).1 pairedField "secret" rfl rfl
  exact ⟨compile_pairedNode, failed, unread, after⟩

end Failures

end InputPanel.Session
