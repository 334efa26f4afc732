import InputPanel.Dialogue

/-!
# Answers but for their margins

A dialogue that judges an answer by its trimmed text cannot tell answers apart that
differ in white space at their ends. Given such answers in the place of others it takes
as many of them, shows and notes the same, and comes to the same result and store. A
dialogue does so if its parts do: only questions look at answers, and turns go on by the
number of answers that are left.
-/

namespace InputPanel

/-- Answers that are the same one by one when they are trimmed. -/
def SameTrimmed (answers others : List String) : Prop :=
  answers.map Text.trimmed = others.map Text.trimmed

theorem SameTrimmed.length_eq {answers others : List String} (same : SameTrimmed answers others) :
    answers.length = others.length := by simpa using congrArg List.length same

/-- Outcomes that differ at most in the margins of the answers that are left. -/
structure Outcome.Matches {α : Type} (one other : Outcome α) : Prop where
  value : one.value = other.value
  store : one.store = other.store
  pending : SameTrimmed one.pending other.pending
  events : one.events = other.events
  notices : one.notices = other.notices

namespace Dialogue

variable {α β σ : Type}

/-- A dialogue for which the margins of answers make no difference. -/
def IgnoresMargins (d : Dialogue α) : Prop :=
  ∀ store {pending others}, SameTrimmed pending others →
    (d store pending).Matches (d store others)

theorem ignoresMargins_pure (a : α) : IgnoresMargins (pure a : Dialogue α) :=
  fun _ _ _ same => ⟨rfl, rfl, same, rfl, rfl⟩

theorem ignoresMargins_store : IgnoresMargins store :=
  fun _ _ _ same => ⟨rfl, rfl, same, rfl, rfl⟩

theorem ignoresMargins_set (name value : String) : IgnoresMargins (set name value) :=
  fun _ _ _ same => ⟨rfl, rfl, same, rfl, rfl⟩

theorem ignoresMargins_print (text : String) : IgnoresMargins (print text) :=
  fun _ _ _ same => ⟨rfl, rfl, same, rfl, rfl⟩

theorem ignoresMargins_noted (x : Noted α) : IgnoresMargins (noted x) :=
  fun _ _ _ same => ⟨rfl, rfl, same, rfl, rfl⟩

theorem ignoresMargins_note (notice : Notice) : IgnoresMargins (note notice) :=
  ignoresMargins_noted _

theorem ignoresMargins_bind {d : Dialogue α} {f : α → Dialogue β} (first : IgnoresMargins d)
    (next : ∀ a, IgnoresMargins (f a)) : IgnoresMargins (d >>= f) := by
  intro store pending others same
  have before := first store same
  have after := next (d store pending).value (d store pending).store before.pending
  rw [before.value, before.store] at after
  have run (answers : List String) : (d >>= f) store answers = andThen d f store answers := rfl
  rw [run, run]
  unfold andThen
  dsimp only
  rw [before.value, before.store, before.events, before.notices]
  exact ⟨after.value, after.store, after.pending, by rw [after.events], by rw [after.notices]⟩

section Asking

variable {question : Event} {judge : String → Noted (Verdict α)}

/-- A question whose answers are judged by their trimmed text. -/
theorem ignoresMargins_ask
    (trims : ∀ answer other, Text.trimmed answer = Text.trimmed other →
      judge answer = judge other) : IgnoresMargins (ask question judge) := by
  intro store pending others same
  unfold ask
  induction pending generalizing others with
  | nil =>
    cases others with
    | nil => exact ⟨rfl, rfl, rfl, rfl, rfl⟩
    | cons other rest => cases same
  | cons answer rest ih =>
    cases others with
    | nil => cases same
    | cons other more =>
      obtain ⟨first, left⟩ : Text.trimmed answer = Text.trimmed other ∧ SameTrimmed rest more := by
        simpa [SameTrimmed] using same
      have later := ih left
      rw [answerTo, answerTo, trims answer other first]
      dsimp only
      split
      · exact ⟨rfl, rfl, left, rfl, rfl⟩
      · exact ⟨later.value, later.store, later.pending, by rw [later.events],
          by rw [later.notices]⟩

theorem ignoresMargins_askNumber (text : String) (least greatest default : Int) :
    IgnoresMargins (askNumber text least greatest default) := by
  refine ignoresMargins_ask fun answer other same => ?_
  have trimmed : Text.trim answer.toList = Text.trim other.toList := String.ofList_inj.1 same
  have read : number? least greatest default answer = number? least greatest default other := by
    rw [number?, number?, trimmed]
  rw [read]

end Asking

section Turns

variable {turn : σ → Dialogue (Turn σ α)} {spent : α}

theorem ignoresMargins_turnsWithin (each : ∀ state, IgnoresMargins (turn state)) (fuel : Nat) :
    ∀ state, IgnoresMargins (turnsWithin turn spent fuel state) := by
  induction fuel with
  | zero => exact fun _ => ignoresMargins_pure spent
  | succ fuel ih =>
    intro state
    refine ignoresMargins_bind (each state) fun made => ?_
    cases made with
    | again next => exact ih next
    | stop value => exact ignoresMargins_pure value

/-- There are as many turns for answers as for the same answers with other margins. -/
theorem ignoresMargins_turns (each : ∀ state, IgnoresMargins (turn state)) (state : σ) :
    IgnoresMargins (turns turn spent state) := by
  intro store pending others same
  -- The bound on the turns is told by the number of answers alone.
  unfold turns
  rw [same.length_eq]
  exact ignoresMargins_turnsWithin each _ state store same

end Turns

end Dialogue

end InputPanel
