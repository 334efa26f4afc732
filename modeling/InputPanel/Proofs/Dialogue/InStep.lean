import InputPanel.Dialogue

/-!
# Dialogues in step

A dialogue is held twice, from different stores and with the same answers. The two runs
are in step if they show and note the same, take the same answers and come to the same
result. A relation that holds of the two stores, and of the answers that are left, is
thereby led over to another one: so dialogues that follow one another are in step if each
of them is from where the one before it ends. Turns are in step if each of them keeps one
relation.
-/

namespace InputPanel

/-- What may hold of two stores and of the answers that are left. -/
abbrev StoreRelation := Store → Store → List String → Prop

/-- Outcomes that differ at most in their stores, and in these only within a relation. -/
structure Outcome.InStep {α : Type} (one other : Outcome α) (after : α → StoreRelation) :
    Prop where
  value : one.value = other.value
  pending : one.pending = other.pending
  events : one.events = other.events
  notices : one.notices = other.notices
  stores : after one.value one.store other.store one.pending

namespace Dialogue

variable {α β σ : Type} {before : StoreRelation} {after : α → StoreRelation}

/-- A dialogue whose runs from related stores are in step. -/
def InStep (before : StoreRelation) (d : Dialogue α) (after : α → StoreRelation) : Prop :=
  ∀ one other pending, before one other pending → (d one pending).InStep (d other pending) after

theorem inStep_pure {a : α}
    (led : ∀ one other pending, before one other pending → after a one other pending) :
    InStep before (pure a : Dialogue α) after :=
  fun _ _ _ related => ⟨rfl, rfl, rfl, rfl, led _ _ _ related⟩

theorem inStep_noted (x : Noted α) : InStep before (noted x) fun _ => before :=
  fun _ _ _ related => ⟨rfl, rfl, rfl, rfl, related⟩

theorem inStep_note (notice : Notice) : InStep before (note notice) fun _ => before :=
  inStep_noted _

theorem inStep_print (text : String) : InStep before (print text) fun _ => before :=
  fun _ _ _ related => ⟨rfl, rfl, rfl, rfl, related⟩

theorem inStep_set {name value : String} {written : StoreRelation}
    (led : ∀ one other pending, before one other pending →
      written (one.set name value) (other.set name value) pending) :
    InStep before (set name value) fun _ => written :=
  fun _ _ _ related => ⟨rfl, rfl, rfl, rfl, led _ _ _ related⟩

theorem inStep_bind {d : Dialogue α} {f : α → Dialogue β} {mid : α → StoreRelation}
    {after : β → StoreRelation} (first : InStep before d mid)
    (next : ∀ a, InStep (mid a) (f a) after) : InStep before (d >>= f) after := by
  intro one other pending related
  obtain ⟨value, left, events, notices, between⟩ := first one other pending related
  have later := next _ _ _ _ between
  have run (store : Store) : (d >>= f) store pending = andThen d f store pending := rfl
  rw [run, run]
  unfold andThen
  dsimp only
  rw [← value, ← left, ← events, ← notices]
  exact ⟨later.value, later.pending, by rw [later.events], by rw [later.notices], later.stores⟩

section Turns

variable {turn : σ → Dialogue (Turn σ α)} {spent : α} {kept : StoreRelation}

theorem inStep_turnsWithin (each : ∀ state, InStep kept (turn state) fun _ => kept) (fuel : Nat) :
    ∀ state, InStep kept (turnsWithin turn spent fuel state) fun _ => kept := by
  induction fuel with
  | zero => exact fun _ => inStep_pure fun _ _ _ related => related
  | succ fuel ih =>
    intro state
    refine inStep_bind (each state) fun made => ?_
    cases made with
    | again next => exact ih next
    | stop value => exact inStep_pure fun _ _ _ related => related

/-- What each turn keeps is kept by all of them. -/
theorem inStep_turns (each : ∀ state, InStep kept (turn state) fun _ => kept) (state : σ) :
    InStep kept (turns turn spent state) fun _ => kept := by
  intro one other pending related
  exact inStep_turnsWithin each (pending.length + 1) state one other pending related

end Turns

end Dialogue

end InputPanel
