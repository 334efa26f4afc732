import InputPanel.Proofs.Dialogue.Turns

/-!
# What a dialogue writes

A store grows under some names if all its names stay, in their order and before
any new one, and no other name has another value than before. A dialogue writes
some names only if the store grows under these whatever is answered. Whether it
does is told from its parts, turns included. Questions and notices write nothing.
-/

namespace InputPanel

/-- One store after another: names are never taken out or moved, and only names that are `own` are
new or have another value. -/
structure Store.Grows (own : String → Prop) (before after : Store) : Prop where
  names : before.keys <+: after.keys
  others : ∀ name, ¬ own name → after.get? name = before.get? name

namespace Store

variable {own wider : String → Prop} {first second third : Store}

theorem Grows.refl (store : Store) : Grows own store store :=
  ⟨List.prefix_rfl, fun _ _ => rfl⟩

theorem Grows.trans (one : Grows own first second) (other : Grows own second third) :
    Grows own first third := by
  refine ⟨one.names.trans other.names, ?_⟩
  intro name foreign
  calc third.get? name = second.get? name := other.others name foreign
    _ = first.get? name := one.others name foreign

theorem Grows.mono (grows : Grows own first second) (le : ∀ name, own name → wider name) :
    Grows wider first second :=
  ⟨grows.names, fun name foreign => grows.others name fun mine => foreign (le name mine)⟩

theorem grows_set (store : Store) {name : String} (mine : own name) (value : String) :
    Grows own store (store.set name value) := by
  refine ⟨OrderedMap.keys_isPrefix_set store name value, ?_⟩
  intro other foreign
  have different : other ≠ name := by
    rintro rfl
    exact foreign mine
  exact OrderedMap.get?_set_of_ne store different value

/-- A name that has no value after has had none before. -/
theorem Grows.get?_eq_none {name : String} (grows : Grows own first second)
    (absent : second.get? name = none) : first.get? name = none := by
  rw [OrderedMap.get?_eq_none_iff] at absent ⊢
  intro present
  exact absent (grows.names.subset present)

end Store

namespace Dialogue

variable {α β σ : Type} {own wider : String → Prop}

/-- A question writes nothing, however often it is put. -/
theorem store_answerTo {question : Event} (judge : String → Noted (Verdict α)) (store : Store)
    (pending : List String) : (answerTo question judge store pending).store = store := by
  induction pending with
  | nil => rfl
  | cons answer rest ih =>
    cases verdict : (judge answer).value with
    | accepted value => simp [answerTo, verdict]
    | refused reason => simpa [answerTo, verdict] using ih

theorem store_askNumber (text : String) (least greatest default : Int) (store : Store)
    (pending : List String) : (askNumber text least greatest default store pending).store = store :=
  store_answerTo _ store pending

/-- A dialogue after which all names stay, and only those that are `own` are new or have another
value. -/
def Writes (own : String → Prop) (d : Dialogue α) : Prop :=
  ∀ store pending, Store.Grows own store (d store pending).store

theorem writes_of_store_eq {d : Dialogue α}
    (kept : ∀ store pending, (d store pending).store = store) : Writes own d := by
  intro store pending
  rw [kept]
  exact Store.Grows.refl store

theorem writes_pure (a : α) : Writes own (pure a : Dialogue α) :=
  writes_of_store_eq fun _ _ => rfl

theorem writes_store : Writes own store := writes_of_store_eq fun _ _ => rfl

theorem writes_print (text : String) : Writes own (print text) := writes_of_store_eq fun _ _ => rfl

theorem writes_noted (x : Noted α) : Writes own (noted x) := writes_of_store_eq fun _ _ => rfl

theorem writes_note (notice : Notice) : Writes own (note notice) := writes_noted _

theorem writes_ask (question : Event) (judge : String → Noted (Verdict α)) :
    Writes own (ask question judge) := writes_of_store_eq (store_answerTo judge)

theorem writes_set {name : String} (mine : own name) (value : String) :
    Writes own (set name value) := fun store _ => Store.grows_set store mine value

theorem writes_bind {d : Dialogue α} {f : α → Dialogue β} (first : Writes own d)
    (next : ∀ a, Writes own (f a)) : Writes own (d >>= f) := by
  intro store pending
  rw [store_bind]
  exact (first store pending).trans (next _ _ _)

/-- What follows need write such names only after results that the first part can have. -/
theorem writes_bind_of_gives {d : Dialogue α} {f : α → Dialogue β} {mid : α → Prop}
    (first : Writes own d) (result : Gives d fun a _ => mid a)
    (next : ∀ a, mid a → Writes own (f a)) : Writes own (d >>= f) := by
  intro store pending
  rw [store_bind]
  exact (first store pending).trans (next _ (result store pending) _ _)

theorem Writes.mono {d : Dialogue α} (h : Writes own d) (le : ∀ name, own name → wider name) :
    Writes wider d := fun store pending => (h store pending).mono le

section Turns

variable {turn : σ → Dialogue (Turn σ α)} {spent : α}

/-- A store grows over all turns under the names under which it grows in each turn that comes up. -/
theorem Repeats.grows {state : σ} {store : Store} {pending : List String} {outcome : Outcome α}
    (run : Repeats turn state store pending outcome)
    (each : ∀ {last lastStore left}, Reaches turn state store pending last lastStore left →
      Store.Grows own lastStore (turn last lastStore left).store) :
    Store.Grows own store outcome.store := by
  induction run with
  | stop last => exact each .here
  | again leads rest ih =>
    have first := each .here
    have later := ih fun reached => each (.later leads reached)
    exact first.trans later

theorem writes_turns (takes : TakesAnswers turn) (each : ∀ state, Writes own (turn state))
    (state : σ) : Writes own (turns turn spent state) := by
  intro store pending
  have run : Repeats turn state store pending (turns turn spent state store pending) :=
    repeats_turns takes state store pending
  exact run.grows fun _ => each _ _ _

end Turns

end Dialogue

end InputPanel
