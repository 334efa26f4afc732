import InputPanel.Dialogue
import InputPanel.Proofs.OrderedMap

/-!
# Questions, answers and turns

A dialogue stays within an allowance if each question takes the next answer as
long as there is one, and if the questions put after the last answer are no more
than its result allows. Dialogues that follow one another stay within what the
last of them allows. Turns that take answers come to an end of themselves.
-/

namespace InputPanel

/-- How many questions were put. -/
def Outcome.asked {α : Type} (outcome : Outcome α) : Nat := outcome.events.countP Event.isQuestion

namespace Dialogue

variable {α β σ : Type}

@[simp] theorem value_pure (a : α) (store : Store) (pending : List String) :
    ((pure a : Dialogue α) store pending).value = a := rfl

@[simp] theorem store_pure (a : α) (store : Store) (pending : List String) :
    ((pure a : Dialogue α) store pending).store = store := rfl

@[simp] theorem pending_pure (a : α) (store : Store) (pending : List String) :
    ((pure a : Dialogue α) store pending).pending = pending := rfl

@[simp] theorem events_pure (a : α) (store : Store) (pending : List String) :
    ((pure a : Dialogue α) store pending).events = [] := rfl

@[simp] theorem value_noted (x : Noted α) (store : Store) (pending : List String) :
    (noted x store pending).value = x.value := rfl

@[simp] theorem value_store (current : Store) (pending : List String) :
    (store current pending).value = current := rfl

@[simp] theorem store_store (current : Store) (pending : List String) :
    (store current pending).store = current := rfl

@[simp] theorem pending_store (current : Store) (pending : List String) :
    (store current pending).pending = pending := rfl

@[simp] theorem events_store (current : Store) (pending : List String) :
    (store current pending).events = [] := rfl

@[simp] theorem store_set (name value : String) (current : Store) (pending : List String) :
    (set name value current pending).store = OrderedMap.set current name value := rfl

@[simp] theorem pending_set (name value : String) (current : Store) (pending : List String) :
    (set name value current pending).pending = pending := rfl

@[simp] theorem events_set (name value : String) (current : Store) (pending : List String) :
    (set name value current pending).events = [] := rfl

@[simp] theorem store_print (text : String) (current : Store) (pending : List String) :
    (print text current pending).store = current := rfl

@[simp] theorem pending_print (text : String) (current : Store) (pending : List String) :
    (print text current pending).pending = pending := rfl

@[simp] theorem events_print (text : String) (current : Store) (pending : List String) :
    (print text current pending).events = [.print text] := rfl

@[simp] theorem store_noted (x : Noted α) (current : Store) (pending : List String) :
    (noted x current pending).store = current := rfl

@[simp] theorem events_noted (x : Noted α) (current : Store) (pending : List String) :
    (noted x current pending).events = [] := rfl

@[simp] theorem value_bind (d : Dialogue α) (f : α → Dialogue β) (store : Store)
    (pending : List String) :
    ((d >>= f) store pending).value = (f (d store pending).value (d store pending).store
      (d store pending).pending).value := rfl

@[simp] theorem store_bind (d : Dialogue α) (f : α → Dialogue β) (store : Store)
    (pending : List String) :
    ((d >>= f) store pending).store = (f (d store pending).value (d store pending).store
      (d store pending).pending).store := rfl

@[simp] theorem pending_bind (d : Dialogue α) (f : α → Dialogue β) (store : Store)
    (pending : List String) :
    ((d >>= f) store pending).pending = (f (d store pending).value (d store pending).store
      (d store pending).pending).pending := rfl

@[simp] theorem events_bind (d : Dialogue α) (f : α → Dialogue β) (store : Store)
    (pending : List String) :
    ((d >>= f) store pending).events = (d store pending).events ++
      (f (d store pending).value (d store pending).store (d store pending).pending).events := rfl

@[simp] theorem asked_bind (d : Dialogue α) (f : α → Dialogue β) (store : Store)
    (pending : List String) :
    ((d >>= f) store pending).asked = (d store pending).asked +
      (f (d store pending).value (d store pending).store (d store pending).pending).asked :=
  List.countP_append

section Silence

/-- A dialogue that puts no question leaves all answers. -/
def Silent (d : Dialogue α) : Prop :=
  ∀ store pending, (d store pending).pending = pending ∧ (d store pending).asked = 0

theorem silent_pure (a : α) : Silent (pure a : Dialogue α) := fun _ _ => ⟨rfl, rfl⟩

theorem silent_store : Silent store := fun _ _ => ⟨rfl, rfl⟩

theorem silent_set (name value : String) : Silent (set name value) := fun _ _ => ⟨rfl, rfl⟩

theorem silent_print (text : String) : Silent (print text) := fun _ _ => ⟨rfl, rfl⟩

theorem silent_noted (x : Noted α) : Silent (noted x) := fun _ _ => ⟨rfl, rfl⟩

theorem silent_note (notice : Notice) : Silent (note notice) := silent_noted _

theorem silent_bind {d : Dialogue α} {f : α → Dialogue β} (first : Silent d)
    (next : ∀ a, Silent (f a)) : Silent (d >>= f) := by
  intro store pending
  obtain ⟨kept, none⟩ := first store pending
  obtain ⟨left, zero⟩ := next (d store pending).value (d store pending).store pending
  rw [pending_bind, asked_bind, kept, none, left, zero]
  exact ⟨rfl, rfl⟩

end Silence

section Results

/-- What holds of the result of a dialogue and of the store that it leaves, whatever was stored
before and whatever is answered. -/
def Gives (d : Dialogue α) (holds : α → Store → Prop) : Prop :=
  ∀ store pending, holds (d store pending).value (d store pending).store

theorem gives_pure {holds : α → Store → Prop} {a : α} (h : ∀ store, holds a store) :
    Gives (pure a : Dialogue α) holds := fun store _ => h store

theorem gives_bind {d : Dialogue α} {f : α → Dialogue β} {mid : α → Prop}
    {holds : β → Store → Prop} (first : Gives d fun a _ => mid a)
    (next : ∀ a, mid a → Gives (f a) holds) : Gives (d >>= f) holds :=
  fun store pending => next _ (first store pending) _ _

theorem gives_next {d : Dialogue α} {f : α → Dialogue β} {holds : β → Store → Prop}
    (next : ∀ a, Gives (f a) holds) : Gives (d >>= f) holds := fun _ _ => next _ _ _

theorem gives_set_pure {name value : String} {a : α} {holds : α → Store → Prop}
    (h : ∀ store : Store, store.get? name = some value → holds a store) :
    Gives (do set name value; pure a) holds :=
  fun store _ => h _ (OrderedMap.get?_set_self store name value)

end Results

section Allowance

/-- Each question takes the next answer as long as there is one. With `debt` questions put after
the last answer before the dialogue, there are at most as many after it as its result allows. -/
def Within (debt : Nat) (d : Dialogue α) (allowed : α → Nat) : Prop :=
  ∀ store pending, (0 < debt → pending = []) →
    (d store pending).pending = pending.drop (d store pending).asked ∧
      debt + ((d store pending).asked - pending.length) ≤ allowed (d store pending).value

theorem within_pure {debt : Nat} {allowed : α → Nat} {a : α} (enough : debt ≤ allowed a) :
    Within debt (pure a : Dialogue α) allowed := by
  intro store pending _
  exact ⟨rfl, by simpa [Outcome.asked, pure, done] using enough⟩

theorem within_bind {debt : Nat} {d : Dialogue α} {f : α → Dialogue β} {mid : α → Nat}
    {allowed : β → Nat} (first : Within debt d mid)
    (next : ∀ a due, due ≤ mid a → Within due (f a) allowed) : Within debt (d >>= f) allowed := by
  intro store pending owed
  obtain ⟨taken, bound⟩ := first store pending owed
  have left : (d store pending).pending.length = pending.length - (d store pending).asked := by
    rw [taken, List.length_drop]
  -- Something is due after the first dialogue only if it has left no answer.
  have spent : 0 < debt + ((d store pending).asked - pending.length) →
      (d store pending).pending = [] := by
    intro due
    rw [taken, List.drop_eq_nil_iff]
    by_cases old : 0 < debt
    · simp [owed old]
    · omega
  obtain ⟨later, total⟩ := next _ _ bound (d store pending).store (d store pending).pending spent
  rw [pending_bind, asked_bind, value_bind]
  constructor
  · rw [later, taken, List.drop_drop, ← taken]
  · rw [left] at total
    omega

/-- A dialogue that asks nothing does not change what is due. -/
theorem within_silent_bind {debt : Nat} {d : Dialogue α} {f : α → Dialogue β} {allowed : β → Nat}
    (silent : Silent d) (next : ∀ a, Within debt (f a) allowed) : Within debt (d >>= f) allowed := by
  intro store pending owed
  obtain ⟨kept, none⟩ := silent store pending
  rw [pending_bind, asked_bind, value_bind, kept, none, Nat.zero_add]
  exact next _ _ _ owed

theorem Within.mono {debt : Nat} {d : Dialogue α} {allowed more : α → Nat}
    (h : Within debt d allowed) (le : ∀ a, allowed a ≤ more a) : Within debt d more := by
  intro store pending owed
  obtain ⟨taken, bound⟩ := h store pending owed
  exact ⟨taken, Nat.le_trans bound (le _)⟩

end Allowance

section Asking

variable {question : Event} (judge : String → Noted (Verdict α)) (store : Store)

theorem asked_answerTo_cons (asks : question.isQuestion = true) {answer : String}
    {rest : List String} {reason : Option String}
    (refused : (judge answer).value = .refused reason) :
    (answerTo question judge store (answer :: rest)).asked =
      (answerTo question judge store rest).asked + 1 := by
  have events : (answerTo question judge store (answer :: rest)).events =
      question :: (reason.toList.map .print ++ (answerTo question judge store rest).events) := by
    simp [answerTo, refused]
  have lines : (reason.toList.map Event.print).countP Event.isQuestion = 0 := by
    cases reason <;> rfl
  rw [Outcome.asked, events, List.countP_cons_of_pos asks, List.countP_append, lines, Nat.zero_add]
  rfl

/-- A question that finds no answer is put once more than there are answers. -/
theorem answerTo_takes (asks : question.isQuestion = true) (pending : List String) :
    (answerTo question judge store pending).pending =
        pending.drop (answerTo question judge store pending).asked ∧
      (answerTo question judge store pending).asked ≤
        pending.length + if (answerTo question judge store pending).value.isSome then 0 else 1 := by
  induction pending with
  | nil => simp [answerTo, Outcome.asked, asks]
  | cons answer rest ih =>
    cases verdict : (judge answer).value with
    | accepted value => simp [answerTo, verdict, Outcome.asked, asks]
    | refused reason =>
      rw [asked_answerTo_cons judge store asks verdict, List.drop_succ_cons, List.length_cons]
      have same : (answerTo question judge store (answer :: rest)).pending =
          (answerTo question judge store rest).pending ∧
          (answerTo question judge store (answer :: rest)).value =
            (answerTo question judge store rest).value := by
        simp [answerTo, verdict]
      rw [same.1, same.2]
      exact ⟨ih.1, by omega⟩

theorem asked_answerTo_pos (asks : question.isQuestion = true) (pending : List String) :
    0 < (answerTo question judge store pending).asked := by
  cases pending with
  | nil => simp [answerTo, Outcome.asked, asks]
  | cons answer rest =>
    cases verdict : (judge answer).value with
    | accepted value => simp [answerTo, verdict, Outcome.asked, asks]
    | refused reason =>
      rw [asked_answerTo_cons judge store asks verdict]
      exact Nat.succ_pos _

theorem within_ask (asks : question.isQuestion = true) :
    Within 0 (ask question judge) fun value => if value.isSome then 0 else 1 := by
  intro store pending _
  obtain ⟨taken, bound⟩ := answerTo_takes judge store asks pending
  refine ⟨taken, ?_⟩
  rw [Nat.zero_add]
  exact Nat.sub_le_iff_le_add'.2 bound

/-- What a question gives was accepted of some answer. -/
theorem accepted_of_answerTo {pending : List String} {value : α}
    (given : (answerTo question judge store pending).value = some value) :
    ∃ answer ∈ pending, (judge answer).value = .accepted value := by
  induction pending with
  | nil => cases given
  | cons answer rest ih =>
    cases verdict : (judge answer).value with
    | accepted first =>
      have same : first = value := by simpa [answerTo, verdict] using given
      exact ⟨answer, List.mem_cons_self, same ▸ verdict⟩
    | refused reason =>
      have later : (answerTo question judge store rest).value = some value := by
        simpa [answerTo, verdict] using given
      obtain ⟨answer, present, accepted⟩ := ih later
      exact ⟨answer, List.mem_cons_of_mem _ present, accepted⟩

/-- A dialogue that puts some question whenever its result is a wanted one. -/
def Asks (d : Dialogue α) (wanted : α → Prop) : Prop :=
  ∀ store pending, wanted (d store pending).value → 0 < (d store pending).asked

theorem asks_ask (asks : question.isQuestion = true) (wanted : Option α → Prop) :
    Asks (ask question judge) wanted := fun store pending _ =>
  asked_answerTo_pos judge store asks pending

theorem asks_bind_left {d : Dialogue α} {f : α → Dialogue β} {mid : α → Prop} {wanted : β → Prop}
    (first : Asks d mid) (only : ∀ a store pending, wanted (f a store pending).value → mid a) :
    Asks (d >>= f) wanted := by
  intro store pending result
  rw [asked_bind]
  exact Nat.add_pos_left (first store pending (only _ _ _ result)) _

theorem asks_bind_right {d : Dialogue α} {f : α → Dialogue β} {wanted : β → Prop}
    (next : ∀ a, Asks (f a) wanted) : Asks (d >>= f) wanted := by
  intro store pending result
  rw [asked_bind]
  exact Nat.add_pos_right _ (next _ _ _ result)

theorem asks_pure {a : α} {wanted : α → Prop} (unwanted : ¬ wanted a) :
    Asks (pure a : Dialogue α) wanted := fun _ _ result => absurd result unwanted

/-- A number that is given lies within the bounds. -/
theorem gives_askNumber (text : String) (least greatest default : Int) :
    Gives (askNumber text least greatest default) fun number _ =>
      ∀ n, number = some n → least ≤ n ∧ n ≤ greatest := by
  intro store pending n given
  obtain ⟨answer, _, accepted⟩ := accepted_of_answerTo _ _ given
  cases read : number? least greatest default answer with
  | none =>
    rw [read] at accepted
    cases accepted
  | some m =>
    rw [read] at accepted
    cases accepted
    have passed := (Option.filter_eq_some_iff.1 read).2
    simpa using passed

end Asking

section Turns

variable {turn : σ → Dialogue (Turn σ α)} {spent : α}

/-- Turns one after the other until one has a result, with no bound on their number. -/
inductive Repeats (turn : σ → Dialogue (Turn σ α)) :
    σ → Store → List String → Outcome α → Prop where
  | stop {state : σ} {store : Store} {pending : List String} {value : α}
      (last : (turn state store pending).value = .stop value) :
      Repeats turn state store pending ⟨value, (turn state store pending).store,
        (turn state store pending).pending, (turn state store pending).events,
        (turn state store pending).notices⟩
  | again {state next : σ} {store : Store} {pending : List String} {later : Outcome α}
      (leads : (turn state store pending).value = .again next)
      (rest : Repeats turn next (turn state store pending).store
        (turn state store pending).pending later) :
      Repeats turn state store pending ⟨later.value, later.store, later.pending,
        (turn state store pending).events ++ later.events,
        (turn state store pending).notices ++ later.notices⟩

/-- Each turn that leads to another has taken an answer. -/
def TakesAnswers (turn : σ → Dialogue (Turn σ α)) : Prop :=
  ∀ state store pending next, (turn state store pending).value = .again next →
    (turn state store pending).pending.length < pending.length

theorem turnsWithin_of_stop {state : σ} {store : Store} {pending : List String} {value : α}
    (fuel : Nat) (last : (turn state store pending).value = .stop value) :
    turnsWithin turn spent (fuel + 1) state store pending =
      ⟨value, (turn state store pending).store, (turn state store pending).pending,
        (turn state store pending).events, (turn state store pending).notices⟩ := by
  simp [turnsWithin, bind, andThen, last, pure, done]

theorem turnsWithin_of_again {state next : σ} {store : Store} {pending : List String} (fuel : Nat)
    (leads : (turn state store pending).value = .again next) :
    turnsWithin turn spent (fuel + 1) state store pending =
      let later := turnsWithin turn spent fuel next (turn state store pending).store
        (turn state store pending).pending
      ⟨later.value, later.store, later.pending,
        (turn state store pending).events ++ later.events,
        (turn state store pending).notices ++ later.notices⟩ := by
  simp [turnsWithin, bind, andThen, leads]

/-- A bound above the number of answers is never met. -/
theorem repeats_turnsWithin (takes : TakesAnswers turn) {fuel : Nat} {pending : List String}
    (enough : pending.length < fuel) (state : σ) (store : Store) :
    Repeats turn state store pending (turnsWithin turn spent fuel state store pending) := by
  induction fuel generalizing state store pending with
  | zero => omega
  | succ fuel ih =>
    cases made : (turn state store pending).value with
    | stop value =>
      rw [turnsWithin_of_stop fuel made]
      exact .stop made
    | again next =>
      have fewer := takes state store pending next made
      rw [turnsWithin_of_again fuel made]
      exact .again made (ih (by omega) next _)

theorem repeats_turns (takes : TakesAnswers turn) (state : σ) (store : Store)
    (pending : List String) :
    Repeats turn state store pending (turns turn spent state store pending) :=
  repeats_turnsWithin takes (Nat.lt_succ_self _) state store

/-- Turns have no choice. -/
theorem Repeats.unique {state : σ} {store : Store} {pending : List String}
    {first second : Outcome α} (one : Repeats turn state store pending first)
    (other : Repeats turn state store pending second) : first = second := by
  induction one generalizing second with
  | stop last =>
    cases other with
    | stop result =>
      rw [last] at result
      cases result
      rfl
    | again leads _ =>
      rw [last] at leads
      cases leads
  | again leads _ ih =>
    cases other with
    | stop result =>
      rw [leads] at result
      cases result
    | again same rest =>
      rw [leads] at same
      cases same
      rw [ih rest]

theorem turns_of_stop (takes : TakesAnswers turn) {state : σ} {store : Store}
    {pending : List String} {value : α} (last : (turn state store pending).value = .stop value) :
    turns turn spent state store pending =
      ⟨value, (turn state store pending).store, (turn state store pending).pending,
        (turn state store pending).events, (turn state store pending).notices⟩ :=
  (repeats_turns takes state store pending).unique (.stop last)

/-- A turn that leads to another is followed by what turns from there on would be. -/
theorem turns_of_again (takes : TakesAnswers turn) {state next : σ} {store : Store}
    {pending : List String} (leads : (turn state store pending).value = .again next) :
    turns turn spent state store pending =
      let later := turns turn spent next (turn state store pending).store
        (turn state store pending).pending
      ⟨later.value, later.store, later.pending,
        (turn state store pending).events ++ later.events,
        (turn state store pending).notices ++ later.notices⟩ :=
  (repeats_turns takes state store pending).unique (.again leads (repeats_turns takes next _ _))

/-- A turn that comes up, with the store and the answers that it starts from. -/
inductive Reaches (turn : σ → Dialogue (Turn σ α)) :
    σ → Store → List String → σ → Store → List String → Prop where
  | here {state : σ} {store : Store} {pending : List String} :
      Reaches turn state store pending state store pending
  | later {state next last : σ} {store lastStore : Store} {pending left : List String}
      (leads : (turn state store pending).value = .again next)
      (rest : Reaches turn next (turn state store pending).store
        (turn state store pending).pending last lastStore left) :
      Reaches turn state store pending last lastStore left

/-- What a turn that comes up leads to comes up as well. -/
theorem Reaches.step {state last next : σ} {store lastStore : Store} {pending left : List String}
    (reached : Reaches turn state store pending last lastStore left)
    (leads : (turn last lastStore left).value = .again next) :
    Reaches turn state store pending next (turn last lastStore left).store
      (turn last lastStore left).pending := by
  induction reached with
  | here => exact .later leads .here
  | later first _ ih => exact .later first (ih leads)

theorem Repeats.exists_last {state : σ} {store : Store} {pending : List String}
    {outcome : Outcome α} (run : Repeats turn state store pending outcome) :
    ∃ last lastStore left, Reaches turn state store pending last lastStore left ∧
      (turn last lastStore left).value = .stop outcome.value := by
  induction run with
  | stop last => exact ⟨_, _, _, .here, last⟩
  | again leads _ ih =>
    obtain ⟨last, lastStore, left, reached, stops⟩ := ih
    exact ⟨last, lastStore, left, .later leads reached, stops⟩

/-- Turns have no choice, so the one that has a result is the last. -/
theorem Repeats.value_eq_of_reaches {state last : σ} {store lastStore : Store}
    {pending left : List String} {outcome : Outcome α} {value : α}
    (run : Repeats turn state store pending outcome)
    (reached : Reaches turn state store pending last lastStore left)
    (stops : (turn last lastStore left).value = .stop value) : outcome.value = value := by
  induction reached generalizing outcome with
  | here =>
    cases run with
    | stop result =>
      rw [result] at stops
      cases stops
      rfl
    | again leads _ =>
      rw [leads] at stops
      cases stops
  | later leads _ ih =>
    cases run with
    | stop result =>
      rw [result] at leads
      cases leads
    | again same rest =>
      rw [same] at leads
      cases leads
      have result := ih rest stops
      exact result

theorem value_turns_iff (takes : TakesAnswers turn) {state : σ} {store : Store}
    {pending : List String} {value : α} :
    (turns turn spent state store pending).value = value ↔
      ∃ last lastStore left, Reaches turn state store pending last lastStore left ∧
        (turn last lastStore left).value = .stop value := by
  have run : Repeats turn state store pending (turns turn spent state store pending) :=
    repeats_turns takes state store pending
  constructor
  · rintro rfl
    exact run.exists_last
  · rintro ⟨last, lastStore, left, reached, stops⟩
    exact run.value_eq_of_reaches reached stops

/-- What a turn allows: nothing may be due when it leads to another. -/
def Turn.allowance (allowed : α → Nat) : Turn σ α → Nat
  | .again _ => 0
  | .stop value => allowed value

theorem takesAnswers_of_within {allowed : α → Nat}
    (each : ∀ state, Within 0 (turn state) (Turn.allowance allowed))
    (asks : ∀ state, Asks (turn state) fun made => ∃ next, made = .again next) :
    TakesAnswers turn := by
  intro state store pending next leads
  obtain ⟨taken, bound⟩ := each state store pending (by simp)
  have some := asks state store pending ⟨next, leads⟩
  rw [leads, Turn.allowance] at bound
  rw [taken, List.length_drop]
  omega

theorem within_turns {allowed : α → Nat}
    (each : ∀ state, Within 0 (turn state) (Turn.allowance allowed)) (state : σ) :
    Within 0 (turns turn spent state) allowed := by
  have bounded (fuel : Nat) : ∀ state, Within 0 (turnsWithin turn spent fuel state) allowed := by
    induction fuel with
    | zero => exact fun _ => within_pure (Nat.zero_le _)
    | succ fuel ih =>
      intro state
      refine within_bind (each state) fun made due le => ?_
      cases made with
      | again next =>
        obtain rfl := Nat.le_zero.1 le
        exact ih next
      | stop value => exact within_pure le
  intro store pending owed
  exact bounded (pending.length + 1) state store pending owed

end Turns

end Dialogue

end InputPanel
