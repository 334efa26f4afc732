import InputPanel.Proofs.Session.Frame

/-!
# Answers replayed as properties

What a session leaves after a single pass can be put into the store at once: the
stored values, taken as properties, make of the first store one with the same
values. Both ways compile the same fields, as they start from the same store; one
that was not asked, or that failed, has a property only if its variable is stored.
-/

namespace InputPanel.Session

open Dialogue

variable {session : Session} {fields : List Field} {store : Store} {pending : List String}

/-- A name that is set has its property, or else the value that it had. -/
theorem get?_applyTo (properties : OrderedMap String) (store : Store) (names : List String)
    (name : String) :
    (applyTo properties store names).get? name =
      if name ∈ names then (properties.get? name).or (store.get? name) else store.get? name := by
  induction names generalizing store with
  | nil => simp [applyTo]
  | cons first rest ih =>
    -- A name that comes again later is set to the same property again.
    have step : applyTo properties store (first :: rest) =
        applyTo properties (applyTo properties store [first]) rest := rfl
    rw [step, ih]
    by_cases same : name = first
    · subst same
      cases given : properties.get? name with
      | none => simp [applyTo, given]
      | some value => simp [applyTo, given, OrderedMap.get?_set_self]
    · have kept : (applyTo properties store [first]).get? name = store.get? name := by
        cases given : properties.get? first with
        | none => simp [applyTo, given]
        | some value => simp [applyTo, given, OrderedMap.get?_set_of_ne store same value]
      simp [kept, same]

theorem mem_variablesOf_of_collects {field : Field} {name : String} (present : field ∈ fields)
    (collects : field.Collects name) : name ∈ variablesOf (some fields) := by
  obtain ⟨target, nonempty⟩ := named?_eq_some_iff.1 collects.2
  rw [variablesOf, Option.getD_some, List.mem_filter, List.mem_filterMap]
  exact ⟨⟨field, present, target⟩, by simpa using nonempty⟩

/-- Whether some pass of a session is redisplayed. -/
def Redisplays (session : Session) (store : Store) (pending : List String) : Prop :=
  ∃ fields last lastStore left, (session.collect store).value = .ok (some fields) ∧
    Reaches session.passTurn fields store pending last lastStore left ∧
      (session.pass last lastStore left).value = .redisplay

/-- A session in which some pass is redisplayed is so after its first one. -/
theorem redisplays_iff (collected : (session.collect store).value = .ok (some fields)) :
    session.Redisplays store pending ↔ (session.pass fields store pending).value = .redisplay := by
  constructor
  · rintro ⟨same, _, _, _, made, reached, redisplayed⟩
    rw [collected] at made
    cases made
    cases reached with
    | here => exact redisplayed
    | later leads _ => exact ((passTurn_eq_again_iff (collect_ne_none collected)).1 leads).1
  · exact fun first => ⟨fields, fields, store, pending, collected, .here, first⟩

/-- A session that is not redisplayed is one pass. -/
theorem store_run_of_single (collected : (session.collect store).value = .ok (some fields))
    (single : ¬ session.Redisplays store pending) :
    (session.run store pending).store = (session.pass fields store pending).store := by
  rw [redisplays_iff collected] at single
  cases action : (session.pass fields store pending).value with
  | proceed => exact (run_of_stop collected (passTurn_of_proceed action)).2.1
  | quit => exact (run_of_stop collected (passTurn_of_quit action)).2.1
  | redisplay => exact absurd action single

/-- A store that has grown under the variables of some fields can be had at once, by taking the
grown one as properties of these fields. -/
theorem get?_applyTo_of_grows {after : Store} {names : List String}
    (grows : Store.Grows (fun name => ∃ field ∈ fields, field.Collects name) store after)
    (targets : names = variablesOf (some fields))
    (name : String) : (applyTo after store names).get? name = after.get? name := by
  rw [get?_applyTo]
  split
  · next present =>
    cases stored : after.get? name with
    | none => simp [grows.get?_eq_none stored]
    | some value => rfl
  · next foreign =>
    refine (grows.others name ?_).symm
    rintro ⟨field, present, collects⟩
    exact foreign (targets ▸ mem_variablesOf_of_collects present collects)

/-- The values that a session leaves after one pass, taken as properties, give the store from which
it began the same values, however the session ended and whether a field failed or not. -/
theorem applyProperties_replays {result : Bool}
    (finished : (session.run store pending).value = .ok result)
    (single : ¬ session.Redisplays store pending) :
    ∃ replayed, (session.applyProperties (session.run store pending).store store).value =
        .ok replayed ∧
      ∀ name, replayed.get? name = (session.run store pending).store.get? name := by
  match made : (session.collect store).value with
  | .error failure =>
    rw [run_of_failure made] at finished
    cases finished
  | .ok none =>
    refine ⟨store, ?_, ?_⟩
    · rw [value_applyProperties, value_targets, made]
      rfl
    · intro name
      rw [run_of_excluded made]
  | .ok (some fields) =>
    have grows := grows_pass made pending
    rw [← store_run_of_single made single] at grows
    refine ⟨_, ?_, get?_applyTo_of_grows grows rfl⟩
    rw [value_applyProperties, value_targets, made]
    rfl

/-- A letter that was chosen before another field failed and the panel was quit is put into the
store by its property. -/
theorem lettered_replays :
    (lettered.run .empty ["1", "2"]).value = .ok false ∧
    ¬ lettered.Redisplays .empty ["1", "2"] ∧
    (lettered.run .empty ["1", "2"]).store = .ofList [("letter", "b")] ∧
    ∃ replayed, (lettered.applyProperties (.ofList [("letter", "b")]) .empty).value =
        .ok replayed ∧
      ∀ name, replayed.get? name = OrderedMap.get? (.ofList [("letter", "b")]) name := by
  have finished : (lettered.run .empty ["1", "2"]).value = .ok false := rfl
  have collected : (lettered.collect .empty).value = .ok (some letteredFields) := rfl
  have single : ¬ lettered.Redisplays .empty ["1", "2"] := by
    rw [redisplays_iff collected]
    decide
  have stored : (lettered.run .empty ["1", "2"]).store = .ofList [("letter", "b")] := rfl
  refine ⟨finished, single, stored, ?_⟩
  rw [← stored]
  exact applyProperties_replays finished single

end InputPanel.Session
