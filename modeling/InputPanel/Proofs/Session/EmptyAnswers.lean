import InputPanel.Proofs.Session.Selections

/-!
# Empty answers

An empty answer takes what is offered, and a field whose variable is stored offers
the stored value. Whether that is kept depends on the value: references in it are
expanded, validators and processors run on what comes of it, and a choice is
found only by a value that is not empty.
-/

namespace InputPanel.Session

open Dialogue

variable {session : Session} {store : Store} {target value : String}

section EmptyAnswers

theorem number?_empty (least greatest default : Int) :
    number? least greatest default "" =
      if least ≤ default ∧ default ≤ greatest then some default else none := by
  have blank : Text.trim "".toList = [] := rfl
  rw [number?, blank]
  by_cases within : least ≤ default ∧ default ≤ greatest
  · simp [within]
  · rw [if_neg within]
    simpa [Option.filter] using within

theorem value_askNumber_single (text : String) (least greatest default : Int) (store : Store)
    (answer : String) :
    (askNumber text least greatest default store [answer]).value =
      number? least greatest default answer := by
  simp only [askNumber, ask, answerTo]
  cases number? least greatest default answer with
  | none => rfl
  | some n => rfl

/-- An empty answer takes a default that is within bounds, and no other. -/
theorem value_askNumber_empty (text : String) (least greatest default : Int) (store : Store) :
    (askNumber text least greatest default store [""]).value =
      if least ≤ default ∧ default ≤ greatest then some default else none := by
  rw [value_askNumber_single, number?_empty]

/-- An empty answer stands for the offer, which is judged like any other text. -/
theorem value_judgeText_empty (field : TextField) (target offer : String) :
    (session.judgeText field target offer "").value =
      match (Binding.firstFailure session.factory (.one (some offer)) field.validators).value with
      | some binding => .refused (some (refusal binding target))
      | none => .accepted (session.processed field.processor offer).value := by
  rw [value_judgeText, textRefuser?, ← Binding.value_firstFailure]
  rfl

end EmptyAnswers

section Texts

variable {field : TextField} {question : Question}

/-- A stored value that is acceptable once it is expanded is entered by an empty answer. -/
theorem askText_of_accepted (session : Session) (isSecret : Bool)
    (named : named? field.target = some target) (posed : field.question = some question)
    {offer : String} (offers : offered store target question.preset = offer)
    (accepted : (Binding.firstFailure session.factory (.one (some offer))
      field.validators).value = none) :
    (session.askText isSecret field store [""]).value =
      some (session.processed field.processor offer).value := by
  have judged : (session.judgeText field target offer "").value =
      .accepted (session.processed field.processor offer).value := by
    rw [value_judgeText_empty, accepted]
  have none : ∀ other ∈ ([] : List String),
      (session.judgeText field target offer other).value = .refused none := List.forall_mem_nil _
  rw [askText_eq isSecret named posed, value_bind, value_store, offers]
  exact (answerTo_of_first _ _ none judged []).1

theorem askText_of_refused (isSecret : Bool) (named : named? field.target = some target)
    (posed : field.question = some question) {offer : String} {binding : Binding}
    (offers : offered store target question.preset = offer)
    (refused : (Binding.firstFailure session.factory (.one (some offer))
      field.validators).value = some binding) :
    (session.askText isSecret field store [""]).value = none := by
  have judged : ∀ answer ∈ [""], (session.judgeText field target offer answer).value =
      .refused (some (refusal binding target)) := by
    rw [List.forall_mem_singleton, value_judgeText_empty, refused]
  rw [askText_eq isSecret named posed, value_bind, value_store, offers]
  exact (answerTo_of_none _ _ judged).1

/-- An acceptable text is stored anew, as the processor makes it of the stored value. -/
theorem interviewText_of_accepted (session : Session) (named : named? field.target = some target)
    (posed : field.question.isSome = true) (stored : store.get? target = some value)
    (accepted : (Binding.firstFailure session.factory (.one (some (store.expand value)))
      field.validators).value = none) :
    let asked := session.interviewText field store [""]
    asked.value = true ∧ asked.store =
      store.set target (session.processed field.processor (store.expand value)).value := by
  obtain ⟨question, posed⟩ := Option.isSome_iff_exists.1 posed
  have entered := session.askText_of_accepted false named posed
    (offered_of_stored stored question.preset) accepted
  obtain ⟨succeeds, after, _⟩ := session.interviewText_follows field store [""]
  rw [entered] at succeeds after
  rw [getD_of_named? named] at after
  exact ⟨succeeds, after⟩

/-- A text is kept if and only if the stored value, expanded, passes all validators and is made
itself by the processor. -/
theorem interviewText_keeps_iff (named : named? field.target = some target)
    (posed : field.question.isSome = true) (stored : store.get? target = some value) :
    ((session.interviewText field store [""]).value = true ∧
        (session.interviewText field store [""]).store = store) ↔
      (Binding.firstFailure session.factory (.one (some (store.expand value)))
          field.validators).value = none ∧
        (session.processed field.processor (store.expand value)).value = value := by
  cases judged : (Binding.firstFailure session.factory (.one (some (store.expand value)))
      field.validators).value with
  | some binding =>
    obtain ⟨question, posed⟩ := Option.isSome_iff_exists.1 posed
    have offers := offered_of_stored stored question.preset
    rw [interviewText, value_bind, askText_of_refused false named posed offers judged]
    simp
  | none =>
    obtain ⟨succeeds, after⟩ := session.interviewText_of_accepted named posed stored judged
    rw [succeeds, after, OrderedMap.set_eq_self_iff_of_get? stored]
    simp

end Texts

section Choices

variable {choices : List Choice} {i : Nat}

/-- A choice that is found by a value gives it, and the value is not empty. -/
theorem valueAt_of_indexOfValue (found : indexOfValue choices value = some i) :
    i < choices.length ∧ value ≠ "" ∧ valueAt choices i = value := by
  obtain ⟨bound, named, _⟩ := List.findIdx?_eq_some_iff_getElem.1 found
  rw [beq_iff_eq, named?_eq_some_iff] at named
  refine ⟨bound, named.2, ?_⟩
  rw [valueAt_of_getElem? (List.getElem?_eq_getElem bound), named.1]
  rfl

/-- A choice that gives a value is found by it, unless the value is empty. -/
theorem indexOfValue_eq_none_iff (offered : some value ∈ choices.map Choice.value ∨ value = "") :
    indexOfValue choices value = none ↔ value = "" := by
  rw [indexOfValue, List.findIdx?_eq_none_iff]
  constructor
  · intro missing
    rcases offered with present | empty
    · obtain ⟨choice, listed, given⟩ := List.mem_map.1 present
      have unnamed := missing choice listed
      rw [given, beq_eq_false_iff_ne] at unnamed
      exact Classical.not_not.1 fun nonempty => unnamed (named?_eq_some_iff.2 ⟨rfl, nonempty⟩)
    · exact empty
  · rintro rfl
    exact List.findIdx?_eq_none_iff.1 (indexOfValue_empty choices)

/-- What a choice gives is a value of some choice, or empty. -/
theorem getD_mem_values {choice : Choice} (there : choices[i]? = some choice) :
    some (choice.value.getD "") ∈ choices.map Choice.value ∨ choice.value.getD "" = "" := by
  cases given : choice.value with
  | none => exact .inr rfl
  | some text =>
    refine .inl (List.mem_map.2 ⟨choice, List.mem_of_getElem? there, ?_⟩)
    rw [given]
    rfl

/-- A choice is kept if and only if its value is not empty. -/
theorem interviewChoice_keeps_iff {field : ChoiceField} (named : named? field.target = some target)
    (stored : store.get? target = some value) (full : field.choices ≠ [])
    (offered : some value ∈ field.choices.map Choice.value ∨ value = "") :
    ((session.interviewChoice field store [""]).value.2 = true ∧
        (session.interviewChoice field store [""]).store = store) ↔ value ≠ "" := by
  obtain ⟨succeeds, after, _⟩ := session.interviewChoice_follows named full store [""]
  rw [succeeds, after, stored, value_askNumber_empty, preselected]
  cases found : indexOfValue field.choices value with
  | none =>
    have empty := (indexOfValue_eq_none_iff offered).1 found
    simp [indexOrNone, empty]
  | some i =>
    obtain ⟨bound, nonempty, given⟩ := valueAt_of_indexOfValue found
    have number : indexOrNone (some i) = (i : Int) := rfl
    have within : (0 : Int) ≤ i ∧ (i : Int) ≤ field.choices.length - 1 := by omega
    rw [number, if_pos within, Option.elim_some, Int.toNat_natCast, given]
    simp [nonempty, OrderedMap.set_eq_self_iff_of_get? stored]

end Choices

section Boxes

variable {box : Box}

/-- What a box gives by its preset alone: one of its two values. -/
def presetValue (field : CheckField) (store : Store) : String :=
  let isTicked := (⟨none, none, field.preset⟩ : Choice).isSelected store
  (field.box.bind fun box => if isTicked then box.ticked else box.unticked).getD ""

theorem valueAt_choices (box : Box) (isTicked : Bool) :
    valueAt box.choices (if isTicked then 1 else 0 : Int).toNat =
      (if isTicked then box.ticked else box.unticked).getD "" := by
  cases isTicked <;> rfl

/-- A box is kept if and only if its value is not empty, or is given by the preset. -/
theorem interviewCheck_keeps_iff {field : CheckField} (named : named? field.target = some target)
    (stored : store.get? target = some value) (defined : field.box = some box)
    (offered : some value ∈ box.choices.map Choice.value ∨ value = "") :
    ((session.interviewCheck field store [""]).value.2 = true ∧
        (session.interviewCheck field store [""]).store = store) ↔
      value ≠ "" ∨ presetValue field store = "" := by
  obtain ⟨succeeds, after, _⟩ := session.interviewCheck_follows named defined store [""]
  have within : (0 : Int) ≤ (if ticked field box store target then 1 else 0) ∧
      (if ticked field box store target then 1 else 0 : Int) ≤ 1 := by
    split <;> decide
  rw [succeeds, after, value_askNumber_empty, if_pos within, Option.elim_some, valueAt_choices,
    OrderedMap.set_eq_self_iff_of_get? stored]
  have current := OrderedMap.getD_of_get? stored ""
  cases found : indexOfValue box.choices value with
  | none =>
    obtain rfl := (indexOfValue_eq_none_iff offered).1 found
    have untold : ticked field box store target =
        (⟨none, none, field.preset⟩ : Choice).isSelected store := by
      simp only [ticked, current, found]
    rw [untold]
    simp [presetValue, defined]
  | some i =>
    obtain ⟨bound, nonempty, given⟩ := valueAt_of_indexOfValue found
    have told : ticked field box store target = (i == 1) := by
      simp only [ticked, current, found]
    have two : box.choices.length = 2 := rfl
    have same : (if i == 1 then box.ticked else box.unticked).getD "" = value := by
      rw [two] at bound
      have first : i = 0 ∨ i = 1 := by omega
      rw [← given]
      rcases first with rfl | rfl
      · rfl
      · rfl
    rw [told, same]
    simp [nonempty]

end Boxes

section Passwords

/-- What empty answers enter into inputs of one variable: each time the value stored by then, with
its references expanded. -/
def retyped (target : String) : Nat → Store → List String
  | 0, _ => []
  | n + 1, store =>
    let entered := store.expand (store.getD target "")
    entered :: retyped target n (store.set target entered)

theorem meant_empty (offer : String) : meant offer "" = offer := rfl

/-- Empty answers to inputs of a variable that is stored enter it again and again. -/
theorem exchanges_empty (session : Session) (stored : store.get? target = some value)
    (inputs : List TextField) :
    (session.exchanges target store inputs (List.replicate inputs.length "")).map Prod.snd =
      retyped target inputs.length store := by
  induction inputs generalizing store value with
  | nil => rfl
  | cons input inputs ih =>
    have entered : (session.exchange target store input "").2 = store.expand value := by
      rw [exchange, meant_empty, offered_of_stored stored]
    have current := OrderedMap.getD_of_get? stored ""
    have now := OrderedMap.get?_set_self store target (store.expand value)
    rw [List.length_cons, List.replicate_succ, exchanges, List.map_cons, entered, ih now, retyped,
      current]

/-- A password is kept if and only if its validators accept what its inputs make of the stored
value, and this settles on the stored value. -/
theorem interviewPassword_keeps_iff {field : PasswordField} (enters : Enters field target)
    (stored : store.get? target = some value) :
    let entered := retyped target field.inputs.length store
    let asked := session.interviewPassword field store (List.replicate field.inputs.length "")
    (asked.value = true ∧ asked.store = store) ↔
      (Binding.firstFailure session.factory (.many (entered.map some)) field.validators).value =
          none ∧
        session.settled field entered = value := by
  have complete : (List.replicate field.inputs.length "").length = field.inputs.length :=
    List.length_replicate
  have values : session.valuesOf field target store (List.replicate field.inputs.length "") =
      retyped target field.inputs.length store := session.exchanges_empty stored field.inputs
  dsimp only
  rw [Binding.value_firstFailure, ← values]
  cases judged : session.refuser? field target store (List.replicate field.inputs.length "") with
  | none =>
    obtain ⟨succeeds, kept, _⟩ := interviewPassword_of_accepted enters .none complete judged []
    rw [List.flatten_nil, List.nil_append, List.append_nil] at succeeds kept
    rw [succeeds, kept, OrderedMap.set_eq_self_iff_of_get? stored, ← refuser?, judged]
    simp
  | some binding =>
    have refused : session.Refuses field target store [List.replicate field.inputs.length ""] _ _ :=
      .round complete judged .none
    have none : ([] : List String).length < field.inputs.length := enters.length_pos
    obtain ⟨fails, _⟩ := interviewPassword_of_few enters refused none
    rw [List.flatten_cons, List.flatten_nil, List.append_nil, List.append_nil] at fails
    rw [fails, ← refuser?, judged]
    simp

end Passwords

end InputPanel.Session
