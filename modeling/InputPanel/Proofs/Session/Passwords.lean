import InputPanel.Proofs.Session.Texts

/-!
# Passwords in rounds

Each input of a password takes an answer and stores its value at once, all under
the one variable of the password. So what is answered falls into rounds with an
answer for each input. The validators judge the values of a round together: a
round that they refuse is followed by the line that says why and by another
round. A password is accepted with the first round that none of them refuses, and
fails if the answers come to an end before that.
-/

namespace InputPanel.Session

open Dialogue

variable {session : Session} {field : PasswordField} {target : String} {store : Store}
  {answers : List String}

section Inputs

/-- The prompt of an input, and the value that an answer to it stands for. -/
def exchange (session : Session) (target : String) (store : Store) (input : TextField)
    (answer : String) : Event × String :=
  let offer := offered store target input.preset
  (session.textPrompt true (input.question.bind Question.label) offer, meant offer answer)

/-- The prompts of inputs of one variable and the values that answers to them stand for, as each
value is stored before the next input is asked. -/
def exchanges (session : Session) (target : String) :
    Store → List TextField → List String → List (Event × String)
  | store, input :: inputs, answer :: answers =>
    let first := session.exchange target store input answer
    first :: session.exchanges target (store.set target first.2) inputs answers
  | _, _, _ => []

theorem exchanges_nil (session : Session) (target : String) (store : Store)
    (inputs : List TextField) : session.exchanges target store inputs [] = [] := by
  cases inputs with
  | nil => rfl
  | cons input inputs => rfl

theorem length_exchanges (session : Session) (target : String) (store : Store)
    (inputs : List TextField) (answers : List String) :
    (session.exchanges target store inputs answers).length =
      min inputs.length answers.length := by
  induction inputs generalizing store answers with
  | nil => cases answers <;> simp [exchanges]
  | cons input inputs ih =>
    cases answers with
    | nil => simp [exchanges_nil]
    | cons answer answers => simp [exchanges, ih]

theorem askText_input_cons (session : Session) (nonempty : target ≠ "") (node : Node)
    (store : Store) (answer : String) (rest : List String) :
    let made := session.exchange target store (Compiler.passwordInput (some target) node) answer
    session.askText true (Compiler.passwordInput (some target) node) store (answer :: rest) =
      ⟨some made.2, store, rest, [made.1], []⟩ := by
  have named : named? (Compiler.passwordInput (some target) node).target = some target :=
    named?_eq_some_iff.2 ⟨rfl, nonempty⟩
  have posed : (Compiler.passwordInput (some target) node).question =
      some ⟨node.get? "txt", node.get? "set"⟩ := rfl
  simp only [askText, named, posed]
  rfl

theorem askText_nil (session : Session) (isSecret : Bool) (field : TextField) (store : Store) :
    let asked := session.askText isSecret field store []
    asked.value = none ∧ asked.store = store ∧ asked.pending = [] := by
  dsimp only
  rw [askText]
  cases named? field.target with
  | none => exact ⟨rfl, rfl, rfl⟩
  | some target =>
    cases field.question with
    | none => exact ⟨rfl, rfl, rfl⟩
    | some question => exact ⟨rfl, rfl, rfl⟩

theorem askInputs_cons {input : TextField} {pending : List String} {value : String}
    (entered : (session.askText true input store pending).value = some value)
    (others : List TextField) :
    let asked := session.askText true input store pending
    let later := session.askInputs others (asked.store.set (input.target.getD "") value)
      asked.pending
    let all := session.askInputs (input :: others) store pending
    all.value = later.value.map (value :: ·) ∧ all.store = later.store ∧
      all.pending = later.pending ∧ all.events = asked.events ++ later.events := by
  dsimp only
  rw [askInputs, value_bind, store_bind, pending_bind, events_bind, entered]
  dsimp only
  rw [value_bind, store_bind, pending_bind, events_bind, store_set, pending_set, value_bind,
    store_bind, pending_bind, events_bind]
  cases (session.askInputs others ((session.askText true input store pending).store.set
    (input.target.getD "") value) (session.askText true input store pending).pending).value with
  | none => exact ⟨rfl, rfl, rfl, congrArg _ (List.append_nil _)⟩
  | some values => exact ⟨rfl, rfl, rfl, congrArg _ (List.append_nil _)⟩

theorem askInputs_cons_none {input : TextField} {pending : List String}
    (missing : (session.askText true input store pending).value = none)
    (others : List TextField) :
    let asked := session.askText true input store pending
    let all := session.askInputs (input :: others) store pending
    all.value = none ∧ all.store = asked.store ∧ all.pending = asked.pending := by
  dsimp only
  rw [askInputs, value_bind, store_bind, pending_bind, missing]
  exact ⟨rfl, rfl, rfl⟩

/-- Inputs that have an answer each take these answers and no more. -/
theorem askInputs_of_complete (session : Session) (nonempty : target ≠ "") {nodes : List Node}
    (complete : answers.length = nodes.length) (store : Store) (left : List String) :
    let inputs := nodes.map (Compiler.passwordInput (some target))
    let made := session.exchanges target store inputs answers
    let asked := session.askInputs inputs store (answers ++ left)
    asked.value = some (made.map Prod.snd) ∧
      asked.store = (made.map Prod.snd).foldl (fun store value => store.set target value) store ∧
      asked.pending = left ∧ asked.events = made.map Prod.fst := by
  induction nodes generalizing answers store with
  | nil =>
    obtain rfl := List.length_eq_zero_iff.1 complete
    exact ⟨rfl, rfl, rfl, rfl⟩
  | cons node nodes ih =>
    obtain ⟨answer, answers, rfl⟩ := List.exists_cons_of_length_eq_add_one complete
    have fewer : answers.length = nodes.length := by simpa using complete
    have first := session.askText_input_cons nonempty node store answer (answers ++ left)
    have entered := congrArg Outcome.value first
    obtain ⟨given, after, unread, shown⟩ :=
      askInputs_cons entered (nodes.map (Compiler.passwordInput (some target)))
    obtain ⟨others, last, remaining, later⟩ := ih fewer
      (store.set target (session.exchange target store
        (Compiler.passwordInput (some target) node) answer).2)
    rw [first] at given after unread shown
    refine ⟨given.trans ?_, after.trans last, unread.trans remaining, shown.trans ?_⟩
    · exact congrArg (Option.map _) others
    · exact congrArg (_ ++ ·) later

/-- Inputs that are more than the answers take all of these, and give nothing. -/
theorem askInputs_of_few (session : Session) (nonempty : target ≠ "") {nodes : List Node}
    (few : answers.length < nodes.length) (store : Store) :
    let inputs := nodes.map (Compiler.passwordInput (some target))
    let made := session.exchanges target store inputs answers
    let asked := session.askInputs inputs store answers
    asked.value = none ∧
      asked.store = (made.map Prod.snd).foldl (fun store value => store.set target value) store ∧
      asked.pending = [] := by
  induction nodes generalizing answers store with
  | nil => exact absurd few (Nat.not_lt_zero _)
  | cons node nodes ih =>
    cases answers with
    | nil =>
      obtain ⟨missing, kept, spent⟩ :=
        session.askText_nil true (Compiler.passwordInput (some target) node) store
      obtain ⟨nothing, after, unread⟩ :=
        askInputs_cons_none missing (nodes.map (Compiler.passwordInput (some target)))
      exact ⟨nothing, after.trans kept, unread.trans spent⟩
    | cons answer answers =>
      have fewer : answers.length < nodes.length := by simpa using few
      have first := session.askText_input_cons nonempty node store answer answers
      have entered := congrArg Outcome.value first
      obtain ⟨given, after, unread, _⟩ :=
        askInputs_cons entered (nodes.map (Compiler.passwordInput (some target)))
      obtain ⟨others, last, remaining⟩ := ih fewer
        (store.set target (session.exchange target store
          (Compiler.passwordInput (some target) node) answer).2)
      rw [first] at given after unread
      exact ⟨given.trans (congrArg (Option.map _) others), after.trans last,
        unread.trans remaining⟩

end Inputs

section Rounds

/-- The inputs of a password are one or more, and all of them enter its variable. -/
structure Enters (field : PasswordField) (target : String) : Prop where
  named : named? field.target = some target
  inputs : ∃ nodes, nodes ≠ [] ∧ field.inputs = nodes.map (Compiler.passwordInput field.target)

theorem enters_of_compile {compiler : Compiler} {node : Node}
    (compiled : (compiler.compile node).value = .ok (.password field))
    (named : named? field.target = some target) : Enters field target :=
  ⟨named, Compiler.inputs_of_compile compiled⟩

theorem Enters.length_pos (enters : Enters field target) : 0 < field.inputs.length := by
  obtain ⟨nodes, more, inputs⟩ := enters.inputs
  rw [inputs, List.length_map]
  exact List.length_pos_iff.2 more

/-- The prompts of a round of answers. -/
def promptsOf (session : Session) (field : PasswordField) (target : String) (store : Store)
    (answers : List String) : List Event :=
  (session.exchanges target store field.inputs answers).map Prod.fst

/-- The values that a round of answers stands for. -/
def valuesOf (session : Session) (field : PasswordField) (target : String) (store : Store)
    (answers : List String) : List String :=
  (session.exchanges target store field.inputs answers).map Prod.snd

theorem valuesOf_nil (session : Session) (field : PasswordField) (target : String)
    (store : Store) : session.valuesOf field target store [] = [] := by
  rw [valuesOf, exchanges_nil, List.map_nil]

/-- The first validator that refuses the values of a round of answers. -/
def refuser? (session : Session) (field : PasswordField) (target : String) (store : Store)
    (answers : List String) : Option Binding :=
  field.validators.find? (Binding.refuses session.factory
    (.many ((session.valuesOf field target store answers).map some)))

/-- What a password stores in the end: what the processor makes of its first input, or without a
processor the last input. -/
def settled (session : Session) (field : PasswordField) (entered : List String) : String :=
  if (named? field.processor).isSome then
    (session.processed field.processor (entered.headD "")).value
  else entered.getLastD ""

/-- Of values stored one after the other under one name the last stays. -/
theorem foldl_set (target : String) (first : String) (others : List String) (store : Store) :
    (first :: others).foldl (fun store entered => store.set target entered) store =
      store.set target ((first :: others).getLastD "") := by
  induction others generalizing first with
  | nil => rfl
  | cons second others ih =>
    have later := ih second
    rw [List.foldl_cons] at later ⊢
    rw [List.foldl_cons, OrderedMap.set_set, later]
    rfl

theorem askInputs_of_enters (session : Session) (enters : Enters field target)
    (complete : answers.length = field.inputs.length) (store : Store) (left : List String) :
    ∃ first others, session.valuesOf field target store answers = first :: others ∧
      let asked := session.askInputs field.inputs store (answers ++ left)
      asked.value = some (first :: others) ∧
        asked.store = store.set target ((first :: others).getLastD "") ∧
        asked.pending = left ∧ asked.events = session.promptsOf field target store answers := by
  obtain ⟨same, nonempty⟩ := named?_eq_some_iff.1 enters.named
  obtain ⟨nodes, more, inputs⟩ := enters.inputs
  rw [same] at inputs
  have count : answers.length = nodes.length := by rw [complete, inputs, List.length_map]
  have asked := session.askInputs_of_complete nonempty count store left
  rw [← inputs] at asked
  dsimp only at asked
  match entered : session.valuesOf field target store answers with
  | [] =>
    have none := congrArg List.length entered
    rw [valuesOf, List.length_map, length_exchanges, ← complete, Nat.min_self, count] at none
    exact absurd (List.length_eq_zero_iff.1 none) more
  | first :: others =>
    have values : (session.exchanges target store field.inputs answers).map Prod.snd =
      first :: others := entered
    rw [values, foldl_set] at asked
    exact ⟨first, others, rfl, asked⟩

theorem passwordRound_of_refused (enters : Enters field target)
    (complete : answers.length = field.inputs.length) {binding : Binding}
    (refused : session.refuser? field target store answers = some binding) (left : List String) :
    let round := session.passwordRound field store (answers ++ left)
    round.value = .again () ∧
      round.store = store.set target ((session.valuesOf field target store answers).getLastD "") ∧
      round.pending = left ∧
      round.events =
        session.promptsOf field target store answers ++ [.print (refusal binding target)] := by
  obtain ⟨first, others, entered, given, kept, unread, shown⟩ :=
    session.askInputs_of_enters enters complete store left
  have same := (named?_eq_some_iff.1 enters.named).1
  rw [refuser?, entered, ← Binding.value_firstFailure] at refused
  dsimp only
  rw [passwordRound, value_bind, store_bind, pending_bind, events_bind, given, kept, unread, shown,
    entered]
  dsimp only
  rw [value_bind, store_bind, pending_bind, events_bind, value_noted, refused, same]
  exact ⟨rfl, rfl, rfl, rfl⟩

theorem passwordRound_of_accepted (enters : Enters field target)
    (complete : answers.length = field.inputs.length)
    (accepted : session.refuser? field target store answers = none) (left : List String) :
    let round := session.passwordRound field store (answers ++ left)
    round.value = .stop true ∧
      round.store = store.set target
        (session.settled field (session.valuesOf field target store answers)) ∧
      round.pending = left ∧ round.events = session.promptsOf field target store answers := by
  obtain ⟨first, others, entered, given, kept, unread, shown⟩ :=
    session.askInputs_of_enters enters complete store left
  have mine := getD_of_named? enters.named
  rw [refuser?, entered, ← Binding.value_firstFailure] at accepted
  dsimp only
  rw [passwordRound, value_bind, store_bind, pending_bind, events_bind, given, kept, unread, shown,
    entered]
  dsimp only
  rw [value_bind, store_bind, pending_bind, events_bind, value_noted, accepted, settled]
  dsimp only
  split
  · refine ⟨rfl, ?_, rfl, List.append_nil _⟩
    rw [store_bind, store_bind, value_noted, store_set, mine, store_noted, store_noted,
      OrderedMap.set_set]
    rfl
  · exact ⟨rfl, rfl, rfl, List.append_nil _⟩

/-- A round for which the answers do not suffice is the last one, and fails. -/
theorem passwordRound_of_few (session : Session) (enters : Enters field target)
    (few : answers.length < field.inputs.length) (store : Store) :
    let round := session.passwordRound field store answers
    round.value = .stop false ∧
      round.store = (session.valuesOf field target store answers).foldl
        (fun store value => store.set target value) store ∧
      round.pending = [] := by
  obtain ⟨same, nonempty⟩ := named?_eq_some_iff.1 enters.named
  obtain ⟨nodes, _, inputs⟩ := enters.inputs
  rw [same] at inputs
  have fewer : answers.length < nodes.length := by
    rw [inputs, List.length_map] at few
    exact few
  obtain ⟨missing, after, spent⟩ := session.askInputs_of_few nonempty fewer store
  rw [← inputs] at missing after spent
  dsimp only
  rw [passwordRound, value_bind, store_bind, pending_bind, missing]
  exact ⟨rfl, after, spent⟩

end Rounds

section Runs

variable {rounds : List (List String)} {shown : List Event} {before : Store}
  {pending : List String}

/-- Rounds of answers that are refused one after the other, with what they show and the store in
which they end: after its prompts each shows why the first validator that refuses it does so. -/
inductive Refuses (session : Session) (field : PasswordField) (target : String) :
    Store → List (List String) → List Event → Store → Prop where
  | none {store : Store} : Refuses session field target store [] [] store
  | round {store before : Store} {answers : List String} {rounds : List (List String)}
      {shown : List Event} {binding : Binding} (complete : answers.length = field.inputs.length)
      (refused : session.refuser? field target store answers = some binding)
      (later : Refuses session field target
        (store.set target ((session.valuesOf field target store answers).getLastD ""))
        rounds shown before) :
      Refuses session field target store (answers :: rounds)
        (session.promptsOf field target store answers ++
          .print (refusal binding target) :: shown) before

/-- A round that is refused after others. -/
theorem Refuses.snoc (refuses : session.Refuses field target store rounds shown before)
    (complete : answers.length = field.inputs.length) {binding : Binding}
    (refused : session.refuser? field target before answers = some binding) :
    session.Refuses field target store (rounds ++ [answers])
      (shown ++ (session.promptsOf field target before answers ++
        [.print (refusal binding target)]))
      (before.set target ((session.valuesOf field target before answers).getLastD "")) := by
  induction refuses with
  | none => exact .round complete refused .none
  | round first reason _ ih =>
    have all := Refuses.round first reason (ih refused)
    rw [List.append_assoc, List.cons_append]
    exact all

/-- Refused rounds write nothing but the variable, so that it can be set anew after them. -/
theorem Refuses.set_eq (refuses : session.Refuses field target store rounds shown before)
    (value : String) : before.set target value = store.set target value := by
  induction refuses with
  | none => rfl
  | round _ _ _ ih => rw [ih, OrderedMap.set_set]

theorem turns_of_refuses (enters : Enters field target)
    (refuses : session.Refuses field target store rounds shown before) (rest : List String) :
    let whole := turns (fun _ => session.passwordRound field) false () store
      (rounds.flatten ++ rest)
    let later := turns (fun _ => session.passwordRound field) false () before rest
    whole.value = later.value ∧ whole.store = later.store ∧ whole.pending = later.pending ∧
      whole.events = shown ++ later.events := by
  induction refuses with
  | none => exact ⟨rfl, rfl, rfl, rfl⟩
  | @round store _ answers rounds shown _ complete refused _ ih =>
    have takes := session.takesAnswers_passwordRound field
    obtain ⟨leads, after, left, asked⟩ :=
      passwordRound_of_refused enters complete refused (rounds.flatten ++ rest)
    obtain ⟨value, last, unread, more⟩ := ih
    have again : turns (fun _ => session.passwordRound field) false () store
        (answers ++ (rounds.flatten ++ rest)) = _ := turns_of_again takes leads
    rw [after, left, asked] at again
    dsimp only
    rw [List.flatten_cons, List.append_assoc, again]
    refine ⟨value, last, unread, ?_⟩
    dsimp only
    rw [more, List.append_assoc, List.append_assoc, List.singleton_append, List.cons_append]

/-- Answers begin with rounds that are refused, up to one that is not or for which they do not
suffice. -/
theorem exists_refuses (session : Session) (enters : Enters field target) (store : Store)
    (pending : List String) :
    ∃ rounds rest shown before, pending = rounds.flatten ++ rest ∧
      session.Refuses field target store rounds shown before ∧
      (rest.length < field.inputs.length ∨ ∃ answers left, rest = answers ++ left ∧
        answers.length = field.inputs.length ∧
        session.refuser? field target before answers = none) := by
  -- The induction is on the answers that are left, as each refused round takes some.
  induction size : pending.length using Nat.strongRecOn generalizing pending store with
  | ind n ih =>
    subst size
    by_cases few : pending.length < field.inputs.length
    · exact ⟨[], pending, [], store, rfl, .none, .inl few⟩
    · have parts : pending =
          pending.take field.inputs.length ++ pending.drop field.inputs.length :=
        (List.take_append_drop _ _).symm
      have complete : (pending.take field.inputs.length).length = field.inputs.length := by
        rw [List.length_take]
        omega
      cases judged : session.refuser? field target store (pending.take field.inputs.length) with
      | none => exact ⟨[], pending, [], store, rfl, .none, .inr ⟨_, _, parts, complete, judged⟩⟩
      | some binding =>
        have fewer : (pending.drop field.inputs.length).length < pending.length := by
          have some := enters.length_pos
          rw [List.length_drop]
          omega
        obtain ⟨rounds, rest, shown, before, split, refuses, ends⟩ := ih _ fewer
          (store.set target ((session.valuesOf field target store
            (pending.take field.inputs.length)).getLastD "")) _ rfl
        refine ⟨_ :: rounds, rest, _, before, ?_, .round complete judged refuses, ends⟩
        rw [List.flatten_cons, List.append_assoc, ← split]
        exact parts

/-- What is shown of a description before anything is asked. -/
def describedBy (store : Store) (description : Option String) : List Event :=
  (named? description).toList.map fun text => .print (store.expand text)

theorem printText_follows (text : Option String) (store : Store) (pending : List String) :
    (printText text store pending).store = store ∧
      (printText text store pending).pending = pending ∧
      (printText text store pending).events = describedBy store text := by
  rw [printText, describedBy]
  cases named? text with
  | some text => exact ⟨rfl, rfl, rfl⟩
  | none => exact ⟨rfl, rfl, rfl⟩

theorem interviewPassword_follows (session : Session) (field : PasswordField) (store : Store)
    (pending : List String) :
    let turned := turns (fun _ => session.passwordRound field) false () store pending
    let asked := session.interviewPassword field store pending
    asked.value = turned.value ∧ asked.store = turned.store ∧ asked.pending = turned.pending ∧
      asked.events = describedBy store field.description ++ turned.events := by
  obtain ⟨described, undisturbed, shown⟩ := printText_follows field.description store pending
  dsimp only
  rw [interviewPassword, value_bind, store_bind, pending_bind, events_bind, described, undisturbed,
    shown]
  exact ⟨rfl, rfl, rfl, rfl⟩

/-- A round that is accepted after refused ones is the last that is asked for. -/
theorem interviewPassword_of_accepted (enters : Enters field target)
    (refuses : session.Refuses field target store rounds shown before)
    (complete : answers.length = field.inputs.length)
    (accepted : session.refuser? field target before answers = none) (left : List String) :
    let asked := session.interviewPassword field store (rounds.flatten ++ (answers ++ left))
    asked.value = true ∧
      asked.store = store.set target
        (session.settled field (session.valuesOf field target before answers)) ∧
      asked.pending = left ∧
      asked.events = describedBy store field.description ++
        (shown ++ session.promptsOf field target before answers) := by
  obtain ⟨value, after, unread, asked⟩ :=
    session.interviewPassword_follows field store (rounds.flatten ++ (answers ++ left))
  obtain ⟨sameValue, sameAfter, sameUnread, sameAsked⟩ :=
    turns_of_refuses enters refuses (answers ++ left)
  obtain ⟨stops, kept, rest, prompts⟩ := passwordRound_of_accepted enters complete accepted left
  have last : turns (fun _ => session.passwordRound field) false () before (answers ++ left) = _ :=
    turns_of_stop (session.takesAnswers_passwordRound field) stops
  rw [last] at sameValue sameAfter sameUnread sameAsked
  dsimp only at sameValue sameAfter sameUnread sameAsked ⊢
  rw [value, after, unread, asked, sameValue, sameAfter, sameUnread, sameAsked, kept, rest, prompts,
    refuses.set_eq]
  exact ⟨rfl, rfl, rfl, rfl⟩

/-- After refused rounds, answers that do not suffice for another fail the password; the values that
they stand for stay stored. -/
theorem interviewPassword_of_few (enters : Enters field target)
    (refuses : session.Refuses field target store rounds shown before)
    (few : answers.length < field.inputs.length) :
    let asked := session.interviewPassword field store (rounds.flatten ++ answers)
    asked.value = false ∧
      asked.store = (session.valuesOf field target before answers).foldl
        (fun store value => store.set target value) before ∧
      asked.pending = [] := by
  obtain ⟨value, after, unread, _⟩ :=
    session.interviewPassword_follows field store (rounds.flatten ++ answers)
  obtain ⟨sameValue, sameAfter, sameUnread, _⟩ := turns_of_refuses enters refuses answers
  obtain ⟨stops, kept, rest⟩ := session.passwordRound_of_few enters few before
  have last : turns (fun _ => session.passwordRound field) false () before answers = _ :=
    turns_of_stop (session.takesAnswers_passwordRound field) stops
  rw [last] at sameValue sameAfter sameUnread
  dsimp only at sameValue sameAfter sameUnread ⊢
  rw [value, after, unread, sameValue, sameAfter, sameUnread, kept, rest]
  exact ⟨rfl, rfl, rfl⟩

/-- A password without a variable fails, and stores nothing. -/
theorem interviewPassword_of_unnamed {nodes : List Node} (some : nodes ≠ [])
    (inputs : field.inputs = nodes.map (Compiler.passwordInput field.target))
    (unnamed : named? field.target = none) (store : Store) (pending : List String) :
    let asked := session.interviewPassword field store pending
    asked.value = false ∧ asked.store = store := by
  obtain ⟨node, rest, rfl⟩ := List.exists_cons_of_ne_nil some
  obtain ⟨value, after, _⟩ := session.interviewPassword_follows field store pending
  have missing : named? (Compiler.passwordInput field.target node).target = none := unnamed
  have unasked : (session.passwordRound field store pending).value = .stop false ∧
      (session.passwordRound field store pending).store = store := by
    rw [passwordRound, value_bind, store_bind, inputs, List.map_cons, askInputs, value_bind,
      store_bind, askText, missing]
    exact ⟨rfl, rfl⟩
  rw [turns_of_stop (session.takesAnswers_passwordRound field) unasked.1] at value after
  exact ⟨value, after.trans unasked.2⟩

/-- A password that succeeds has a variable, and a round that is accepted after refused ones. -/
theorem exists_accepted
    (inputs : ∃ nodes, nodes ≠ [] ∧ field.inputs = nodes.map (Compiler.passwordInput field.target))
    (succeeded : (session.interviewPassword field store pending).value = true) :
    ∃ target rounds answers left shown before, named? field.target = some target ∧
      pending = rounds.flatten ++ (answers ++ left) ∧
      session.Refuses field target store rounds shown before ∧
      answers.length = field.inputs.length ∧
      session.refuser? field target before answers = none := by
  match named : named? field.target with
  | none =>
    obtain ⟨nodes, some, inputs⟩ := inputs
    rw [(interviewPassword_of_unnamed some inputs named store pending).1] at succeeded
    cases succeeded
  | some target =>
    have enters : Enters field target := ⟨named, inputs⟩
    obtain ⟨rounds, rest, shown, before, split, refuses, few | ⟨answers, left, parts, whole⟩⟩ :=
      session.exists_refuses enters store pending
    · rw [split, (interviewPassword_of_few enters refuses few).1] at succeeded
      cases succeeded
    · rw [parts] at split
      exact ⟨target, rounds, answers, left, shown, before, rfl, split, refuses, whole⟩

end Runs

section Paired

/-- A password to enter twice. -/
def pairedNode : Node :=
  ⟨"field", .ofList [("type", "password"), ("variable", "secret")],
    [⟨"spec", .empty, [⟨"pwd", .ofList [("txt", "Password")], [], none⟩,
      ⟨"pwd", .ofList [("txt", "Confirm")], [], none⟩], none⟩,
    ⟨"validator", .ofList [("class", "PasswordEqualityValidator"), ("txt", "Passwords differ")],
      [], none⟩], none⟩

def pairedField : PasswordField where
  target := some "secret"
  description := none
  inputs := [⟨.text, some "secret", none, some ⟨some "Password", none⟩, [], none, none⟩,
    ⟨.text, some "secret", none, some ⟨some "Confirm", none⟩, [], none, none⟩]
  validators := [⟨"PasswordEqualityValidator", .empty, some "Passwords differ"⟩]
  condition := none
  processor := none

def paired : Session where
  panel := ⟨"panel", .empty, [pairedNode], none⟩
  registry := none
  factory := .standard
  settings := ⟨"x", true, [], "unix", .ok ""⟩

theorem compile_pairedNode :
    ((paired.compiler .empty).compile pairedNode).value = .ok (.password pairedField) := rfl

end Paired

end InputPanel.Session
