import InputPanel.Proofs.Dialogue.InStep
import InputPanel.Proofs.Expansion
import InputPanel.Proofs.Session.Passwords

/-!
# Stored passwords are not shown

A password offers the stored value as so many stars, and an answer that is not blank
takes nothing of what is offered. Once such an answer is stored, nothing is left of the
value that was there. So runs from two stores with passwords of the same length are in
step, through all inputs and rounds: the stores differ at most until the first answer.
-/

namespace InputPanel.Session

open Dialogue

variable {session : Session} {field : PasswordField} {target : String} {one other : Store}
  {pending : List String}

section Concealed

/-- Stores that are alike under all names but one. -/
def AlikeBut (target : String) (one other : Store) : Prop :=
  ∀ name, name ≠ target → one.get? name = other.get? name

/-- Stores that no question for a variable tells apart. They are alike under all other names, and
under this one as well, unless both hold a value for it, the two are equally long once they are
expanded, and the next answer is not blank. -/
structure Concealed (target : String) (one other : Store) (pending : List String) : Prop where
  elsewhere : AlikeBut target one other
  here : target ≠ "" → one.get? target = other.get? target ∨
    ∃ secret otherSecret, one.get? target = some secret ∧ other.get? target = some otherSecret ∧
      (one.expand secret).length = (other.expand otherSecret).length ∧
      ∀ answer, pending.head? = some answer → Text.trimmed answer ≠ ""

/-- A value that is stored in both leaves no difference. -/
theorem concealed_set (alike : AlikeBut target one other) (value : String)
    (pending : List String) :
    Concealed target (one.set target value) (other.set target value) pending := by
  constructor
  · intro name different
    rw [OrderedMap.get?_set_of_ne one different, OrderedMap.get?_set_of_ne other different]
    exact alike name different
  · intro _
    rw [OrderedMap.get?_set_self, OrderedMap.get?_set_self]
    exact .inl rfl

theorem textPrompt_secret (session : Session) (label : Option String) {offer otherOffer : String}
    (long : offer.length = otherOffer.length) :
    session.textPrompt true label offer = session.textPrompt true label otherOffer := by
  rw [textPrompt, textPrompt, long]
  rfl

theorem offered_of_concealed (concealed : Concealed target one other pending)
    (nonempty : target ≠ "") (preset : Option String) :
    let offer := offered one target preset
    let otherOffer := offered other target preset
    offer.length = otherOffer.length ∧
      ∀ answer, pending.head? = some answer → meant offer answer = meant otherOffer answer := by
  rcases concealed.here nonempty with same | ⟨secret, otherSecret, stored, otherStored, long, told⟩
  · have alike (name : String) : one.get? name = other.get? name := by
      by_cases own : name = target
      · rw [own]
        exact same
      · exact concealed.elsewhere name own
    have offers : offered one target preset = offered other target preset := by
      rw [offered, offered, OrderedMap.getD, OrderedMap.getD, same]
      exact Store.expand_congr fun name _ => alike name
    dsimp only
    rw [offers]
    exact ⟨rfl, fun _ _ => rfl⟩
  · rw [offered_of_stored stored, offered_of_stored otherStored]
    refine ⟨long, fun answer next => ?_⟩
    rw [meant_of_told (told answer next), meant_of_told (told answer next)]

end Concealed

section Steps

theorem askText_input_nil (session : Session) (nonempty : target ≠ "") (node : Node)
    (store : Store) :
    let input := Compiler.passwordInput (some target) node
    session.askText true input store [] =
      ⟨none, store, [], [session.textPrompt true (input.question.bind Question.label)
        (offered store target input.preset)], []⟩ := by
  have named : named? (Compiler.passwordInput (some target) node).target = some target :=
    named?_eq_some_iff.2 ⟨rfl, nonempty⟩
  have posed : (Compiler.passwordInput (some target) node).question =
      some ⟨node.get? "txt", node.get? "set"⟩ := rfl
  dsimp only
  rw [askText_eq true named posed]
  rfl

/-- How stores are related once an input has been asked for: a value that is given was not told by
the stores, and remains to be stored in both. -/
def AfterInput (target : String) : Option String → StoreRelation
  | some _ => fun one other _ => AlikeBut target one other
  | none => Concealed target

theorem inStep_askInput (session : Session) (target : String) (node : Node) :
    InStep (Concealed target)
      (session.askText true (Compiler.passwordInput (some target) node)) (AfterInput target) := by
  by_cases unnamed : target = ""
  · have missing : named? (Compiler.passwordInput (some target) node).target = none := by
      rw [unnamed]
      rfl
    rw [askText, missing]
    exact inStep_bind (inStep_note _) fun _ => inStep_pure fun _ _ _ concealed => concealed
  · intro one other pending concealed
    obtain ⟨long, values⟩ := offered_of_concealed concealed unnamed
      (Compiler.passwordInput (some target) node).preset
    have shown := session.textPrompt_secret
      ((Compiler.passwordInput (some target) node).question.bind Question.label) long
    cases pending with
    | nil =>
      rw [session.askText_input_nil unnamed, session.askText_input_nil unnamed, shown]
      exact ⟨rfl, rfl, rfl, rfl, concealed⟩
    | cons answer rest =>
      have same : session.exchange target one (Compiler.passwordInput (some target) node) answer =
          session.exchange target other (Compiler.passwordInput (some target) node) answer := by
        rw [exchange, exchange, shown, values answer rfl]
      rw [session.askText_input_cons unnamed, session.askText_input_cons unnamed, same]
      exact ⟨rfl, rfl, rfl, rfl, concealed.elsewhere⟩

/-- Each input finds the stores without a difference once the one before it is stored. -/
theorem inStep_askInputs (session : Session) (target : String) (nodes : List Node) :
    InStep (Concealed target)
      (session.askInputs (nodes.map (Compiler.passwordInput (some target))))
      fun _ => Concealed target := by
  induction nodes with
  | nil => exact inStep_pure fun _ _ _ concealed => concealed
  | cons node nodes ih =>
    refine inStep_bind (session.inStep_askInput target node) fun given => ?_
    cases given with
    | none => exact inStep_pure fun _ _ _ concealed => concealed
    | some value =>
      refine inStep_bind (inStep_set fun _ _ pending alike => concealed_set alike value pending)
        fun _ => ?_
      refine inStep_bind ih fun made => ?_
      cases made with
      | none => exact inStep_pure fun _ _ _ concealed => concealed
      | some values => exact inStep_pure fun _ _ _ concealed => concealed

variable {nodes : List Node}

/-- The validators of a round and the processor see only what was answered. -/
theorem inStep_passwordRound (session : Session)
    (inputs : field.inputs = nodes.map (Compiler.passwordInput field.target))
    (own : field.target = some target) :
    InStep (Concealed target) (session.passwordRound field) fun _ => Concealed target := by
  have asked := session.inStep_askInputs target nodes
  rw [← own, ← inputs] at asked
  refine inStep_bind asked fun made => ?_
  match made with
  | none => exact inStep_pure fun _ _ _ concealed => concealed
  | some [] => exact inStep_pure fun _ _ _ concealed => concealed
  | some (value :: values) =>
    refine inStep_bind (inStep_noted _) fun failed => ?_
    cases failed with
    | some binding =>
      exact inStep_bind (inStep_print _) fun _ => inStep_pure fun _ _ _ concealed => concealed
    | none =>
      dsimp only
      split
      · refine inStep_bind (inStep_noted _) fun made => ?_
        rw [own]
        refine inStep_bind (inStep_set fun _ _ pending concealed =>
          concealed_set concealed.elsewhere made pending) fun _ => ?_
        exact inStep_pure fun _ _ _ concealed => concealed
      · exact inStep_pure fun _ _ _ concealed => concealed

theorem inStep_printText {text : Option String}
    (apart : ∀ shown, text = some shown → ¬ Expansion.Refers shown target) :
    InStep (Concealed target) (printText text) fun _ => Concealed target := by
  intro one other pending concealed
  rw [printText]
  cases named : named? text with
  | none => exact ⟨rfl, rfl, rfl, rfl, concealed⟩
  | some shown =>
    have unreferred := apart shown (named?_eq_some_iff.1 named).1
    have same : one.expand shown = other.expand shown := by
      refine Store.expand_congr fun name referred => concealed.elsewhere name ?_
      rintro rfl
      exact unreferred referred
    have printed : [Event.print (one.expand shown)] = [.print (other.expand shown)] := by
      rw [same]
    exact ⟨rfl, rfl, printed, rfl, concealed⟩

theorem inStep_interviewPassword (session : Session)
    (inputs : field.inputs = nodes.map (Compiler.passwordInput field.target))
    (own : field.target = some target)
    (apart : ∀ text, field.description = some text → ¬ Expansion.Refers text target) :
    InStep (Concealed target) (session.interviewPassword field) fun _ => Concealed target :=
  inStep_bind (inStep_printText apart) fun _ =>
    inStep_turns (fun _ => session.inStep_passwordRound inputs own) ()

end Steps

section Passwords

/-- A password with a variable is asked for at least once. -/
theorem asks_interviewPassword (session : Session) (enters : Enters field target) :
    Asks (session.interviewPassword field) fun _ => True := by
  obtain ⟨same, nonempty⟩ := named?_eq_some_iff.1 enters.named
  obtain ⟨nodes, more, inputs⟩ := enters.inputs
  obtain ⟨node, nodes, rfl⟩ := List.exists_cons_of_ne_nil more
  rw [same, List.map_cons] at inputs
  have first : Asks (session.askText true (Compiler.passwordInput (some target) node))
      fun _ => True := by
    rw [askText_eq true (named?_eq_some_iff.2 ⟨rfl, nonempty⟩) rfl]
    exact asks_bind_right fun _ => asks_ask _ (isQuestion_textPrompt session true _ _) _
  have all : Asks (session.askInputs field.inputs) fun _ => True := by
    rw [inputs]
    exact asks_bind_left first fun _ _ _ _ => trivial
  have round : Asks (session.passwordRound field) fun _ => True :=
    asks_bind_left all fun _ _ _ _ => trivial
  refine asks_bind_right fun _ store pending _ => ?_
  have turned : Asks (turnsWithin (fun _ => session.passwordRound field) false
      (pending.length + 1) ()) fun _ => True := asks_bind_left round fun _ _ _ _ => trivial
  exact turned store pending trivial

variable {compiler : Compiler} {node : Node} {secret otherSecret : String}

/-- What is shown of a password depends on the stored one only through its length. From two stores
that differ only in the variable of the password, with values that are equally long once they are
expanded, the same is shown and noted, the same answers are taken and the result is the same, if no
answer that is taken is blank and the description does not refer to the variable. -/
theorem stored_password_concealed
    (compiled : (compiler.compile node).value = .ok (.password field))
    (own : field.target = some target)
    (apart : ∀ text, field.description = some text → ¬ Expansion.Refers text target)
    (elsewhere : ∀ name, name ≠ target → one.get? name = other.get? name)
    (stored : one.get? target = some secret) (otherStored : other.get? target = some otherSecret)
    (long : (one.expand secret).length = (other.expand otherSecret).length) (session : Session)
    (told : ∀ answer ∈ pending.take (session.interviewPassword field one pending).asked,
      Text.trimmed answer ≠ "") :
    let asked := session.interviewPassword field one pending
    let otherAsked := session.interviewPassword field other pending
    asked.value = otherAsked.value ∧ asked.events = otherAsked.events ∧
      asked.pending = otherAsked.pending ∧ asked.notices = otherAsked.notices := by
  obtain ⟨nodes, more, inputs⟩ := Compiler.inputs_of_compile compiled
  have concealed : Concealed target one other pending := by
    refine ⟨elsewhere, fun nonempty => .inr ⟨_, _, stored, otherStored, long, ?_⟩⟩
    intro answer next
    have named : named? field.target = some target := named?_eq_some_iff.2 ⟨own, nonempty⟩
    have some := session.asks_interviewPassword ⟨named, nodes, more, inputs⟩ one pending trivial
    refine told answer ?_
    obtain ⟨rest, rfl⟩ := List.head?_eq_some_iff.1 next
    obtain ⟨times, count⟩ := Nat.exists_eq_succ_of_ne_zero (Nat.ne_of_gt some)
    rw [count, List.take_succ_cons]
    exact List.mem_cons_self
  obtain ⟨value, left, events, notices, _⟩ :=
    session.inStep_interviewPassword inputs own apart one other pending concealed
  exact ⟨value, events, left, notices⟩

/-- Two passwords of three letters look the same through a round that is refused and another. -/
theorem paired_concealed :
    ((paired.compiler .empty).compile pairedNode).value = .ok (.password pairedField) ∧
    let answers := ["a", "b", "c", "c", "1"]
    (∀ answer ∈ answers, Text.trimmed answer ≠ "") ∧
    (paired.interviewPassword pairedField (.ofList [("secret", "old")]) answers).events =
      (paired.interviewPassword pairedField (.ofList [("secret", "new")]) answers).events := by
  have apart : ∀ text, pairedField.description = some text →
      ¬ Expansion.Refers text "secret" := by
    rintro text ⟨⟩
  have elsewhere : ∀ name, name ≠ "secret" →
      OrderedMap.get? (.ofList [("secret", "old")]) name =
        OrderedMap.get? (.ofList [("secret", "new")]) name := by
    intro name different
    exact (OrderedMap.get?_set_of_ne .empty different "old").trans
      (OrderedMap.get?_set_of_ne .empty different "new").symm
  have long : (Store.expand (.ofList [("secret", "old")]) "old").length =
      (Store.expand (.ofList [("secret", "new")]) "new").length := by
    decide +kernel
  have told : ∀ answer ∈ ["a", "b", "c", "c", "1"], Text.trimmed answer ≠ "" := by
    decide +kernel
  obtain ⟨_, shown, _⟩ := stored_password_concealed compile_pairedNode rfl apart elsewhere rfl rfl
    long paired (fun answer taken => told answer (List.mem_of_mem_take taken))
  exact ⟨compile_pairedNode, told, shown⟩

end Passwords

end InputPanel.Session
