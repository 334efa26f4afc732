import InputPanel.Proofs.Dialogue.FirstAccepted
import InputPanel.Proofs.Plugin.Verdicts
import InputPanel.Proofs.Session.Frame

/-!
# Texts

A text field offers the stored value, or else the one that the document gives, with its
references expanded. An answer means what it says without the white space around it, or
what is offered if nothing is left. The first answer whose meaning all validators accept
is the last that is taken, and what the processor makes of it is stored. Each answer
before it is followed by one line, in which the first validator that refuses it says why.
-/

namespace InputPanel.Session

open Dialogue

variable {session : Session} {store : Store} {target value : String}

section Meaning

theorem offered_of_stored (stored : store.get? target = some value) (preset : Option String) :
    offered store target preset = store.expand value := by
  rw [offered, OrderedMap.getD_of_get? stored]

/-- The value that an answer stands for: itself without the white space around it, or what is
offered if nothing is left. -/
def meant (offer answer : String) : String :=
  let text := Text.trimmed answer
  if text.isEmpty then offer else text

/-- An answer that is not blank stands for itself, whatever is offered. -/
theorem meant_of_told {answer : String} (told : Text.trimmed answer ≠ "") (offer : String) :
    meant offer answer = Text.trimmed answer := by
  have nonempty : ¬ (Text.trimmed answer).isEmpty = true :=
    fun empty => told (String.isEmpty_iff.1 empty)
  exact if_neg nonempty

/-- The text that a processor makes of a value, if it can be made itself and does not crash. -/
def madeOf? (session : Session) (className value : String) : Option String :=
  (do (← session.factory.create className).run (some value) : Except PluginTrouble String).toOption

theorem value_processed_of_unnamed {className : Option String} (unnamed : named? className = none)
    (value : String) : (session.processed className value).value = value := by
  rw [processed, unnamed]
  rfl

/-- A processor that makes nothing of a value leaves it as it is. -/
theorem value_processed_of_named {processor : Option String} {className : String}
    (named : named? processor = some className) (value : String) :
    (session.processed processor value).value =
      (session.madeOf? className value).getD value := by
  rw [processed, named, madeOf?]
  dsimp only
  split
  · next made =>
    rw [made]
    rfl
  · next made =>
    rw [made]
    rfl
  · next made =>
    rw [made]
    rfl

end Meaning

section Judging

variable {field : TextField} {question : Question} {offer answer : String}

/-- The first validator that refuses what an answer to a text field means. -/
def textRefuser? (session : Session) (field : TextField) (offer answer : String) :
    Option Binding :=
  field.validators.find? (Binding.refuses session.factory (.one (some (meant offer answer))))

theorem value_judgeText (session : Session) (field : TextField) (target offer answer : String) :
    (session.judgeText field target offer answer).value =
      match session.textRefuser? field offer answer with
      | some binding => .refused (some (refusal binding target))
      | none => .accepted (session.processed field.processor (meant offer answer)).value := by
  rw [textRefuser?, ← Binding.value_firstFailure, judgeText, Noted.value_bind, ← meant]
  cases (Binding.firstFailure session.factory (.one (some (meant offer answer)))
    field.validators).value with
  | some binding => rfl
  | none => rfl

theorem isSome_textRefuser?_iff :
    (session.textRefuser? field offer answer).isSome = true ↔
      ¬ ∀ binding ∈ field.validators,
        (binding.isValid session.factory (.one (some (meant offer answer)))).value = true := by
  rw [Option.isSome_iff_ne_none, textRefuser?, Ne, Binding.find?_refuses_eq_none_iff]

theorem value_judgeText_of_refused
    (refused : (session.textRefuser? field offer answer).isSome = true) (target : String) :
    (session.judgeText field target offer answer).value =
      .refused ((session.textRefuser? field offer answer).map (refusal · target)) := by
  obtain ⟨binding, found⟩ := Option.isSome_iff_exists.1 refused
  rw [value_judgeText, found]
  rfl

theorem askText_eq (isSecret : Bool) (named : named? field.target = some target)
    (posed : field.question = some question) :
    session.askText isSecret field = (do
      let offer := offered (← Dialogue.store) target question.preset
      Dialogue.ask (session.textPrompt isSecret question.label offer)
        (session.judgeText field target offer)) := by
  simp only [askText, named, posed]

theorem store_askText (session : Session) (isSecret : Bool) (field : TextField) (store : Store)
    (pending : List String) : (session.askText isSecret field store pending).store = store := by
  rw [askText]
  cases named? field.target with
  | none => rfl
  | some target =>
    cases field.question with
    | none => rfl
    | some question => exact store_answerTo _ store pending

/-- A text is stored when it is given, and nothing else is done with it. -/
theorem interviewText_follows (session : Session) (field : TextField) (store : Store)
    (pending : List String) :
    let given := session.askText false field store pending
    let asked := session.interviewText field store pending
    asked.value = given.value.isSome ∧
      asked.store = given.value.elim store (store.set (field.target.getD "")) ∧
      asked.pending = given.pending ∧ asked.events = given.events := by
  have kept := session.store_askText false field store pending
  dsimp only
  rw [interviewText, value_bind, store_bind, pending_bind, events_bind, kept]
  cases (session.askText false field store pending).value with
  | none => exact ⟨rfl, rfl, rfl, List.append_nil _⟩
  | some text => exact ⟨rfl, rfl, rfl, List.append_nil _⟩

/-- What is said of answers that validators refuse is what the first of these says of each. -/
theorem exists_refusers {why : String → Option Binding} {answers : List String}
    (refused : ∀ answer ∈ answers, (why answer).isSome = true) (question : Event)
    (target : String) :
    ∃ refusers : List Binding, answers.map why = refusers.map some ∧
      refusals question (fun answer => (why answer).map (refusal · target)) answers =
        refusers.flatMap fun binding => [question, .print (refusal binding target)] := by
  induction answers with
  | nil => exact ⟨[], rfl, rfl⟩
  | cons answer others ih =>
    obtain ⟨first, remaining⟩ := List.forall_mem_cons.1 refused
    obtain ⟨binding, found⟩ := Option.isSome_iff_exists.1 first
    obtain ⟨refusers, same, shown⟩ := ih remaining
    refine ⟨binding :: refusers, ?_, ?_⟩
    · rw [List.map_cons, List.map_cons, found, same]
    · rw [refusals, List.flatMap_cons, found, List.flatMap_cons, ← shown]
      rfl

/-- A text field takes answers up to the first whose meaning all its validators accept, and then its
variable, and nothing else, holds what the processor makes of this, or this itself if there is no
processor or none can be made or it crashes. Each prompt shows what is offered, and each answer that
is refused is followed by what the first validator that refuses it has to say. If all are refused,
the field takes them all, fails and stores nothing. -/
theorem text_takes_first_accepted (session : Session) (named : named? field.target = some target)
    (posed : field.question = some question) (store : Store) (pending : List String) :
    let offer := offered store target question.preset
    let prompt := Event.prompt (question.label.getD "" ++ " [" ++ offer ++ "] ")
    let accepts := fun answer => ∀ binding ∈ field.validators,
      (binding.isValid session.factory (.one (some (meant offer answer)))).value = true
    let shows := fun answers events => ∃ refusers : List Binding,
      answers.map (session.textRefuser? field offer) = refusers.map some ∧
        events = refusers.flatMap (fun binding => [prompt, .print (refusal binding target)]) ++
          [prompt]
    let asked := session.interviewText field store pending
    (∀ earlier answer left, pending = earlier ++ answer :: left →
      (∀ other ∈ earlier, ¬ accepts other) → accepts answer →
        asked.value = true ∧ asked.pending = left ∧ shows earlier asked.events ∧
          (named? field.processor = none → asked.store = store.set target (meant offer answer)) ∧
          ∀ className, named? field.processor = some className →
            asked.store = store.set target
              ((session.madeOf? className (meant offer answer)).getD (meant offer answer))) ∧
    ((∀ answer ∈ pending, ¬ accepts answer) →
      asked.value = false ∧ asked.pending = [] ∧ shows pending asked.events ∧
        asked.store = store) := by
  intro offer prompt accepts shows asked
  have refuses (answer : String) (bad : ¬ accepts answer) :
      (session.textRefuser? field offer answer).isSome = true :=
    isSome_textRefuser?_iff.2 bad
  have given : session.askText false field store pending =
      answerTo prompt (session.judgeText field target offer) store pending := by
    rw [askText_eq false named posed]
    rfl
  obtain ⟨succeeds, after, unread, told⟩ := session.interviewText_follows field store pending
  rw [given] at succeeds after unread told
  rw [getD_of_named? named] at after
  constructor
  · rintro earlier answer left rfl bad good
    have reasons (other : String) (present : other ∈ earlier) :=
      refuses other (bad other present)
    have refused (other : String) (present : other ∈ earlier) :=
      value_judgeText_of_refused (reasons other present) target
    have found : session.textRefuser? field offer answer = none :=
      Binding.find?_refuses_eq_none_iff.2 good
    have entered : (session.judgeText field target offer answer).value =
        .accepted (session.processed field.processor (meant offer answer)).value := by
      rw [value_judgeText, found]
    obtain ⟨value, _, rest, shown⟩ := answerTo_of_first prompt store refused entered left
    obtain ⟨refusers, same, lines⟩ := exists_refusers reasons prompt target
    rw [value] at succeeds after
    refine ⟨succeeds, unread.trans rest, ⟨refusers, same, ?_⟩, ?_, ?_⟩
    · rw [← lines, ← shown]
      exact told
    · intro unprocessed
      rw [value_processed_of_unnamed unprocessed] at after
      exact after
    · intro className processor
      rw [value_processed_of_named processor] at after
      exact after
  · intro bad
    have reasons (answer : String) (present : answer ∈ pending) :=
      refuses answer (bad answer present)
    have refused (answer : String) (present : answer ∈ pending) :=
      value_judgeText_of_refused (reasons answer present) target
    obtain ⟨value, _, rest, shown⟩ := answerTo_of_none prompt store refused
    obtain ⟨refusers, same, lines⟩ := exists_refusers reasons prompt target
    rw [value] at succeeds after
    refine ⟨succeeds, unread.trans rest, ⟨refusers, same, ?_⟩, after⟩
    rw [← lines, ← shown]
    exact told

end Judging

section Nicknamed

def nicknamed : Session where
  panel := ⟨"panel", .empty, [], none⟩
  registry := none
  factory := Factory.standard.register "mirror" (.build (.ok (.processor "mirror" fun value =>
    .ok (String.ofList (value.getD "").toList.reverse))))
  settings := ⟨"x", true, [], "unix", .ok ""⟩

def nicknameField : TextField :=
  ⟨.text, some "nickname", none, some ⟨some "Nickname", some "$initial"⟩,
    [⟨"LengthValidator", .ofList [("min", "2")], some "Too short"⟩,
      ⟨"NotEmptyValidator", .empty, none⟩], none, some "mirror"⟩

/-- What is offered is too short, and so is the first answer that is not blank. -/
theorem nicknamed_takes_first_accepted :
    named? nicknameField.target = some "nickname" ∧
    nicknameField.question = some ⟨some "Nickname", some "$initial"⟩ ∧
    let asked := nicknamed.interviewText nicknameField (.ofList [("initial", "a")])
      ["", " b", "ab ", "c"]
    asked.value = true ∧ asked.pending = ["c"] ∧
      asked.store = .ofList [("initial", "a"), ("nickname", "ba")] := by
  have offers : offered (.ofList [("initial", "a")]) "nickname" (some "$initial") = "a" := by
    decide +kernel
  have named : named? nicknameField.target = some "nickname" := rfl
  have posed : nicknameField.question = some ⟨some "Nickname", some "$initial"⟩ := rfl
  obtain ⟨first, _⟩ := text_takes_first_accepted nicknamed named posed
    (.ofList [("initial", "a")]) ["", " b", "ab ", "c"]
  rw [offers] at first
  have bad : ∀ other ∈ ["", " b"], ¬ ∀ binding ∈ nicknameField.validators,
      (binding.isValid nicknamed.factory (.one (some (meant "a" other)))).value = true := by
    refine List.forall_mem_cons.2 ⟨?_, List.forall_mem_singleton.2 ?_⟩
    · intro good
      cases good _ List.mem_cons_self
    · intro good
      cases good _ List.mem_cons_self
  have good : ∀ binding ∈ nicknameField.validators,
      (binding.isValid nicknamed.factory (.one (some (meant "a" "ab ")))).value = true :=
    List.forall_mem_cons.2 ⟨rfl, List.forall_mem_singleton.2 rfl⟩
  obtain ⟨succeeds, unread, _, _, after⟩ := first ["", " b"] "ab " ["c"] rfl bad good
  exact ⟨named, posed, succeeds, unread, after "mirror" rfl⟩

end Nicknamed

end InputPanel.Session
