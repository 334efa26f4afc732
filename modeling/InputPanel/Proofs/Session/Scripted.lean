import InputPanel.Proofs.Dialogue.Margins
import InputPanel.Proofs.Dialogue.Sources
import InputPanel.Session.Interview

/-!
# Scripted answers and a terminal

A text is stored as it is trimmed and a number is read without the white space around
it, so no field looks at the margins of an answer, and neither does the end question.
Answers written a line each into a stream come back without carriage returns at their
ends, which are margins. So a session over the stream goes on as one over a terminal
that gives the same answers, and only the echo of hidden prompts tells them apart.
-/

namespace InputPanel.Session

open Dialogue

variable (session : Session)

theorem ignoresMargins_askText (isSecret : Bool) (field : TextField) :
    IgnoresMargins (session.askText isSecret field) := by
  unfold askText
  split
  · exact ignoresMargins_bind (ignoresMargins_note _) fun _ => ignoresMargins_pure none
  · exact ignoresMargins_bind (ignoresMargins_note _) fun _ => ignoresMargins_pure none
  · refine ignoresMargins_bind ignoresMargins_store fun _ => ?_
    refine ignoresMargins_ask fun answer other same => ?_
    rw [judgeText, judgeText, same]

theorem ignoresMargins_interviewText (field : TextField) :
    IgnoresMargins (session.interviewText field) := by
  refine ignoresMargins_bind (session.ignoresMargins_askText false field) fun value => ?_
  cases value with
  | none => exact ignoresMargins_pure false
  | some value =>
    exact ignoresMargins_bind (ignoresMargins_set _ _) fun _ => ignoresMargins_pure true

theorem ignoresMargins_printAll (lines : List String) : IgnoresMargins (printAll lines) := by
  induction lines with
  | nil => exact ignoresMargins_pure ()
  | cons line rest ih => exact ignoresMargins_bind (ignoresMargins_print line) fun _ => ih

theorem ignoresMargins_printText (text : Option String) : IgnoresMargins (printText text) := by
  unfold printText
  split
  · exact ignoresMargins_bind ignoresMargins_store fun _ => ignoresMargins_print _
  · exact ignoresMargins_pure ()

theorem ignoresMargins_interviewChoice (field : ChoiceField) :
    IgnoresMargins (session.interviewChoice field) := by
  unfold interviewChoice
  split
  · exact ignoresMargins_bind (ignoresMargins_note _) fun _ => ignoresMargins_pure _
  · refine ignoresMargins_bind (ignoresMargins_printText _) fun _ => ?_
    split
    · exact ignoresMargins_bind (ignoresMargins_note _) fun _ => ignoresMargins_pure _
    · refine ignoresMargins_bind ignoresMargins_store fun _ => ?_
      refine ignoresMargins_bind (ignoresMargins_printAll _) fun _ => ?_
      refine ignoresMargins_bind (ignoresMargins_askNumber _ _ _ _) fun number => ?_
      cases number with
      | none => exact ignoresMargins_pure _
      | some n => exact ignoresMargins_bind (ignoresMargins_set _ _) fun _ => ignoresMargins_pure _

theorem ignoresMargins_interviewCheck (field : CheckField) :
    IgnoresMargins (session.interviewCheck field) := by
  unfold interviewCheck
  split
  · exact ignoresMargins_bind (ignoresMargins_note _) fun _ => ignoresMargins_pure _
  · exact ignoresMargins_bind (ignoresMargins_note _) fun _ => ignoresMargins_pure _
  · refine ignoresMargins_bind ignoresMargins_store fun _ => ?_
    refine ignoresMargins_bind (ignoresMargins_print _) fun _ => ?_
    refine ignoresMargins_bind (ignoresMargins_askNumber _ _ _ _) fun number => ?_
    cases number with
    | none => exact ignoresMargins_pure _
    | some n => exact ignoresMargins_bind (ignoresMargins_set _ _) fun _ => ignoresMargins_pure _

section Passwords

theorem ignoresMargins_askInputs (inputs : List TextField) :
    IgnoresMargins (session.askInputs inputs) := by
  induction inputs with
  | nil => exact ignoresMargins_pure _
  | cons input rest ih =>
    refine ignoresMargins_bind (session.ignoresMargins_askText true input) fun value => ?_
    cases value with
    | none => exact ignoresMargins_pure none
    | some value =>
      refine ignoresMargins_bind (ignoresMargins_set _ _) fun _ => ?_
      refine ignoresMargins_bind ih fun values => ?_
      cases values with
      | none => exact ignoresMargins_pure none
      | some values => exact ignoresMargins_pure _

theorem ignoresMargins_passwordRound (field : PasswordField) :
    IgnoresMargins (session.passwordRound field) := by
  refine ignoresMargins_bind (session.ignoresMargins_askInputs field.inputs) fun values => ?_
  match values with
  | none => exact ignoresMargins_pure _
  | some [] => exact ignoresMargins_pure _
  | some (value :: values) =>
    refine ignoresMargins_bind (ignoresMargins_noted _) fun failed => ?_
    cases failed with
    | some binding =>
      exact ignoresMargins_bind (ignoresMargins_print _) fun _ => ignoresMargins_pure _
    | none =>
      dsimp only
      split
      · refine ignoresMargins_bind (ignoresMargins_noted _) fun _ => ?_
        exact ignoresMargins_bind (ignoresMargins_set _ _) fun _ => ignoresMargins_pure _
      · exact ignoresMargins_pure _

theorem ignoresMargins_interviewPassword (field : PasswordField) :
    IgnoresMargins (session.interviewPassword field) := by
  refine ignoresMargins_bind (ignoresMargins_printText _) fun _ => ?_
  exact ignoresMargins_turns (fun _ => session.ignoresMargins_passwordRound field) ()

end Passwords

section Passes

theorem ignoresMargins_interview (field : Field) : IgnoresMargins (session.interview field) := by
  have decorated (d : Decoration) : IgnoresMargins (interviewDecoration d) :=
    ignoresMargins_bind ignoresMargins_store fun _ =>
      ignoresMargins_bind (ignoresMargins_print _) fun _ => ignoresMargins_pure true
  cases field with
  | filler d => exact ignoresMargins_bind (decorated d) fun _ => ignoresMargins_pure _
  | decoration d => exact ignoresMargins_bind (decorated d) fun _ => ignoresMargins_pure _
  | text f =>
    exact ignoresMargins_bind (session.ignoresMargins_interviewText f) fun _ =>
      ignoresMargins_pure _
  | choice f =>
    exact ignoresMargins_bind (session.ignoresMargins_interviewChoice f) fun _ =>
      ignoresMargins_pure _
  | check f =>
    exact ignoresMargins_bind (session.ignoresMargins_interviewCheck f) fun _ =>
      ignoresMargins_pure _
  | password f =>
    exact ignoresMargins_bind (session.ignoresMargins_interviewPassword f) fun _ =>
      ignoresMargins_pure _

theorem ignoresMargins_noteSkipped (fields : List Field) : IgnoresMargins (noteSkipped fields) := by
  induction fields with
  | nil => exact ignoresMargins_pure ()
  | cons field rest ih => exact ignoresMargins_bind (ignoresMargins_note _) fun _ => ih

theorem ignoresMargins_interviewAll (fields : List Field) :
    IgnoresMargins (session.interviewAll fields) := by
  induction fields with
  | nil => exact ignoresMargins_pure _
  | cons field rest ih =>
    refine ignoresMargins_bind (session.ignoresMargins_interview field) fun made => ?_
    obtain ⟨field, succeeded⟩ := made
    cases succeeded with
    | false =>
      exact ignoresMargins_bind (ignoresMargins_noteSkipped rest) fun _ => ignoresMargins_pure _
    | true => exact ignoresMargins_bind ih fun _ => ignoresMargins_pure _

theorem ignoresMargins_endAction : IgnoresMargins EndAction.ask := by
  refine ignoresMargins_bind (ignoresMargins_askNumber _ _ _ _) fun number => ?_
  split <;> exact ignoresMargins_pure _

theorem ignoresMargins_pass (fields : List Field) : IgnoresMargins (session.pass fields) := by
  refine ignoresMargins_bind (session.ignoresMargins_interviewAll fields) fun made => ?_
  obtain ⟨_, succeeded⟩ := made
  cases succeeded with
  | true => exact ignoresMargins_endAction
  | false => exact ignoresMargins_bind (ignoresMargins_note _) fun _ => ignoresMargins_endAction

theorem ignoresMargins_passTurn (fields : List Field) :
    IgnoresMargins (session.passTurn fields) := by
  refine ignoresMargins_bind (session.ignoresMargins_pass fields) fun action => ?_
  cases action with
  | proceed => exact ignoresMargins_pure _
  | quit => exact ignoresMargins_pure _
  | redisplay =>
    refine ignoresMargins_bind ignoresMargins_store fun _ => ?_
    refine ignoresMargins_bind (ignoresMargins_noted _) fun made => ?_
    cases made with
    | ok fields => exact ignoresMargins_pure _
    | error failure => exact ignoresMargins_pure _

/-- Neither a field nor the end question looks at the margins of an answer. -/
theorem ignoresMargins_run : IgnoresMargins session.run := by
  refine ignoresMargins_bind ignoresMargins_store fun _ => ?_
  refine ignoresMargins_bind (ignoresMargins_noted _) fun made => ?_
  match made with
  | .error failure => exact ignoresMargins_pure _
  | .ok none => exact ignoresMargins_pure _
  | .ok (some fields) => exact ignoresMargins_turns session.ignoresMargins_passTurn fields

end Passes

section Sources

/-- Reading drops of each answer only what is dropped from it anyway. -/
theorem sameTrimmed_answers {answers : List String}
    (unbroken : ∀ answer ∈ answers, '\n' ∉ answer.toList) :
    SameTrimmed
      (AnswerSource.stream (String.join (answers.map fun answer => answer ++ "\n"))).answers
      (AnswerSource.terminal answers).answers := by
  rw [AnswerSource.answers_stream_join unbroken]
  unfold SameTrimmed
  rw [List.map_map]
  refine List.map_congr_left fun answer _ => ?_
  rw [Function.comp_apply, AnswerSource.trimmed_withoutReturns, String.ofList_toList]

/-- A session over a stream that holds each answer with a line feed after it, and one over a
terminal that gives the answers, each read line by line to its end, come to the same result, leave
the same store, and show the same texts in the same order, notices included. What the stream
changes is that every prompt is echoed. -/
theorem run_stream_eq_terminal (store : Store) {answers : List String}
    (unbroken : ∀ answer ∈ answers, '\n' ∉ answer.toList) :
    let scripted := AnswerSource.stream (String.join (answers.map fun answer => answer ++ "\n"))
    let typed := AnswerSource.terminal answers
    let read := session.run store scripted.answers
    let given := session.run store typed.answers
    scripted.Reads scripted.answers ∧ typed.Reads typed.answers ∧
      read.value = given.value ∧ read.store = given.store ∧ read.notices = given.notices ∧
      read.events.map scripted.view = (given.events.map typed.view).map Event.echoed := by
  intro scripted typed read given
  have same : read.Matches given :=
    session.ignoresMargins_run store (sameTrimmed_answers unbroken)
  refine ⟨AnswerSource.reads_iff.2 rfl, AnswerSource.reads_iff.2 rfl, same.value, same.store,
    same.notices, ?_⟩
  rw [same.events, AnswerSource.view_stream, AnswerSource.view_terminal, List.map_id]

/-- A panel that asks for a password. -/
def guarded : Session where
  panel := ⟨"panel", .empty, [
    ⟨"field", .ofList [("type", "password"), ("variable", "secret")],
      [⟨"spec", .empty, [⟨"pwd", .ofList [("txt", "Password")], [], none⟩], none⟩], none⟩], none⟩
  registry := none
  factory := ⟨.empty, fun _ => none⟩
  settings := ⟨"x", true, [], "unix", .ok ""⟩

/-- An answer with a blank and a carriage return after it, and one that is a carriage return only:
the stream reads them differently, stores the same and echoes the prompt for the password. -/
theorem guarded_scripted :
    let answers := ["key \r", "\r"]
    let scripted := AnswerSource.stream (String.join (answers.map fun answer => answer ++ "\n"))
    let read := guarded.run .empty scripted.answers
    let given := guarded.run .empty answers
    (∀ answer ∈ answers, '\n' ∉ answer.toList) ∧ scripted.answers = ["key ", ""] ∧
      read.store = given.store ∧ given.store = .ofList [("secret", "key")] ∧
      read.events.map scripted.view = given.events.map Event.echoed ∧
      given.events = [.hidden "Password [] ",
        .prompt "press 1 to continue, 2 to quit, 3 to redisplay "] := by
  have unbroken : ∀ answer ∈ ["key \r", "\r"], '\n' ∉ answer.toList := by decide
  have lines : (AnswerSource.stream (String.join
      (["key \r", "\r"].map fun answer => answer ++ "\n"))).answers = ["key ", ""] := rfl
  have events : (guarded.run .empty ["key \r", "\r"]).events = [.hidden "Password [] ",
      .prompt "press 1 to continue, 2 to quit, 3 to redisplay "] := by decide +kernel
  obtain ⟨_, _, _, stored, _, shown⟩ := guarded.run_stream_eq_terminal .empty unbroken
  rw [AnswerSource.view_terminal, List.map_id] at shown
  exact ⟨unbroken, lines, stored, rfl, shown, events⟩

end Sources

end InputPanel.Session
