import InputPanel.Session.Interview
import InputPanel.Proofs.Dialogue.Turns

/-!
# A session ends with its answers

A field that succeeds has put no question in vain, and one that fails at most
one. The end question is the only one after that: if no answer is left, it is
taken as quitting. So a session puts at most two questions in vain, and then
it has been quit. Neither rejected passwords nor redisplaying go on for ever,
as each round takes an answer.
-/

namespace InputPanel.Session

open Dialogue

variable (session : Session)

/-- What a field may ask in vain, by whether it succeeded. -/
def inVain (succeeded : Bool) : Nat := if succeeded then 0 else 1

theorem isQuestion_textPrompt (isSecret : Bool) (label : Option String) (offer : String) :
    (session.textPrompt isSecret label offer).isQuestion = true := by
  rw [textPrompt]
  split <;> rfl

theorem within_askNumber (text : String) (least greatest default : Int) :
    Within 0 (askNumber text least greatest default) fun number => inVain number.isSome :=
  within_ask _ rfl

theorem within_askText (isSecret : Bool) (field : TextField) :
    Within 0 (session.askText isSecret field) fun value => inVain value.isSome := by
  unfold askText
  split
  · exact within_silent_bind (silent_note _) fun _ => within_pure (Nat.zero_le _)
  · exact within_silent_bind (silent_note _) fun _ => within_pure (Nat.zero_le _)
  · refine within_silent_bind silent_store fun _ => ?_
    exact within_ask _ (isQuestion_textPrompt session isSecret _ _)

theorem within_interviewText (field : TextField) :
    Within 0 (session.interviewText field) inVain := by
  refine within_bind (session.within_askText false field) fun value due le => ?_
  cases value with
  | none => exact within_pure le
  | some value => exact within_silent_bind (silent_set _ _) fun _ => within_pure le

theorem silent_printAll (lines : List String) : Silent (printAll lines) := by
  induction lines with
  | nil => exact silent_pure ()
  | cons line rest ih => exact silent_bind (silent_print line) fun _ => ih

theorem silent_printText (text : Option String) : Silent (printText text) := by
  unfold printText
  split
  · exact silent_bind silent_store fun _ => silent_print _
  · exact silent_pure ()

theorem within_interviewChoice (field : ChoiceField) :
    Within 0 (session.interviewChoice field) fun made => inVain made.2 := by
  unfold interviewChoice
  split
  · exact within_silent_bind (silent_note _) fun _ => within_pure (Nat.zero_le _)
  · refine within_silent_bind (silent_printText _) fun _ => ?_
    split
    · exact within_silent_bind (silent_note _) fun _ => within_pure (Nat.zero_le _)
    · refine within_silent_bind silent_store fun _ => ?_
      refine within_silent_bind (silent_printAll _) fun _ => ?_
      refine within_bind (within_askNumber _ _ _ _) fun number due le => ?_
      cases number with
      | none => exact within_pure le
      | some n => exact within_silent_bind (silent_set _ _) fun _ => within_pure le

theorem within_interviewCheck (field : CheckField) :
    Within 0 (session.interviewCheck field) fun made => inVain made.2 := by
  unfold interviewCheck
  split
  · exact within_silent_bind (silent_note _) fun _ => within_pure (Nat.zero_le _)
  · exact within_silent_bind (silent_note _) fun _ => within_pure (Nat.zero_le _)
  · refine within_silent_bind silent_store fun _ => ?_
    refine within_silent_bind (silent_print _) fun _ => ?_
    refine within_bind (within_askNumber _ _ _ _) fun number due le => ?_
    cases number with
    | none => exact within_pure le
    | some n => exact within_silent_bind (silent_set _ _) fun _ => within_pure le

section Passwords

theorem within_askInputs (inputs : List TextField) :
    Within 0 (session.askInputs inputs) fun values => inVain values.isSome := by
  induction inputs with
  | nil => exact within_pure (Nat.zero_le _)
  | cons input rest ih =>
    refine within_bind (session.within_askText true input) fun value due le => ?_
    cases value with
    | none => exact within_pure le
    | some value =>
      obtain rfl := Nat.le_zero.1 le
      refine within_silent_bind (silent_set _ _) fun _ => ?_
      refine within_bind ih fun values due le => ?_
      cases values with
      | none => exact within_pure le
      | some values => exact within_pure le

theorem within_passwordRound (field : PasswordField) :
    Within 0 (session.passwordRound field) (Turn.allowance inVain) := by
  refine within_bind (session.within_askInputs field.inputs) fun values due le => ?_
  match values with
  | none => exact within_pure le
  | some [] =>
    obtain rfl := Nat.le_zero.1 le
    exact within_pure (Nat.zero_le _)
  | some (value :: values) =>
    refine within_silent_bind (silent_noted _) fun failed => ?_
    cases failed with
    | some binding => exact within_silent_bind (silent_print _) fun _ => within_pure le
    | none =>
      dsimp only
      split
      · refine within_silent_bind (silent_noted _) fun _ => ?_
        exact within_silent_bind (silent_set _ _) fun _ => within_pure le
      · exact within_pure le

theorem asks_askText (isSecret : Bool) (field : TextField) :
    Asks (session.askText isSecret field) fun value => value.isSome = true := by
  unfold askText
  split
  · exact asks_bind_right fun _ => asks_pure (by simp)
  · exact asks_bind_right fun _ => asks_pure (by simp)
  · exact asks_bind_right fun _ => asks_ask _ (isQuestion_textPrompt session isSecret _ _) _

theorem asks_askInputs (inputs : List TextField) :
    Asks (session.askInputs inputs) fun made => ∃ value values, made = some (value :: values) := by
  cases inputs with
  | nil => exact asks_pure (by simp)
  | cons input rest =>
    refine asks_bind_left (session.asks_askText true input) fun value store pending made => ?_
    cases value with
    | none =>
      obtain ⟨_, _, impossible⟩ := made
      cases impossible
    | some value => rfl

/-- A round that is followed by another has asked for an input. -/
theorem asks_passwordRound (field : PasswordField) :
    Asks (session.passwordRound field) fun made => ∃ next, made = .again next := by
  refine asks_bind_left (session.asks_askInputs field.inputs) fun values store pending made => ?_
  obtain ⟨next, leads⟩ := made
  match values with
  | none => cases leads
  | some [] => cases leads
  | some (value :: values) => exact ⟨value, values, rfl⟩

/-- Rounds that the validators reject take answers, and so come to an end. -/
theorem takesAnswers_passwordRound (field : PasswordField) :
    TakesAnswers fun _ : Unit => session.passwordRound field :=
  takesAnswers_of_within (fun _ => session.within_passwordRound field)
    fun _ => session.asks_passwordRound field

theorem within_interviewPassword (field : PasswordField) :
    Within 0 (session.interviewPassword field) inVain := by
  refine within_silent_bind (silent_printText _) fun _ => ?_
  exact within_turns (fun _ => session.within_passwordRound field) ()

end Passwords

section Passes

theorem within_interview (field : Field) :
    Within 0 (session.interview field) fun made => inVain made.2 := by
  have decorated (d : Decoration) : Within 0 (interviewDecoration d) inVain :=
    within_silent_bind silent_store fun _ =>
      within_silent_bind (silent_print _) fun _ => within_pure (Nat.zero_le _)
  cases field with
  | filler d => exact within_bind (decorated d) fun _ _ le => within_pure le
  | decoration d => exact within_bind (decorated d) fun _ _ le => within_pure le
  | text f => exact within_bind (session.within_interviewText f) fun _ _ le => within_pure le
  | choice f => exact within_bind (session.within_interviewChoice f) fun _ _ le => within_pure le
  | check f => exact within_bind (session.within_interviewCheck f) fun _ _ le => within_pure le
  | password f =>
    exact within_bind (session.within_interviewPassword f) fun _ _ le => within_pure le

theorem silent_noteSkipped (fields : List Field) : Silent (noteSkipped fields) := by
  induction fields with
  | nil => exact silent_pure ()
  | cons field rest ih => exact silent_bind (silent_note _) fun _ => ih

/-- The fields after one that fails are not asked. -/
theorem within_interviewAll (fields : List Field) :
    Within 0 (session.interviewAll fields) fun made => inVain made.2 := by
  induction fields with
  | nil => exact within_pure (Nat.zero_le _)
  | cons field rest ih =>
    refine within_bind (session.within_interview field) fun made due le => ?_
    obtain ⟨field, succeeded⟩ := made
    cases succeeded with
    | false => exact within_silent_bind (silent_noteSkipped rest) fun _ => within_pure le
    | true =>
      obtain rfl := Nat.le_zero.1 le
      exact within_bind ih fun _ _ le => within_pure le

/-- What may be due after the end question, with so much due before it: it is taken as quitting when
no answer is left. -/
def dueAtEnd (due : Nat) (action : EndAction) : Nat := if action = .quit then due + 1 else 0

theorem within_endAction (due : Nat) : Within due EndAction.ask (dueAtEnd due) := by
  -- With something due no answer is left, so the question is put once and taken as quitting.
  by_cases owed : 0 < due
  · intro store pending nothing
    obtain rfl := nothing owed
    exact ⟨rfl, Nat.le_refl _⟩
  · obtain rfl := Nat.eq_zero_of_not_pos owed
    refine within_bind (within_askNumber _ _ _ _) fun number due le => ?_
    split
    · exact within_pure le
    · exact within_pure le
    · refine within_pure (Nat.le_trans le ?_)
      unfold inVain
      split
      · exact Nat.zero_le _
      · exact Nat.le_refl _

theorem asks_endAction (wanted : EndAction → Prop) : Asks EndAction.ask wanted :=
  asks_bind_left (asks_ask _ rfl fun _ => True) fun _ _ _ _ => trivial

theorem within_pass (fields : List Field) : Within 0 (session.pass fields) (dueAtEnd 1) := by
  refine within_bind (session.within_interviewAll fields) fun made due le => ?_
  have most : due ≤ 1 := by
    refine Nat.le_trans le ?_
    unfold inVain
    split <;> omega
  have ended : Within due EndAction.ask (dueAtEnd 1) := by
    refine (within_endAction due).mono fun action => ?_
    unfold dueAtEnd
    split <;> omega
  obtain ⟨_, succeeded⟩ := made
  cases succeeded with
  | true => exact ended
  | false => exact within_silent_bind (silent_note _) fun _ => ended

theorem asks_pass (fields : List Field) (wanted : EndAction → Prop) :
    Asks (session.pass fields) wanted := by
  refine asks_bind_right fun made => ?_
  obtain ⟨_, succeeded⟩ := made
  cases succeeded with
  | true => exact asks_endAction wanted
  | false => exact asks_bind_right fun _ => asks_endAction wanted

/-- What a session may have asked in vain. -/
def dueAfter : Except Failure Bool → Nat
  | .ok false => 2
  | _ => 0

theorem within_passTurn (fields : List Field) :
    Within 0 (session.passTurn fields) (Turn.allowance dueAfter) := by
  refine within_bind (session.within_pass fields) fun action due le => ?_
  cases action with
  | proceed => exact within_pure le
  | quit => exact within_pure le
  | redisplay =>
    refine within_silent_bind silent_store fun store => ?_
    refine within_silent_bind (silent_noted _) fun made => ?_
    obtain rfl := Nat.le_zero.1 le
    cases made with
    | ok fields => exact within_pure (Nat.zero_le _)
    | error failure => exact within_pure (Nat.zero_le _)

theorem takesAnswers_passTurn : TakesAnswers session.passTurn := by
  refine takesAnswers_of_within session.within_passTurn fun fields => ?_
  exact asks_bind_left (session.asks_pass fields fun _ => True) fun _ _ _ _ => trivial

theorem within_run : Within 0 session.run dueAfter := by
  refine within_silent_bind silent_store fun store => ?_
  refine within_silent_bind (silent_noted _) fun made => ?_
  match made with
  | .error failure => exact within_pure (Nat.zero_le _)
  | .ok none => exact within_pure (Nat.zero_le _)
  | .ok (some fields) => exact within_turns session.within_passTurn fields

/-- A session takes the next answer for each question, puts at most two questions after the last
one, and has been quit if it puts any. Its loops need no bound: each is a run of so many rounds as it
takes, and no more. -/
theorem run_ends_with_answers (store : Store) (pending : List String) :
    (∀ fields store pending, Repeats session.passTurn fields store pending
      (turns session.passTurn (.ok false) fields store pending)) ∧
    (∀ field store pending, Repeats (fun _ => session.passwordRound field) () store pending
      (turns (fun _ => session.passwordRound field) false () store pending)) ∧
    (session.run store pending).pending = pending.drop (session.run store pending).asked ∧
    (session.run store pending).asked ≤ pending.length + 2 ∧
    (pending.length < (session.run store pending).asked →
      (session.run store pending).value = .ok false) := by
  obtain ⟨taken, bound⟩ := session.within_run store pending (by simp)
  refine ⟨fun fields => repeats_turns session.takesAnswers_passTurn fields,
    fun field => repeats_turns (session.takesAnswers_passwordRound field) (), taken, ?_, ?_⟩
  · have most : dueAfter (session.run store pending).value ≤ 2 := by
      unfold dueAfter
      split <;> omega
    omega
  · intro inVain
    have some : 0 < dueAfter (session.run store pending).value := by omega
    unfold dueAfter at some
    split at some
    · assumption
    · omega

end Passes

end InputPanel.Session
