import InputPanel.Proofs.Session.Answers
import InputPanel.Proofs.Dialogue.Writing
import InputPanel.Proofs.Session.Collecting

/-!
# A session, pass by pass

A pass asks the fields that were compiled when it began, in order and up to the
first that fails, and puts the end question whether one has failed or not. If
the answer is to redisplay, the rest is what a new session would do with the
store and the answers as they are then: nothing else is carried over. A panel
that is admitted once is so from any store, since its gates do not read it.
-/

namespace InputPanel.Session

open Dialogue

variable {session : Session} {fields : List Field} {store : Store} {pending : List String}

section EndQuestion

/-- A question that is refused without a word shows nothing but itself. -/
theorem events_answerTo {α : Type} {question : Event} {judge : String → Noted (Verdict α)}
    (wordless : ∀ answer reason, (judge answer).value = .refused reason → reason = none)
    (store : Store) (pending : List String) :
    ∃ times, (answerTo question judge store pending).events =
      List.replicate (times + 1) question := by
  induction pending with
  | nil => exact ⟨0, rfl⟩
  | cons answer rest ih =>
    cases verdict : (judge answer).value with
    | accepted value => exact ⟨0, by simp [answerTo, verdict]⟩
    | refused reason =>
      obtain ⟨times, later⟩ := ih
      have silent : reason = none := wordless answer reason verdict
      refine ⟨times + 1, ?_⟩
      simp [answerTo, verdict, silent, later, List.replicate_succ]

theorem events_askNumber (text : String) (least greatest default : Int) (store : Store)
    (pending : List String) :
    ∃ times, (askNumber text least greatest default store pending).events =
      List.replicate (times + 1) (.prompt (text ++ " ")) := by
  refine events_answerTo ?_ store pending
  intro answer reason refused
  split at refused
  · cases refused
  · cases refused
    rfl

/-- What a number given to the end question leads to. -/
def actionOf : Option Int → EndAction
  | some 1 => .proceed
  | some 3 => .redisplay
  | _ => .quit

theorem endAction_eq :
    EndAction.ask = (do
      return actionOf (← askNumber "press 1 to continue, 2 to quit, 3 to redisplay" 1 3 1)) := by
  unfold EndAction.ask
  congr 1
  funext number
  split
  · rfl
  · rfl
  · next notOne notThree => rw [actionOf] <;> assumption

theorem store_endAction (store : Store) (pending : List String) :
    (EndAction.ask store pending).store = store := by
  rw [endAction_eq]
  exact store_askNumber _ 1 3 1 store pending

theorem events_endAction (store : Store) (pending : List String) :
    ∃ times, (EndAction.ask store pending).events =
      List.replicate (times + 1) (.prompt "press 1 to continue, 2 to quit, 3 to redisplay ") := by
  obtain ⟨times, shown⟩ :=
    events_askNumber "press 1 to continue, 2 to quit, 3 to redisplay" 1 3 1 store pending
  refine ⟨times, ?_⟩
  rw [endAction_eq, events_bind, shown]
  exact List.append_nil _

end EndQuestion

section Asking

/-- The outcomes of fields that are asked one after the other, each from the store and the answers
that the one before it left. One that fails is the last, whatever fields follow. -/
inductive InTurn (session : Session) :
    List Field → Store → List String → List (Outcome (Field × Bool)) → Store → List String → Prop
    where
  | finished {store : Store} {pending : List String} :
      InTurn session [] store pending [] store pending
  | failed {field : Field} {rest : List Field} {store : Store} {pending : List String}
      {outcome : Outcome (Field × Bool)} (made : session.interview field store pending = outcome)
      (fails : outcome.value.2 = false) :
      InTurn session (field :: rest) store pending [outcome] outcome.store outcome.pending
  | next {field : Field} {rest : List Field} {store after : Store} {pending left : List String}
      {outcome : Outcome (Field × Bool)} {later : List (Outcome (Field × Bool))}
      (made : session.interview field store pending = outcome)
      (succeeds : outcome.value.2 = true)
      (others : InTurn session rest outcome.store outcome.pending later after left) :
      InTurn session (field :: rest) store pending (outcome :: later) after left

theorem events_noteSkipped (fields : List Field) (store : Store) (pending : List String) :
    (noteSkipped fields store pending).events = [] ∧
      (noteSkipped fields store pending).store = store ∧
      (noteSkipped fields store pending).pending = pending := by
  induction fields with
  | nil => exact ⟨rfl, rfl, rfl⟩
  | cons field rest ih => exact ih

/-- All that a pass shows before its end question is shown by its fields in turn. -/
theorem inTurn_interviewAll (session : Session) (fields : List Field) (store : Store)
    (pending : List String) :
    ∃ outcomes, InTurn session fields store pending outcomes
        (session.interviewAll fields store pending).store
        (session.interviewAll fields store pending).pending ∧
      (session.interviewAll fields store pending).events = outcomes.flatMap Outcome.events := by
  induction fields generalizing store pending with
  | nil => exact ⟨[], .finished, rfl⟩
  | cons field rest ih =>
    rw [interviewAll, store_bind, pending_bind, events_bind]
    cases succeeded : (session.interview field store pending).value.2 with
    | false =>
      obtain ⟨shown, kept, left⟩ := events_noteSkipped rest
        (session.interview field store pending).store
        (session.interview field store pending).pending
      have only : InTurn session (field :: rest) store pending
          [session.interview field store pending] _ _ := .failed rfl succeeded
      refine ⟨[session.interview field store pending], ?_, ?_⟩
      · simpa [succeeded, kept, left] using only
      · simp [succeeded, shown]
    | true =>
      obtain ⟨outcomes, inTurn, shown⟩ := ih (session.interview field store pending).store
        (session.interview field store pending).pending
      refine ⟨session.interview field store pending :: outcomes, ?_, ?_⟩
      · simpa [succeeded] using InTurn.next rfl succeeded inTurn
      · simp [succeeded, shown]

end Asking

section Passes

/-- The end question follows the fields whether one of them has failed or not. -/
theorem pass_ends (session : Session) (fields : List Field) (store : Store)
    (pending : List String) :
    let asked := session.interviewAll fields store pending
    let question := EndAction.ask asked.store asked.pending
    (session.pass fields store pending).value = question.value ∧
      (session.pass fields store pending).store = asked.store ∧
      (session.pass fields store pending).pending = question.pending ∧
      (session.pass fields store pending).events = asked.events ++ question.events := by
  intro asked question
  have kept : question.store = asked.store := store_endAction asked.store asked.pending
  rw [pass, value_bind, store_bind, pending_bind, events_bind]
  rcases (session.interviewAll fields store pending).value with ⟨_, _ | _⟩
  · exact ⟨rfl, kept, rfl, rfl⟩
  · exact ⟨rfl, kept, rfl, rfl⟩

/-- Compiling the fields anew shows and changes nothing. -/
theorem passTurn_follows (session : Session) (fields : List Field) (store : Store)
    (pending : List String) :
    (session.passTurn fields store pending).store = (session.pass fields store pending).store ∧
      (session.passTurn fields store pending).pending =
        (session.pass fields store pending).pending ∧
      (session.passTurn fields store pending).events =
        (session.pass fields store pending).events := by
  rw [passTurn, store_bind, pending_bind, events_bind]
  cases action : (session.pass fields store pending).value with
  | proceed => simp
  | quit => simp
  | redisplay =>
    dsimp only
    rw [store_bind, store_bind, pending_bind, pending_bind, events_bind, events_bind, value_noted,
      value_store]
    cases made : (session.collect (session.pass fields store pending).store).value with
    | ok again => exact ⟨rfl, rfl, List.append_nil _⟩
    | error failure => exact ⟨rfl, rfl, List.append_nil _⟩

/-- A turn that is followed by another has been redisplayed, and the fields of the next one are
compiled from the store that it left. -/
theorem passTurn_eq_again_iff {next : List Field}
    (admitted : ∀ later : Store, (session.collect later).value ≠ .ok none) :
    (session.passTurn fields store pending).value = .again next ↔
      (session.pass fields store pending).value = .redisplay ∧
        (session.collect (session.pass fields store pending).store).value = .ok (some next) := by
  rw [passTurn, value_bind]
  cases action : (session.pass fields store pending).value with
  | proceed => simp
  | quit => simp
  | redisplay =>
    dsimp only
    rw [value_bind, value_bind, value_noted, value_store]
    have here := admitted (session.pass fields store pending).store
    match made : (session.collect (session.pass fields store pending).store).value with
    | .error failure => simp
    | .ok none => exact absurd made here
    | .ok (some fields) => simp

/-- A session that compiles some fields takes turns over them. -/
theorem run_follows_turns (collected : (session.collect store).value = .ok (some fields))
    (pending : List String) :
    let turned := turns session.passTurn (.ok false) fields store pending
    (session.run store pending).value = turned.value ∧
      (session.run store pending).store = turned.store ∧
      (session.run store pending).pending = turned.pending ∧
      (session.run store pending).events = turned.events := by
  have begun : session.run store pending = (do
      let _ ← noted (session.collect store)
      turns session.passTurn (.ok false) fields) store pending := by
    simp only [run, bind, andThen, noted, Dialogue.store, collected]
    rfl
  rw [begun]
  exact ⟨rfl, rfl, rfl, rfl⟩

/-- A session that fails to compile its fields shows and asks nothing. -/
theorem run_of_failure {failure : Failure}
    (failed : (session.collect store).value = .error failure) :
    session.run store pending =
      ⟨.error failure, store, pending, [], (session.collect store).notices ++ []⟩ := by
  simp only [run, bind, andThen, noted, Dialogue.store, failed]
  rfl

/-- A session whose panel is not admitted shows and asks nothing. -/
theorem run_of_excluded (excluded : (session.collect store).value = .ok none) :
    session.run store pending =
      ⟨.ok true, store, pending, [], (session.collect store).notices ++ []⟩ := by
  simp only [run, bind, andThen, noted, Dialogue.store, excluded]
  rfl

theorem passTurn_of_proceed (proceeds : (session.pass fields store pending).value = .proceed) :
    (session.passTurn fields store pending).value = .stop (.ok true) := by
  rw [passTurn, value_bind, proceeds]
  rfl

theorem passTurn_of_quit (quits : (session.pass fields store pending).value = .quit) :
    (session.passTurn fields store pending).value = .stop (.ok false) := by
  rw [passTurn, value_bind, quits]
  rfl

theorem run_of_stop {result : Except Failure Bool}
    (collected : (session.collect store).value = .ok (some fields))
    (stops : (session.passTurn fields store pending).value = .stop result) :
    (session.run store pending).value = result ∧
      (session.run store pending).store = (session.pass fields store pending).store ∧
      (session.run store pending).pending = (session.pass fields store pending).pending ∧
      (session.run store pending).events = (session.pass fields store pending).events := by
  obtain ⟨value, after, rest, events⟩ := run_follows_turns collected pending
  obtain ⟨stored, left, shown⟩ := session.passTurn_follows fields store pending
  have ended : turns session.passTurn (.ok false) fields store pending = _ :=
    turns_of_stop session.takesAnswers_passTurn stops
  rw [value, after, rest, events, ended]
  exact ⟨rfl, stored, left, shown⟩

/-- After a pass that is redisplayed, a session is what a new one would be. -/
theorem run_of_redisplay (collected : (session.collect store).value = .ok (some fields))
    (redisplayed : (session.pass fields store pending).value = .redisplay) :
    let passed := session.pass fields store pending
    let fresh := session.run passed.store passed.pending
    (session.run store pending).value = fresh.value ∧
      (session.run store pending).store = fresh.store ∧
      (session.run store pending).pending = fresh.pending ∧
      (session.run store pending).events = passed.events ++ fresh.events := by
  intro passed fresh
  have admitted := collect_ne_none collected
  match made : (session.collect passed.store).value with
  | .ok none => exact absurd made (admitted passed.store)
  | .ok (some next) =>
    obtain ⟨value, after, rest, events⟩ := run_follows_turns collected pending
    obtain ⟨freshValue, freshAfter, freshRest, freshEvents⟩ :=
      run_follows_turns made passed.pending
    obtain ⟨stored, left, shown⟩ := session.passTurn_follows fields store pending
    have leads := (passTurn_eq_again_iff admitted).2 ⟨redisplayed, made⟩
    have again : turns session.passTurn (.ok false) fields store pending = _ :=
      turns_of_again session.takesAnswers_passTurn leads
    rw [stored, left, shown] at again
    rw [value, after, rest, events, freshValue, freshAfter, freshRest, freshEvents, again]
    exact ⟨rfl, rfl, rfl, rfl⟩
  | .error failure =>
    have stops : (session.passTurn fields store pending).value = .stop (.error failure) := by
      rw [passTurn, value_bind, redisplayed]
      dsimp only
      rw [value_bind, value_bind, value_noted, value_store, made]
      rfl
    obtain ⟨value, after, rest, events⟩ := run_of_stop collected stops
    have failed : fresh = _ := run_of_failure made
    rw [failed]
    exact ⟨value, after, rest, events.trans (List.append_nil _).symm⟩

/-- The fields that the panel gives from a store are asked from it, in document order and up to the
first that fails, and after them the end question is put. Its answer alone decides: the session is
over, or it goes on as a new one would from what is stored and answered by then, with nothing else
carried over. A panel that is admitted once is never left out later. -/
theorem run_asks_in_turn (collected : (session.collect store).value = .ok (some fields)) :
    fields = (session.panel.childrenNamed "field").filterMap
      (fieldOf? (session.gates store) (session.compiler store)) ∧
    (∀ later : Store, (session.collect later).value ≠ .ok none) ∧
    ∃ outcomes after left, InTurn session fields store pending outcomes after left ∧
      let question := EndAction.ask after left
      let shown := outcomes.flatMap Outcome.events ++ question.events
      let whole := session.run store pending
      let fresh := session.run after question.pending
      (∃ times, question.events =
        List.replicate (times + 1) (.prompt "press 1 to continue, 2 to quit, 3 to redisplay ")) ∧
      (question.value = .proceed → whole.value = .ok true ∧ whole.store = after ∧
        whole.pending = question.pending ∧ whole.events = shown) ∧
      (question.value = .quit → whole.value = .ok false ∧ whole.store = after ∧
        whole.pending = question.pending ∧ whole.events = shown) ∧
      (question.value = .redisplay → whole.value = fresh.value ∧ whole.store = fresh.store ∧
        whole.pending = fresh.pending ∧ whole.events = shown ++ fresh.events) := by
  obtain ⟨outcomes, inTurn, asked⟩ := session.inTurn_interviewAll fields store pending
  obtain ⟨answered, stored, left, shown⟩ := session.pass_ends fields store pending
  refine ⟨eq_filterMap_of_collect collected, collect_ne_none collected, outcomes, _, _, inTurn,
    events_endAction _ _, ?_, ?_, ?_⟩
  · intro proceeds
    have ended := run_of_stop collected (passTurn_of_proceed (answered.trans proceeds))
    rw [stored, left, shown, asked] at ended
    exact ended
  · intro quits
    have ended := run_of_stop collected (passTurn_of_quit (answered.trans quits))
    rw [stored, left, shown, asked] at ended
    exact ended
  · intro redisplayed
    have again := run_of_redisplay collected (answered.trans redisplayed)
    dsimp only at again
    rw [stored, left, shown, asked] at again
    exact again

/-- A panel with a letter to choose, a text that cannot be asked for as it has no variable, and a
text to be shown after that. -/
def lettered : Session where
  panel := ⟨"panel", .empty, [
    ⟨"field", .ofList [("type", "combo"), ("variable", "letter")],
      [⟨"spec", .empty, [⟨"choice", .ofList [("txt", "A"), ("value", "a")], [], none⟩,
        ⟨"choice", .ofList [("txt", "B"), ("value", "b")], [], none⟩], none⟩], none⟩,
    ⟨"field", .ofList [("type", "text")], [⟨"spec", .ofList [("txt", "Name")], [], none⟩], none⟩,
    ⟨"field", .ofList [("type", "staticText"), ("txt", "Done")], [], none⟩], none⟩
  registry := none
  factory := ⟨.empty, fun _ => none⟩
  settings := ⟨"x", true, [], "unix", .ok ""⟩

/-- The fields that are collected from that panel, whatever is stored. -/
def letteredFields : List Field := [
  .choice ⟨.combo, some "letter", none,
    [⟨some "A", some "a", none⟩, ⟨some "B", some "b", none⟩], none, none⟩,
  .text ⟨.text, none, none, some ⟨some "Name", none⟩, [], none, none⟩,
  .decoration ⟨.staticText, none, some "Done"⟩]

/-- The second field fails, so that the third is not shown, and the panel is displayed again. -/
theorem lettered_asks_in_turn :
    (lettered.collect .empty).value = .ok (some letteredFields) ∧
    let whole := lettered.run .empty ["1", "3", "", "1"]
    let fresh := lettered.run (.ofList [("letter", "b")]) ["", "1"]
    whole.value = fresh.value ∧ whole.store = fresh.store ∧ whole.pending = fresh.pending ∧
      whole.events = [.print "0  [ ] A", .print "1  [ ] B", .prompt "input selection: ",
        .prompt "press 1 to continue, 2 to quit, 3 to redisplay "] ++ fresh.events := by
  have collected : (lettered.collect .empty).value = .ok (some letteredFields) := rfl
  obtain ⟨_, _, _, _, _, inTurn, _, _, _, redisplayed⟩ :=
    @run_asks_in_turn lettered letteredFields .empty ["1", "3", "", "1"] collected
  refine ⟨collected, ?_⟩
  cases inTurn with
  | failed made fails =>
    subst made
    exact absurd fails (by decide)
  | next made _ others =>
    subst made
    cases others with
    | failed made _ =>
      subst made
      exact redisplayed rfl
    | next made succeeds _ =>
      subst made
      exact absurd succeeds (by decide)

end Passes

end InputPanel.Session
