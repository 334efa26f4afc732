import InputPanel.Proofs.Session.Containment
import InputPanel.Proofs.Session.Passes

/-!
# The variables that a session touches

A field that is asked writes its own variable and no other, whether it succeeds
or not; what is only shown writes nothing. A pass writes the variables of its
fields, and a session those of all its passes, though it may compile other fields
each time. Variables are never taken out, and those that are new come last.
-/

namespace InputPanel

namespace Field

/-- A field that is shown and collects nothing. -/
def isDecorative : Field → Bool
  | filler _ => true
  | decoration _ => true
  | _ => false

/-- The variable that a field collects, if it has a name. -/
def Collects (field : Field) (name : String) : Prop :=
  field.isDecorative = false ∧ Session.named? field.target = some name

/-- All inputs of a password enter its own variable. -/
def SharesTarget (field : Field) : Prop :=
  ∀ password, field = .password password →
    ∀ input ∈ password.inputs, input.target = password.target

end Field

namespace Session

open Dialogue

variable {session : Session} {fields : List Field} {store : Store} {pending : List String}

theorem named?_eq_some_iff {target : Option String} {name : String} :
    named? target = some name ↔ target = some name ∧ name ≠ "" := by
  rw [named?, Option.filter_eq_some_iff]
  simp

/-- A field without a name for its variable is never given a value to write. -/
theorem named?_getD {target : Option String} (named : (named? target).isSome = true) :
    named? target = some (target.getD "") := by
  obtain ⟨name, found⟩ := Option.isSome_iff_exists.1 named
  rw [found, (named?_eq_some_iff.1 found).1]
  rfl

theorem getD_of_named? {target : Option String} {name : String}
    (named : named? target = some name) : target.getD "" = name := by
  rw [(named?_eq_some_iff.1 named).1]
  rfl

section Fields

variable {own : String → Prop}

/-- A text is given only by a field that has a variable and a question, and it is what the processor
makes of one that all validators accept. -/
theorem gives_askText (isSecret : Bool) (field : TextField) :
    Gives (session.askText isSecret field) fun value _ => ∀ text, value = some text →
      (named? field.target).isSome = true ∧ field.question.isSome = true ∧ ∃ entered,
        (Binding.firstFailure session.factory (.one (some entered)) field.validators).value = none ∧
        (session.processed field.processor entered).value = text := by
  unfold askText
  split
  · exact gives_next fun _ => gives_pure (by simp)
  · exact gives_next fun _ => gives_pure (by simp)
  · next target question named posed =>
    refine gives_next fun before => ?_
    intro store pending text given
    obtain ⟨answer, _, accepted⟩ := accepted_of_answerTo _ _ given
    rw [judgeText, Noted.value_bind] at accepted
    split at accepted
    · cases accepted
    · next valid =>
      cases accepted
      exact ⟨by rw [named]; rfl, by rw [posed]; rfl, _, valid, rfl⟩

theorem writes_askText (isSecret : Bool) (field : TextField) :
    Writes own (session.askText isSecret field) := by
  unfold askText
  split
  · exact writes_bind (writes_note _) fun _ => writes_pure _
  · exact writes_bind (writes_note _) fun _ => writes_pure _
  · exact writes_bind writes_store fun _ => writes_ask _ _

theorem writes_interviewText (field : TextField) :
    Writes (fun name => named? field.target = some name) (session.interviewText field) := by
  refine writes_bind_of_gives (writes_askText false field) (gives_askText false field) ?_
  intro value given
  cases value with
  | none => exact writes_pure _
  | some text =>
    have mine := named?_getD (given text rfl).1
    exact writes_bind (writes_set mine text) fun _ => writes_pure _

theorem writes_printText (text : Option String) : Writes own (printText text) := by
  unfold printText
  split
  · exact writes_bind writes_store fun _ => writes_print _
  · exact writes_pure ()

theorem writes_printAll (lines : List String) : Writes own (printAll lines) := by
  induction lines with
  | nil => exact writes_pure ()
  | cons line rest ih => exact writes_bind (writes_print line) fun _ => ih

theorem writes_interviewChoice (field : ChoiceField) :
    Writes (fun name => named? field.target = some name) (session.interviewChoice field) := by
  unfold interviewChoice
  split
  · exact writes_bind (writes_note _) fun _ => writes_pure _
  · next target mine =>
    refine writes_bind (writes_printText _) fun _ => ?_
    split
    · exact writes_bind (writes_note _) fun _ => writes_pure _
    · refine writes_bind writes_store fun _ => writes_bind (writes_printAll _) fun _ => ?_
      refine writes_bind (writes_ask _ _) fun number => ?_
      cases number with
      | none => exact writes_pure _
      | some n => exact writes_bind (writes_set mine _) fun _ => writes_pure _

theorem writes_interviewCheck (field : CheckField) :
    Writes (fun name => named? field.target = some name) (session.interviewCheck field) := by
  unfold interviewCheck
  split
  · exact writes_bind (writes_note _) fun _ => writes_pure _
  · exact writes_bind (writes_note _) fun _ => writes_pure _
  · next target box mine _ =>
    refine writes_bind writes_store fun _ => writes_bind (writes_print _) fun _ => ?_
    refine writes_bind (writes_ask _ _) fun number => ?_
    cases number with
    | none => exact writes_pure _
    | some n => exact writes_bind (writes_set mine _) fun _ => writes_pure _

/-- Inputs give a value only if the first of them has a variable. -/
theorem gives_askInputs (inputs : List TextField) :
    Gives (session.askInputs inputs) fun made _ => ∀ value values, made = some (value :: values) →
      ∃ input ∈ inputs, (named? input.target).isSome = true := by
  cases inputs with
  | nil => exact gives_pure (by simp)
  | cons input rest =>
    refine gives_bind (gives_askText true input) fun value given => ?_
    cases value with
    | none => exact gives_pure (by simp)
    | some text =>
      have named := (given text rfl).1
      intro store pending value values made
      exact ⟨input, List.mem_cons_self, named⟩

/-- Every input that is answered is written at once. -/
theorem writes_askInputs {target : Option String} {inputs : List TextField}
    (shared : ∀ input ∈ inputs, input.target = target) :
    Writes (fun name => named? target = some name) (session.askInputs inputs) := by
  induction inputs with
  | nil => exact writes_pure _
  | cons input rest ih =>
    refine writes_bind_of_gives (writes_askText true input) (gives_askText true input) ?_
    intro value given
    cases value with
    | none => exact writes_pure _
    | some text =>
      have mine := named?_getD (given text rfl).1
      rw [shared input List.mem_cons_self] at mine ⊢
      refine writes_bind (writes_set mine text) fun _ => ?_
      refine writes_bind (ih fun input present => shared input (List.mem_cons_of_mem _ present)) ?_
      intro made
      cases made with
      | none => exact writes_pure _
      | some values => exact writes_pure _

theorem writes_passwordRound {field : PasswordField}
    (shared : ∀ input ∈ field.inputs, input.target = field.target) :
    Writes (fun name => named? field.target = some name) (session.passwordRound field) := by
  refine writes_bind_of_gives (writes_askInputs shared) (gives_askInputs field.inputs) ?_
  intro made given
  match made with
  | none => exact writes_pure _
  | some [] => exact writes_pure _
  | some (value :: values) =>
    obtain ⟨input, present, named⟩ := given value values rfl
    have mine : named? field.target = some (field.target.getD "") := by
      rw [← shared input present]
      exact named?_getD named
    refine writes_bind (writes_noted _) fun failed => ?_
    cases failed with
    | some binding => exact writes_bind (writes_print _) fun _ => writes_pure _
    | none =>
      dsimp only
      split
      · refine writes_bind (writes_noted _) fun _ => ?_
        exact writes_bind (writes_set mine _) fun _ => writes_pure _
      · exact writes_pure _

theorem writes_interviewPassword {field : PasswordField}
    (shared : ∀ input ∈ field.inputs, input.target = field.target) :
    Writes (fun name => named? field.target = some name) (session.interviewPassword field) := by
  refine writes_bind (writes_printText _) fun _ => ?_
  exact writes_turns (session.takesAnswers_passwordRound field)
    (fun _ => writes_passwordRound shared) ()

theorem writes_interviewDecoration (decoration : Decoration) :
    Writes own (interviewDecoration decoration) :=
  writes_bind writes_store fun _ => writes_bind (writes_print _) fun _ => writes_pure _

/-- A field that is asked writes the variable that it collects and no other. -/
theorem writes_interview {field : Field} (shared : field.SharesTarget) :
    Writes field.Collects (session.interview field) := by
  cases field with
  | filler d => exact writes_bind (writes_interviewDecoration d) fun _ => writes_pure _
  | decoration d => exact writes_bind (writes_interviewDecoration d) fun _ => writes_pure _
  | text f =>
    refine writes_bind ?_ fun _ => writes_pure _
    exact (writes_interviewText f).mono fun name mine => ⟨rfl, mine⟩
  | choice f =>
    refine writes_bind ?_ fun _ => writes_pure _
    exact (writes_interviewChoice f).mono fun name mine => ⟨rfl, mine⟩
  | check f =>
    refine writes_bind ?_ fun _ => writes_pure _
    exact (writes_interviewCheck f).mono fun name mine => ⟨rfl, mine⟩
  | password f =>
    refine writes_bind ?_ fun _ => writes_pure _
    exact (writes_interviewPassword (shared f rfl)).mono fun name mine => ⟨rfl, mine⟩

end Fields

section Passes

theorem sharesTarget_of_collect (collected : (session.collect store).value = .ok (some fields)) :
    ∀ field ∈ fields, field.SharesTarget := by
  rintro field present password rfl
  obtain ⟨node, made⟩ := exists_node_of_mem_collect collected present
  obtain ⟨nodes, _, inputs⟩ := Compiler.inputs_of_compile made
  exact Compiler.target_of_mem_inputs inputs

theorem writes_noteSkipped {own : String → Prop} (fields : List Field) :
    Writes own (noteSkipped fields) :=
  writes_of_store_eq fun store pending => (events_noteSkipped fields store pending).2.1

/-- The fields of a pass write only variables that one of them collects. -/
theorem writes_interviewAll {fields : List Field} (shared : ∀ field ∈ fields, field.SharesTarget) :
    Writes (fun name => ∃ field ∈ fields, field.Collects name) (session.interviewAll fields) := by
  induction fields with
  | nil => exact writes_pure _
  | cons field rest ih =>
    have first : Writes (fun name => ∃ other ∈ field :: rest, other.Collects name)
        (session.interview field) :=
      (writes_interview (shared field List.mem_cons_self)).mono
        fun name collects => ⟨field, List.mem_cons_self, collects⟩
    have others : Writes (fun name => ∃ other ∈ field :: rest, other.Collects name)
        (session.interviewAll rest) :=
      (ih fun other present => shared other (List.mem_cons_of_mem _ present)).mono
        fun name ⟨other, present, collects⟩ => ⟨other, List.mem_cons_of_mem _ present, collects⟩
    refine writes_bind first fun made => ?_
    obtain ⟨_, _ | _⟩ := made
    · exact writes_bind (writes_noteSkipped rest) fun _ => writes_pure _
    · exact writes_bind others fun _ => writes_pure _

theorem grows_pass (collected : (session.collect store).value = .ok (some fields))
    (pending : List String) :
    Store.Grows (fun name => ∃ field ∈ fields, field.Collects name) store
      (session.pass fields store pending).store := by
  obtain ⟨_, stored, _, _⟩ := session.pass_ends fields store pending
  rw [stored]
  exact writes_interviewAll (sharesTarget_of_collect collected) store pending

/-- Each pass that comes up asks the fields compiled from the store that it starts from. -/
theorem compiles_of_reaches {last : List Field} {lastStore : Store} {left : List String}
    (collected : (session.collect store).value = .ok (some fields))
    (reached : Reaches session.passTurn fields store pending last lastStore left) :
    Compiles session store pending lastStore ∧
      (session.collect lastStore).value = .ok (some last) := by
  have admitted := collect_ne_none collected
  -- The induction is on the passes that remain; those before them are kept along.
  have onward : ∀ {now nowStore nowPending last lastStore left},
      Reaches session.passTurn now nowStore nowPending last lastStore left →
      Reaches session.passTurn fields store pending now nowStore nowPending →
      Compiles session store pending nowStore →
      (session.collect nowStore).value = .ok (some now) →
      Compiles session store pending lastStore ∧
        (session.collect lastStore).value = .ok (some last) := by
    intro now nowStore nowPending last lastStore left rest
    induction rest with
    | here => exact fun _ compiles current => ⟨compiles, current⟩
    | @later state next _ current _ answers _ leads _ ih =>
      intro before _ here
      obtain ⟨redisplayed, made⟩ := (passTurn_eq_again_iff admitted).1 leads
      obtain ⟨stored, _, _⟩ := session.passTurn_follows state current answers
      refine ih (before.step leads) ?_ ?_
      · rw [stored]
        exact .again collected before redisplayed
      · rw [stored]
        exact made
  exact onward reached .here .first collected

/-- A store grows over a session under the variables of the fields that are compiled on its passes. -/
theorem grows_run (session : Session) (store : Store) (pending : List String) :
    Store.Grows (fun name => ∃ compiled fields field, Compiles session store pending compiled ∧
      (session.collect compiled).value = .ok (some fields) ∧ field ∈ fields ∧
      field.Collects name) store (session.run store pending).store := by
  match made : (session.collect store).value with
  | .error failure =>
    rw [run_of_failure made]
    exact Store.Grows.refl store
  | .ok none =>
    rw [run_of_excluded made]
    exact Store.Grows.refl store
  | .ok (some fields) =>
    obtain ⟨_, stored, _, _⟩ := run_follows_turns made pending
    rw [stored]
    have run : Repeats session.passTurn fields store pending
        (turns session.passTurn (.ok false) fields store pending) :=
      repeats_turns session.takesAnswers_passTurn fields store pending
    refine run.grows fun {last lastStore left} reached => ?_
    obtain ⟨compiles, collected⟩ := compiles_of_reaches made reached
    obtain ⟨kept, _, _⟩ := session.passTurn_follows last lastStore left
    rw [kept]
    refine (grows_pass collected left).mono fun name ⟨field, present, collects⟩ => ?_
    exact ⟨lastStore, last, field, compiles, collected, present, collects⟩

/-- Whatever is answered, a session changes and adds only variables that have a name and that some
field collects, one that was compiled on some pass and is not only shown. It takes no variable out,
and it keeps those that there were in their order, before all new ones. -/
theorem run_writes_collected (session : Session) (store : Store) (pending : List String) :
    store.keys <+: (session.run store pending).store.keys ∧
      ∀ name, (session.run store pending).store.get? name ≠ store.get? name →
        ∃ compiled fields field, Compiles session store pending compiled ∧
          (session.collect compiled).value = .ok (some fields) ∧ field ∈ fields ∧
          field.isDecorative = false ∧ field.target = some name ∧ name ≠ "" := by
  have grows := session.grows_run store pending
  refine ⟨grows.names, ?_⟩
  intro name changed
  refine Classical.byContradiction fun foreign => changed (grows.others name ?_)
  rintro ⟨compiled, fields, field, compiles, collected, present, shows, named⟩
  obtain ⟨target, nonempty⟩ := named?_eq_some_iff.1 named
  exact foreign ⟨compiled, fields, field, compiles, collected, present, shows, target, nonempty⟩

end Passes

end Session

end InputPanel
