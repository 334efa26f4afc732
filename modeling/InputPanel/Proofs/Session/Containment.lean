import InputPanel.Config
import InputPanel.Proofs.Session.Answers
import InputPanel.Proofs.Session.Collecting

/-!
# Failures are contained

Whatever the panel, its conditions and its plugins, a session fails only where
a value is made with the configured separator and this is no text. No node,
layout, plugin or condition that is at fault does more than leave out a field, a
choice or a value. Every index into slots and choices is one of theirs.
-/

namespace InputPanel.Session

open Dialogue

variable {session : Session} {store : Store} {failure : Failure}

theorem collectNodes_eq_error_iff {gates : Gates} {compiler : Compiler} {nodes : List Node} :
    (collectNodes gates compiler nodes).value = .error failure ↔
      compiler.separator = .error failure ∧
        ∃ node ∈ nodes, (gates.admitsField node).value = true ∧ Compiler.NeedsSeparator node := by
  induction nodes with
  | nil => exact iff_of_false (by rintro ⟨⟩) (by simp)
  | cons node rest ih =>
    have first : compiler.separator = .error failure ∧ (gates.admitsField node).value = true ∧
        Compiler.NeedsSeparator node ↔ (gates.admitsField node).value = true ∧
          (compiler.compile node).value = .error (.crashed failure) := by
      rw [Compiler.compile_eq_crashed_iff, and_left_comm]
    simp only [List.mem_cons, exists_eq_or_imp]
    rw [and_or_left, first, ← ih, collectNodes, Noted.value_bind]
    split
    · next admitted =>
      rw [Noted.value_bind, admitted]
      split
      · next made =>
        rw [Noted.value_bind, made]
        split
        · next all => simp [all]
        · next failed => simp [failed]
      · next wrong =>
        rw [wrong]
        simp
      · next crash crashed =>
        -- The nodes after this one may fail too, but with no other failure.
        rw [crashed, ih]
        have lacking := (Compiler.compile_eq_crashed_iff.1 crashed).1
        rw [lacking]
        simp +contextual
    · next excluded =>
      simp [excluded]

/-- Whether some field to be compiled needs the configured separator. -/
def NeedsSeparator (session : Session) (store : Store) : Prop :=
  (session.gates store).admitsPanel session.panel = true ∧
    ∃ node ∈ session.panel.childrenNamed "field",
      ((session.gates store).admitsField node).value = true ∧ Compiler.NeedsSeparator node

theorem map_eq_error_iff {α β : Type} {result : Except Failure α} {f : α → β} :
    result.map f = .error failure ↔ result = .error failure := by
  cases result <;> simp [Except.map]

theorem collect_eq_error_iff :
    (session.collect store).value = .error failure ↔
      session.settings.separator = .error failure ∧ session.NeedsSeparator store := by
  rw [value_collect, NeedsSeparator]
  split
  · next admitted =>
    rw [map_eq_error_iff, collectNodes_eq_error_iff, admitted]
    simp only [true_and]
    exact Iff.rfl
  · next excluded => exact iff_of_false (by rintro ⟨⟩) (by simp [excluded])

/-- The variables that fields set, field by field; none if there are no fields to collect. -/
def variablesOf (fields : Option (List Field)) : List String :=
  ((fields.getD []).filterMap Field.target).filter fun name => !name.isEmpty

theorem value_targets :
    (session.targets store).value = (session.collect store).value.map variablesOf := by
  rw [targets, Noted.value_bind]
  cases (session.collect store).value <;> rfl

theorem value_applyProperties (properties : OrderedMap String) :
    (session.applyProperties properties store).value =
      (session.targets store).value.map (applyTo properties store) := by
  rw [applyProperties, Noted.value_bind]
  cases (session.targets store).value <;> rfl

theorem value_template :
    (session.template store).value = (session.targets store).value.map Properties.template := by
  rw [template, Noted.value_bind]
  cases (session.targets store).value <;> rfl

theorem targets_eq_error_iff :
    (session.targets store).value = .error failure ↔
      session.settings.separator = .error failure ∧ session.NeedsSeparator store := by
  rw [value_targets, map_eq_error_iff, collect_eq_error_iff]

theorem applyProperties_eq_error_iff {properties : OrderedMap String} :
    (session.applyProperties properties store).value = .error failure ↔
      session.settings.separator = .error failure ∧ session.NeedsSeparator store := by
  rw [value_applyProperties, map_eq_error_iff, targets_eq_error_iff]

theorem template_eq_error_iff :
    (session.template store).value = .error failure ↔
      session.settings.separator = .error failure ∧ session.NeedsSeparator store := by
  rw [value_template, map_eq_error_iff, targets_eq_error_iff]

/-- The stores from which a session compiles its fields: the first one, and those in which it is
asked to redisplay. -/
inductive Compiles (session : Session) (store : Store) (pending : List String) : Store → Prop where
  | first : Compiles session store pending store
  | again {fields last : List Field} {lastStore : Store} {left : List String}
      (collected : (session.collect store).value = .ok (some fields))
      (reached : Reaches session.passTurn fields store pending last lastStore left)
      (redisplayed : (session.pass last lastStore left).value = .redisplay) :
      Compiles session store pending (session.pass last lastStore left).store

/-- A pass fails only where the fields are compiled anew. -/
theorem passTurn_eq_error_iff {fields : List Field} {pending : List String} :
    (session.passTurn fields store pending).value = .stop (.error failure) ↔
      (session.pass fields store pending).value = .redisplay ∧
        (session.collect (session.pass fields store pending).store).value = .error failure := by
  rw [passTurn, value_bind]
  cases action : (session.pass fields store pending).value with
  | proceed => simp
  | quit => simp
  | redisplay =>
    dsimp only
    rw [value_bind, value_bind, value_noted, value_store]
    cases made : (session.collect (session.pass fields store pending).store).value with
    | ok fields => simp
    | error failed => simp

theorem run_eq_error_of_collect {pending : List String}
    (failed : (session.collect store).value = .error failure) :
    (session.run store pending).value = .error failure := by
  rw [run, value_bind, value_bind, value_noted, value_store, failed]
  rfl

theorem value_run_of_fields {fields : List Field} {pending : List String}
    (collected : (session.collect store).value = .ok (some fields)) :
    (session.run store pending).value =
      (turns session.passTurn (.ok false) fields store pending).value := by
  rw [run, value_bind, value_bind, value_noted, value_store, collected]
  rfl

/-- A session fails if and only if compiling fails at one of the stores that come up. -/
theorem run_eq_error_iff {pending : List String} :
    (session.run store pending).value = .error failure ↔
      ∃ compiled, Compiles session store pending compiled ∧
        (session.collect compiled).value = .error failure := by
  constructor
  · intro fails
    cases made : (session.collect store).value with
    | error failed =>
      rw [run_eq_error_of_collect made] at fails
      cases fails
      exact ⟨store, .first, made⟩
    | ok collected =>
      cases collected with
      | none =>
        rw [run, value_bind, value_bind, value_noted, value_store, made] at fails
        cases fails
      | some fields =>
        rw [value_run_of_fields made, value_turns_iff session.takesAnswers_passTurn] at fails
        obtain ⟨last, lastStore, left, reached, stops⟩ := fails
        obtain ⟨redisplayed, failed⟩ := passTurn_eq_error_iff.1 stops
        exact ⟨_, .again made reached redisplayed, failed⟩
  · rintro ⟨compiled, compiles, failed⟩
    cases compiles with
    | first => exact run_eq_error_of_collect failed
    | again collected reached redisplayed =>
      rw [value_run_of_fields collected, value_turns_iff session.takesAnswers_passTurn]
      exact ⟨_, _, _, reached, passTurn_eq_error_iff.2 ⟨redisplayed, failed⟩⟩

theorem valueAt_of_getElem? {choices : List Choice} {i : Nat} {choice : Choice}
    (there : choices[i]? = some choice) : valueAt choices i = choice.value.getD "" := by
  rw [valueAt, there]
  rfl

/-- A field that succeeds has stored the value of the choice that it has selected. -/
theorem gives_interviewChoice (field : ChoiceField) :
    Gives (session.interviewChoice field) fun made after => made.2 = true →
      ∃ target i choice, named? field.target = some target ∧ made.1.selected = some i ∧
        field.choices[i]? = some choice ∧ after.get? target = some (choice.value.getD "") := by
  unfold interviewChoice
  split
  · exact gives_next fun _ => gives_pure (by simp)
  · next target hasTarget =>
    refine gives_next fun _ => ?_
    split
    · exact gives_next fun _ => gives_pure (by simp)
    · refine gives_next fun _ => gives_next fun _ => ?_
      refine gives_bind (gives_askNumber _ _ _ _) fun number bounds => ?_
      cases number with
      | none => exact gives_pure (by simp)
      | some n =>
        have within := bounds n rfl
        have there : field.choices[n.toNat]? = some field.choices[n.toNat] :=
          List.getElem?_eq_getElem (by omega)
        refine gives_set_pure fun after stored _ => ?_
        rw [valueAt_of_getElem? there] at stored
        exact ⟨target, n.toNat, _, hasTarget, rfl, there, stored⟩

/-- A box that succeeds has stored the value of one of its two choices, the second if it is now
ticked. -/
theorem gives_interviewCheck (field : CheckField) :
    Gives (session.interviewCheck field) fun made after => made.2 = true →
      ∃ target box i choice, named? field.target = some target ∧ field.box = some box ∧
        made.1.isTicked = (i == 1) ∧ box.choices[i]? = some choice ∧
        after.get? target = some (choice.value.getD "") := by
  unfold interviewCheck
  split
  · exact gives_next fun _ => gives_pure (by simp)
  · exact gives_next fun _ => gives_pure (by simp)
  · next target box hasTarget defined =>
    refine gives_next fun _ => gives_next fun _ => ?_
    refine gives_bind (gives_askNumber _ _ _ _) fun number bounds => ?_
    cases number with
    | none => exact gives_pure (by simp)
    | some n =>
      have within := bounds n rfl
      have two : box.choices.length = 2 := rfl
      have there : box.choices[n.toNat]? = some box.choices[n.toNat] :=
        List.getElem?_eq_getElem (by omega)
      have ticked : (n == 1) = (n.toNat == 1) := by
        rw [Bool.eq_iff_iff, beq_iff_eq, beq_iff_eq]
        omega
      refine gives_set_pure fun after stored _ => ?_
      rw [valueAt_of_getElem? there] at stored
      exact ⟨target, box, n.toNat, _, hasTarget, defined, ticked, there, stored⟩

theorem exists_ok_iff_of_eq_error_iff {α : Type} {result : Except Failure α}
    {separator : Except Failure String} {needs : Prop}
    (fails : ∀ failure, result = .error failure ↔ separator = .error failure ∧ needs) :
    (∃ a, result = .ok a) ↔ (∃ text, separator = .ok text) ∨ ¬ needs := by
  cases result with
  | ok a =>
    have none : ∀ failure, ¬ (separator = .error failure ∧ needs) := by simpa using fails
    refine iff_of_true ⟨a, rfl⟩ ?_
    cases separator with
    | ok text => exact .inl ⟨text, rfl⟩
    | error failure => exact .inr fun needed => none failure ⟨rfl, needed⟩
  | error failure =>
    obtain ⟨lacking, needed⟩ := (fails failure).1 rfl
    refine iff_of_false (by rintro ⟨_, ⟨⟩⟩) ?_
    rintro (⟨text, given⟩ | unneeded)
    · rw [lacking] at given
      cases given
    · exact unneeded needed

/-- Compiling, filling in properties, writing a template and asking return unless the configured
separator is no text and a value needs it, whatever else is at fault. Each slot and each choice that
is looked up is there, and each number within its bounds. -/
theorem returns_iff_separator (session : Session) (store : Store) (pending : List String)
    (properties : OrderedMap String) :
    ((∃ fields, (session.collect store).value = .ok fields) ↔
      (∃ text, session.settings.separator = .ok text) ∨ ¬ session.NeedsSeparator store) ∧
    ((∃ after, (session.applyProperties properties store).value = .ok after) ↔
      (∃ text, session.settings.separator = .ok text) ∨ ¬ session.NeedsSeparator store) ∧
    ((∃ text, (session.template store).value = .ok text) ↔
      (∃ text, session.settings.separator = .ok text) ∨ ¬ session.NeedsSeparator store) ∧
    ((∃ finished, (session.run store pending).value = .ok finished) ↔
      (∃ text, session.settings.separator = .ok text) ∨
        ¬ ∃ compiled, Compiles session store pending compiled ∧ session.NeedsSeparator compiled) ∧
    (∀ layout set format slots,
      Layout.parseSlots set (Text.words layout).length = .ok slots →
        Layout.Filled (Text.words layout).length slots ∧
        Layout.renderAt? format slots 0 (Text.words layout) =
          some (Layout.render format (Text.words layout) slots)) ∧
    (∀ kind node i, ((session.compiler store).compileChoice kind node).value.selected = some i →
      i < ((session.compiler store).compileChoice kind node).value.choices.length) ∧
    (∀ text least greatest default n,
      (askNumber text least greatest default store pending).value = some n →
        least ≤ n ∧ n ≤ greatest) ∧
    (∀ field, let outcome := session.interviewChoice field store pending
      outcome.value.2 = true → ∃ target i choice, named? field.target = some target ∧
        outcome.value.1.selected = some i ∧ field.choices[i]? = some choice ∧
        outcome.store.get? target = some (choice.value.getD "")) ∧
    (∀ field, let outcome := session.interviewCheck field store pending
      outcome.value.2 = true → ∃ target box i choice, named? field.target = some target ∧
        field.box = some box ∧ outcome.value.1.isTicked = (i == 1) ∧
        box.choices[i]? = some choice ∧
        outcome.store.get? target = some (choice.value.getD "")) := by
  refine ⟨exists_ok_iff_of_eq_error_iff fun _ => collect_eq_error_iff,
    exists_ok_iff_of_eq_error_iff fun _ => applyProperties_eq_error_iff,
    exists_ok_iff_of_eq_error_iff fun _ => template_eq_error_iff,
    exists_ok_iff_of_eq_error_iff fun failure => ?_, ?_, ?_, ?_, ?_, ?_⟩
  · rw [run_eq_error_iff]
    simp only [collect_eq_error_iff, and_left_comm, exists_and_left]
  · intro layout set format slots parsed
    exact ⟨Layout.filled_parseSlots parsed, Layout.renderAt?_of_parseSlots format parsed⟩
  · exact fun kind node i => Compiler.lt_length_of_selected
  · exact fun text least greatest default =>
      gives_askNumber text least greatest default store pending
  · exact fun field => gives_interviewChoice field store pending
  · exact fun field => gives_interviewCheck field store pending

/-- A panel with one rule whose literal stands for the separator, configured as a number. -/
def numbered : Session where
  panel := ⟨"panel", .empty, [⟨"field", .ofList [("type", "rule"), ("variable", "key")],
    [⟨"spec", .ofList [("layout", "N:2:2 - N:2:2"), ("set", "0:AB 1:CD"),
      ("resultFormat", "specialSeparator")], [], none⟩], none⟩], none⟩
  registry := none
  factory := ⟨.empty, fun _ => none⟩
  settings := ⟨"x", true, [], "unix", Config.separatorOf (.int 5)⟩

/-- A number cannot stand between the parts of a value. -/
theorem numbered_fails :
    (numbered.collect .empty).value = .error .typeMismatch ∧
    (numbered.applyProperties .empty .empty).value = .error .typeMismatch ∧
    (numbered.template .empty).value = .error .typeMismatch ∧
    (numbered.run .empty []).value = .error .typeMismatch ∧
    ¬ ∀ (session : Session) (store : Store), ∃ fields, (session.collect store).value = .ok fields := by
  have failed : (numbered.collect .empty).value = .error .typeMismatch := rfl
  have needed := collect_eq_error_iff.1 failed
  refine ⟨failed, applyProperties_eq_error_iff.2 needed, template_eq_error_iff.2 needed,
    run_eq_error_of_collect failed, fun returns => ?_⟩
  obtain ⟨fields, returned⟩ := returns numbered .empty
  rw [failed] at returned
  cases returned

end InputPanel.Session
