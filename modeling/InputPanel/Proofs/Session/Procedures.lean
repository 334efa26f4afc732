import InputPanel.Proofs.Field.WellFormed
import InputPanel.Proofs.Session.Containment
import InputPanel.Proofs.Session.Selections

/-!
# Each field has its procedure

A field is asked by the procedure of its kind. One that is well formed has a
procedure, and any choice that this looks up is there. Asking changes nothing but what is
selected, and leaves the field well formed, so that the fields of a panel are well
formed from when they are compiled to the end of a pass.
-/

namespace InputPanel

namespace FieldKind

/-- The kinds of field that are shown and enter nothing. -/
def shown : List FieldKind := [staticText, title, divider, space]

/-- The kinds of field that are entered as text. -/
def entered : List FieldKind := [text, file, dir, rule]

/-- The kinds of field that are chosen from a list. -/
def chosen : List FieldKind := [combo, radio]

end FieldKind

namespace Session

open Dialogue

variable {session : Session}

/-- The procedure that the kind of a field calls for, on what the field is made of. There is none if
the one does not go with the other. -/
def procedure? (session : Session) : Field → Option (Dialogue (Field × Bool))
  | .filler d =>
    if d.kind ∈ FieldKind.shown then some do return (.filler d, ← interviewDecoration d) else none
  | .decoration d =>
    if d.kind ∈ FieldKind.shown then some do return (.decoration d, ← interviewDecoration d)
    else none
  | .text f =>
    if f.kind ∈ FieldKind.entered then some do return (.text f, ← session.interviewText f)
    else none
  | .choice f =>
    if f.kind ∈ FieldKind.chosen then some do
      let (f, succeeded) ← session.interviewChoice f
      return (.choice f, succeeded)
    else none
  | .check f => some do
    let (f, succeeded) ← session.interviewCheck f
    return (.check f, succeeded)
  | .password f => some do return (.password f, ← session.interviewPassword f)

theorem procedure?_of_wellFormed (session : Session) {field : Field} (formed : field.WellFormed) :
    session.procedure? field = some (session.interview field) := by
  cases formed with
  | @filler d kind _ =>
    have shown : d.kind ∈ FieldKind.shown := by
      rcases kind with kind | kind <;> simp [FieldKind.shown, kind]
    exact if_pos shown
  | @decoration d kind =>
    have shown : d.kind ∈ FieldKind.shown := by
      rcases kind with kind | kind <;> simp [FieldKind.shown, kind]
    exact if_pos shown
  | @text f kind _ =>
    have entered : f.kind ∈ FieldKind.entered := by
      rcases kind with kind | kind | kind <;> simp [FieldKind.entered, kind]
    exact if_pos entered
  | @choice f kind _ =>
    have chosen : f.kind ∈ FieldKind.chosen := by
      rcases kind with kind | kind <;> simp [FieldKind.chosen, kind]
    exact if_pos chosen
  | check _ _ _ => rfl
  | password _ _ => rfl

section Selection

/-- What is selected when a field is asked is one of its choices, like what it declares. -/
theorem lt_length_of_preselected {field : ChoiceField} {stored : Option String}
    (within : ∀ i, field.selected = some i → i < field.choices.length) {i : Nat}
    (selected : preselected field stored = some i) : i < field.choices.length := by
  cases stored with
  | none => exact within i selected
  | some value => exact lt_length_of_indexOfValue selected

/-- Asking changes no more of a field than what is selected, and this to one of its choices. -/
theorem gives_selected_interviewChoice {field : ChoiceField}
    (within : ∀ i, field.selected = some i → i < field.choices.length) :
    Gives (session.interviewChoice field) fun made _ =>
      made.1 = { field with selected := made.1.selected } ∧
        ∀ i, made.1.selected = some i → i < field.choices.length := by
  unfold interviewChoice
  split
  · exact gives_next fun _ => gives_pure fun _ => ⟨rfl, within⟩
  · next target named =>
    refine gives_next fun _ => ?_
    split
    · exact gives_next fun _ => gives_pure fun _ => ⟨rfl, by simp⟩
    · refine gives_next fun store => gives_next fun _ => ?_
      refine gives_bind (gives_askNumber _ _ _ _) fun number bounds => ?_
      cases number with
      | none =>
        -- Without an answer the field is left with what was selected as it was shown.
        exact gives_pure fun _ => ⟨rfl, fun i => lt_length_of_preselected within⟩
      | some n =>
        have bound := bounds n rfl
        refine gives_set_pure fun _ _ => ⟨rfl, fun i selected => ?_⟩
        cases selected
        omega

/-- A box that has no values is not asked, and so not ticked. -/
theorem gives_ticked_interviewCheck (field : CheckField) :
    Gives (session.interviewCheck field) fun made _ =>
      made.1 = { field with isTicked := made.1.isTicked } ∧
        (field.box = none → made.1.isTicked = field.isTicked) := by
  unfold interviewCheck
  split
  · exact gives_next fun _ => gives_pure fun _ => ⟨rfl, fun _ => rfl⟩
  · exact gives_next fun _ => gives_pure fun _ => ⟨rfl, fun _ => rfl⟩
  · next target box named defined =>
    rw [defined]
    refine gives_next fun _ => gives_next fun _ => gives_next fun number => ?_
    cases number with
    | none => exact gives_pure fun _ => ⟨rfl, by simp⟩
    | some n => exact gives_set_pure fun _ _ => ⟨rfl, by simp⟩

end Selection

/-- A field as it is left when it has been asked. -/
structure Leaves (field left : Field) : Prop where
  wellFormed : left.WellFormed
  kind : left.kind = field.kind
  choices : left.choices = field.choices

theorem Leaves.refl {field : Field} (formed : field.WellFormed) : Leaves field field :=
  ⟨formed, rfl, rfl⟩

/-- Only a selection is left otherwise than it was. -/
theorem gives_interview {field : Field} (formed : field.WellFormed) :
    Gives (session.interview field) fun made _ => Leaves field made.1 := by
  cases field with
  | choice f =>
    cases formed with | choice kind within =>
    refine gives_bind (gives_selected_interviewChoice (Field.selectsWithin_choice_iff.1 within))
      fun made asked => gives_pure fun _ => ?_
    obtain ⟨left, succeeded⟩ := made
    obtain ⟨same, selected⟩ := asked
    dsimp only at same selected ⊢
    rw [same]
    exact ⟨.choice kind (Field.selectsWithin_choice_iff.2 selected), rfl, rfl⟩
  | check f =>
    refine gives_bind (gives_ticked_interviewCheck f) fun made asked => gives_pure fun _ => ?_
    obtain ⟨left, succeeded⟩ := made
    obtain ⟨same, untouched⟩ := asked
    dsimp only at same untouched ⊢
    rw [same]
    refine ⟨Field.wellFormed_check_iff.2 fun missing => ?_, rfl, rfl⟩
    rw [untouched missing]
    exact Field.wellFormed_check_iff.1 formed missing
  | _ => exact gives_next fun _ => gives_pure fun _ => .refl formed

/-- A pass over well-formed fields leaves well-formed fields. -/
theorem gives_interviewAll {fields : List Field} (formed : ∀ field ∈ fields, field.WellFormed) :
    Gives (session.interviewAll fields) fun made _ => List.Forall₂ Leaves fields made.1 := by
  induction fields with
  | nil => exact gives_pure fun _ => .nil
  | cons field rest ih =>
    obtain ⟨first, others⟩ := List.forall_mem_cons.1 formed
    refine gives_bind (gives_interview first) fun made asked => ?_
    dsimp only
    split
    · exact gives_bind (ih others) fun all left => gives_pure fun _ => .cons asked left
    · -- The fields after one that fails are not asked, and stay as they were compiled.
      refine gives_next fun _ => gives_pure fun _ => .cons asked ?_
      exact List.forall₂_same.2 fun other present => .refl (others other present)

/-- All fields of a panel are well formed when they are compiled, and a pass at any later store
leaves each of them so. -/
theorem collected_left_wellFormed {session : Session} {store : Store} {fields : List Field}
    (collected : (session.collect store).value = .ok (some fields)) (now : Store)
    (pending : List String) :
    (∀ field ∈ fields, field.WellFormed) ∧
      List.Forall₂ Leaves fields (session.interviewAll fields now pending).value.1 := by
  have formed : ∀ field ∈ fields, field.WellFormed := by
    intro field present
    obtain ⟨node, made⟩ := exists_node_of_mem_collect collected present
    obtain ⟨kind, _, compiled⟩ := Compiler.kind_of_compile made
    exact (Compiler.wellFormed_of_compileKind compiled).1
  exact ⟨formed, gives_interviewAll formed now pending⟩

theorem selectedIndex_check_of_lt {field : CheckField} {i : Nat} (below : i < 2)
    (ticked : field.isTicked = (i == 1)) : (Field.check field).selectedIndex = i := by
  obtain rfl | rfl : i = 0 ∨ i = 1 := by omega
  · rw [Field.selectedIndex, ticked]
    rfl
  · rw [Field.selectedIndex, ticked]
    rfl

/-- A selection that succeeds has looked up a choice that is there, by the number that is now
selected, and stored its value. -/
theorem choice_of_interview (session : Session) {field : Field}
    (selects : field.isSelection = true) (store : Store) (pending : List String)
    (succeeded : (session.interview field store pending).value.2 = true) :
    let outcome := session.interview field store pending
    ∃ (target : String) (i : Nat) (choice : Choice), named? field.target = some target ∧
      outcome.value.1.selectedIndex = i ∧ field.choices[i]? = some choice ∧
      outcome.store.get? target = some (choice.value.getD "") := by
  cases field with
  | choice f =>
    obtain ⟨target, i, choice, named, selected, there, stored⟩ :=
      gives_interviewChoice f store pending succeeded
    exact ⟨target, i, choice, named, Field.selectedIndex_choice_eq_iff.2 selected, there, stored⟩
  | check f =>
    obtain ⟨target, box, i, choice, named, defined, ticked, there, stored⟩ :=
      gives_interviewCheck f store pending succeeded
    have choices : Field.choices (.check f) = box.choices := by
      rw [Field.choices, CheckField.choices, defined]
    have below : i < 2 := (List.getElem?_eq_some_iff.1 there).1
    exact ⟨target, i, choice, named, selectedIndex_check_of_lt below ticked, choices ▸ there,
      stored⟩
  | _ => cases selects

/-- A selection without choices asks nothing. -/
theorem silent_interview_of_empty (session : Session) {field : Field}
    (selects : field.isSelection = true) (empty : field.choices = []) :
    Silent (session.interview field) := by
  cases field with
  | choice f =>
    have none : f.choices.isEmpty = true := List.isEmpty_iff.2 empty
    refine silent_bind ?_ fun made => silent_pure _
    unfold interviewChoice
    split
    · exact silent_bind (silent_note _) fun _ => silent_pure _
    · refine silent_bind (silent_printText _) fun _ => ?_
      rw [if_pos none]
      exact silent_bind (silent_note _) fun _ => silent_pure _
  | check f =>
    refine silent_bind ?_ fun made => silent_pure _
    unfold interviewCheck
    split
    · exact silent_bind (silent_note _) fun _ => silent_pure _
    · exact silent_bind (silent_note _) fun _ => silent_pure _
    · next target box named defined =>
      rw [Field.choices, CheckField.choices, defined] at empty
      cases empty
  | _ => cases selects

/-- Whatever node a field is compiled from, and with whatever store and plugins, it is well formed
and of the kind that the node names, save that a rule makes a text; and this differs from what the
node makes as a text in its question alone. Every session has a procedure for the field, and asks it
by that. The procedure leaves it well formed, asks for a number only if there are choices, and each
choice that it looks up by a number is there. -/
theorem compiled_wellFormed (compiler : Compiler) {node : Node} {field : Field}
    (made : (compiler.compile node).value = .ok field) :
    ∃ kind : FieldKind, node.get? "type" = some kind.name ∧ field.kind = kind.made ∧
      field.WellFormed ∧
      (kind = .rule → ∃ rule text, field = .text rule ∧
        (compiler.compile (node.retyped .text)).value = .ok (.text text) ∧
        rule = { text with question := rule.question }) ∧
      ∀ session : Session, session.procedure? field = some (session.interview field) ∧
        ∀ store pending, let outcome := session.interview field store pending
          Leaves field outcome.value.1 ∧
          (field.isSelection = true → 0 < outcome.asked → field.choices ≠ []) ∧
          (field.isSelection = true → outcome.value.2 = true →
            ∃ (target : String) (i : Nat) (choice : Choice), named? field.target = some target ∧
              outcome.value.1.selectedIndex = i ∧ field.choices[i]? = some choice ∧
              outcome.store.get? target = some (choice.value.getD "")) := by
  obtain ⟨kind, typed, compiled⟩ := Compiler.kind_of_compile made
  obtain ⟨formed, same⟩ := Compiler.wellFormed_of_compileKind compiled
  refine ⟨kind, typed, same, formed, ?_, fun session => ⟨session.procedure?_of_wellFormed formed,
    fun store pending => ⟨gives_interview formed store pending, fun selects asked empty => ?_,
      fun selects => session.choice_of_interview selects store pending⟩⟩⟩
  · rintro rfl
    exact Compiler.text_of_rule compiled
  · have silent := (session.silent_interview_of_empty selects empty store pending).2
    omega

section Keyed

/-- A key in two parts, which are entered as one text. -/
def keyNode : Node :=
  ⟨"field", .ofList [("type", "rule"), ("variable", "key")],
    [⟨"spec", .ofList [("txt", "Key"), ("layout", "N:2:2 - N:2:2"), ("set", "0:AB 1:CD")], [],
      none⟩,
     ⟨"validator", .ofList [("class", "digits")], [], none⟩], none⟩

def keyField : TextField where
  kind := .text
  target := some "key"
  description := none
  question := some ⟨some "Key", some "AB-CD"⟩
  validators := [⟨"digits", .empty, none⟩]
  condition := none
  processor := none

def keyCompiler : Compiler := ⟨.empty, ⟨.empty, fun _ => none⟩, .ok ""⟩

/-- The key is a text like any other, with the validator that it has as a text, and differs in the
value that it offers. -/
theorem key_wellFormed :
    (keyCompiler.compile keyNode).value = .ok (.text keyField) ∧
      Field.WellFormed (.text keyField) ∧
      (∃ text, (keyCompiler.compile (keyNode.retyped .text)).value = .ok (.text text) ∧
        keyField = { text with question := keyField.question }) ∧
      lettered.procedure? (.text keyField) = some (lettered.interview (.text keyField)) := by
  have made : (keyCompiler.compile keyNode).value = .ok (.text keyField) := rfl
  obtain ⟨kind, typed, _, formed, plain, asked⟩ := compiled_wellFormed keyCompiler made
  have named : "rule" = kind.name := Option.some.inj typed
  obtain rfl : FieldKind.rule = kind :=
    Option.some.inj (FieldKind.ofName?_eq_some_iff.2 named)
  obtain ⟨rule, text, same, compiled, differs⟩ := plain rfl
  cases same
  exact ⟨made, formed, ⟨text, compiled, differs⟩, (asked lettered).1⟩

end Keyed

end Session

end InputPanel
