import InputPanel.Proofs.Field.Recompiling
import InputPanel.Proofs.Session.EmptyAnswers

/-!
# Asking again with nothing entered

A field that has succeeded can be compiled anew and asked again, and then offers
what it has stored. With nothing entered it keeps the store if and only if the
stored value comes through once more: a text and a password through expansion,
validators and processor, a choice or a box by being found again. A processor that
is not idempotent makes another value of its own result.
-/

namespace InputPanel

/-- How many questions a field puts if each is answered well. -/
def Field.questions : Field → Nat
  | .filler _ => 0
  | .decoration _ => 0
  | .password field => field.inputs.length
  | _ => 1

namespace Session

open Dialogue

variable {session : Session} {store : Store} {target value : String} {pending : List String}

section Success

/-- A text that succeeds has stored what the processor makes of an acceptable value. -/
theorem gives_interviewText (field : TextField) :
    Gives (session.interviewText field) fun succeeded after => succeeded = true →
      ∃ target entered, named? field.target = some target ∧ field.question.isSome = true ∧
        (Binding.firstFailure session.factory (.one (some entered)) field.validators).value =
          none ∧
        after.get? target = some (session.processed field.processor entered).value := by
  refine gives_bind (gives_askText false field) fun text given => ?_
  cases text with
  | none => exact gives_pure (by simp)
  | some text =>
    obtain ⟨named, posed, entered, accepted, made⟩ := given text rfl
    refine gives_set_pure fun after stored _ => ?_
    exact ⟨_, entered, named?_getD named, posed, accepted, made ▸ stored⟩

end Success

section Again

/-- Whether a value that a field has stored comes through once more. -/
def Restores (session : Session) (store : Store) (target value : String) : Field → Prop
  | .text field =>
    (Binding.firstFailure session.factory (.one (some (store.expand value)))
        field.validators).value = none ∧
      (session.processed field.processor (store.expand value)).value = value
  | .choice _ => value ≠ ""
  | .check field => value ≠ "" ∨ presetValue field store = ""
  | .password field =>
    let entered := retyped target field.inputs.length store
    (Binding.firstFailure session.factory (.many (entered.map some)) field.validators).value =
        none ∧
      session.settled field entered = value
  | _ => True

/-- A field that is asked with as many empty answers as it puts questions succeeds and leaves the
store as it is. -/
def Keeps (session : Session) (field : Field) (store : Store) : Prop :=
  let asked := session.interview field store (List.replicate field.questions "")
  asked.value.2 = true ∧ asked.store = store

/-- An acceptable text that no processor changes comes through if and only if expanding it does not
change it either. -/
theorem restores_text_iff {field : TextField} (unprocessed : named? field.processor = none)
    (accepted : (Binding.firstFailure session.factory (.one (some value))
      field.validators).value = none) :
    session.Restores store target value (.text field) ↔ store.expand value = value := by
  rw [Restores, value_processed_of_unnamed unprocessed]
  refine ⟨And.right, fun plain => ⟨?_, plain⟩⟩
  rw [plain]
  exact accepted

theorem retyped_of_plain (stored : store.get? target = some value)
    (plain : store.expand value = value) (n : Nat) :
    retyped target n store = List.replicate n value := by
  have current := OrderedMap.getD_of_get? stored ""
  have unchanged : store.set target value = store := OrderedMap.set_eq_self_iff.2 stored
  induction n with
  | zero => rfl
  | succ n ih => rw [retyped, current, plain, unchanged, ih, List.replicate_succ]

theorem settled_replicate (session : Session) (field : PasswordField) (value : String) {n : Nat}
    (some : n ≠ 0) :
    session.settled field (List.replicate n value) =
      (session.processed field.processor value).value := by
  obtain ⟨m, rfl⟩ := Nat.exists_eq_succ_of_ne_zero some
  have last : (List.replicate (m + 1) value).getLastD "" = value := by
    simp [List.getLastD_eq_getLast?, List.getLast?_replicate]
  cases named : named? field.processor with
  | some _ => rw [settled, named]; rfl
  | none => rw [settled, named, value_processed_of_unnamed named value, last]; rfl

/-- A password that expanding does not change comes through if and only if it is accepted from all
inputs alike and processed to itself. -/
theorem restores_password_iff {field : PasswordField} (some : field.inputs ≠ [])
    (stored : store.get? target = .some value) (plain : store.expand value = value) :
    session.Restores store target value (.password field) ↔
      (Binding.firstFailure session.factory
          (.many (List.replicate field.inputs.length (.some value))) field.validators).value =
          none ∧
        (session.processed field.processor value).value = value := by
  have all := retyped_of_plain stored plain field.inputs.length
  have settles := session.settled_replicate field value
    (fun none => some (List.length_eq_zero_iff.1 none))
  rw [Restores, all, List.map_replicate, settles]

variable {field again : Field}

/-- A field that succeeds has stored a value, and a field like it that is asked after that keeps it
if and only if it comes through once more. -/
theorem exists_stored_of_interview
    (succeeded : (session.interview field store pending).value.2 = true)
    (collectible : field.isDecorative = false)
    (entered : ∀ password, field = .password password → ∃ nodes, nodes ≠ [] ∧
      password.inputs = nodes.map (Compiler.passwordInput password.target))
    (alike : field.Alike again) :
    let after := (session.interview field store pending).store
    ∃ target value, named? again.target = some target ∧ after.get? target = some value ∧
      (session.Keeps again after ↔ session.Restores after target value again) ∧
      ∀ text, again = .text text → named? text.processor = none →
        (Binding.firstFailure session.factory (.one (some value)) text.validators).value =
          none := by
  cases alike with
  | filler _ => cases collectible
  | decoration _ => cases collectible
  | text f =>
    obtain ⟨target, entered, named, posed, accepted, stored⟩ :=
      gives_interviewText f store pending succeeded
    refine ⟨target, _, named, stored, interviewText_keeps_iff named posed stored, ?_⟩
    rintro _ ⟨⟩ unprocessed
    rw [value_processed_of_unnamed unprocessed]
    exact accepted
  | @choice f other target values =>
    obtain ⟨name, i, choice, named, _, there, stored⟩ :=
      gives_interviewChoice f store pending succeeded
    rw [← target] at named
    have offered := getD_mem_values there
    rw [← values] at offered
    have full : other.choices ≠ [] := by
      intro none
      rw [none, List.map_nil, eq_comm, List.map_eq_nil_iff] at values
      rw [values] at there
      cases there
    refine ⟨name, _, named, stored, interviewChoice_keeps_iff named stored full offered, ?_⟩
    rintro _ ⟨⟩
  | @check f other target same =>
    obtain ⟨name, box, i, choice, named, defined, _, there, stored⟩ :=
      gives_interviewCheck f store pending succeeded
    rw [← target] at named
    rw [← same] at defined
    refine ⟨name, _, named, stored,
      interviewCheck_keeps_iff named stored defined (getD_mem_values there), ?_⟩
    rintro _ ⟨⟩
  | password f =>
    have inputs := entered f rfl
    obtain ⟨target, rounds, answers, left, shown, before, named, split, refuses, complete,
      accepted⟩ := exists_accepted inputs succeeded
    have enters : Enters f target := ⟨named, inputs⟩
    obtain ⟨_, after, _⟩ := interviewPassword_of_accepted enters refuses complete accepted left
    rw [← split] at after
    have stored : (session.interviewPassword f store pending).store.get? target =
        some (session.settled f (session.valuesOf f target before answers)) := by
      rw [after]
      exact OrderedMap.get?_set_self _ _ _
    refine ⟨target, _, named, stored, interviewPassword_keeps_iff enters stored, ?_⟩
    rintro _ ⟨⟩

/-- A node that has made a field that succeeds makes one again from the store that this leaves.
Asked with nothing entered, that field succeeds and leaves the store as it is if and only if the
stored value comes through once more. A text without a processor does so if and only if it is not
changed by expanding it, and a password that is not if and only if it is accepted from all inputs
alike and processed to itself. -/
theorem keeps_iff_restores {node : Node}
    (made : ((session.compiler store).compile node).value = .ok field)
    (collectible : field.isDecorative = false)
    (succeeded : (session.interview field store pending).value.2 = true) :
    let after := (session.interview field store pending).store
    ∃ again target value, ((session.compiler after).compile node).value = .ok again ∧
      named? again.target = some target ∧ after.get? target = some value ∧
      (session.Keeps again after ↔ session.Restores after target value again) ∧
      (∀ text, again = .text text → named? text.processor = none →
        (session.Keeps again after ↔ after.expand value = value)) ∧
      (∀ password, again = .password password → after.expand value = value →
        (session.Keeps again after ↔
          (Binding.firstFailure session.factory
              (.many (List.replicate password.inputs.length (some value)))
              password.validators).value = none ∧
            (session.processed password.processor value).value = value)) := by
  obtain ⟨again, remade, alike⟩ :=
    Compiler.exists_alike_of_compile made (session.interview field store pending).store
  have entered : ∀ password, field = .password password → ∃ nodes, nodes ≠ [] ∧
      password.inputs = nodes.map (Compiler.passwordInput password.target) := by
    rintro password rfl
    exact Compiler.inputs_of_compile made
  obtain ⟨target, value, named, stored, keeps, accepted⟩ :=
    exists_stored_of_interview succeeded collectible entered alike
  refine ⟨again, target, value, remade, named, stored, keeps, ?_, ?_⟩
  · rintro text rfl unprocessed
    exact keeps.trans (restores_text_iff unprocessed (accepted text rfl unprocessed))
  · rintro password rfl plain
    obtain ⟨nodes, more, inputs⟩ := Compiler.inputs_of_compile remade
    have some : password.inputs ≠ [] := by
      rw [inputs]
      exact fun none => more (List.map_eq_nil_iff.1 none)
    exact keeps.trans (restores_password_iff some stored plain)

end Again

section Mirrored

/-- A text to enter, with a processor that writes it backwards. -/
def mirroredNode : Node :=
  ⟨"field", .ofList [("type", "text"), ("variable", "name")],
    [⟨"spec", .ofList [("txt", "Name")],
      [⟨"processor", .ofList [("class", "mirror")], [], none⟩], none⟩], none⟩

def mirroredField : TextField :=
  ⟨.text, some "name", none, some ⟨some "Name", none⟩, [], none, some "mirror"⟩

def mirrored : Session where
  panel := ⟨"panel", .empty, [mirroredNode], none⟩
  registry := none
  factory := ⟨.ofList [("mirror", .build (.ok (.processor "mirror" fun value =>
    .ok (String.ofList (value.getD "").toList.reverse))))], fun _ => none⟩
  settings := ⟨"x", true, [], "unix", .ok ""⟩

theorem compile_mirroredNode (store : Store) :
    ((mirrored.compiler store).compile mirroredNode).value = .ok (.text mirroredField) := rfl

/-- A text that reads the same backwards is kept. -/
theorem mirrored_keeps_palindrome :
    ((mirrored.compiler .empty).compile mirroredNode).value = .ok (.text mirroredField) ∧
    (Field.text mirroredField).isDecorative = false ∧
    (mirrored.interview (.text mirroredField) .empty ["abba"]).value.2 = true ∧
    mirrored.Keeps (.text mirroredField)
      (mirrored.interview (.text mirroredField) .empty ["abba"]).store := by
  have made := compile_mirroredNode .empty
  have succeeded : (mirrored.interview (.text mirroredField) .empty ["abba"]).value.2 = true := rfl
  refine ⟨made, rfl, succeeded, ?_⟩
  obtain ⟨again, target, value, remade, named, stored, keeps, _⟩ :=
    keeps_iff_restores made rfl succeeded
  rw [compile_mirroredNode] at remade
  cases remade
  cases named
  cases stored
  exact keeps.2 ⟨rfl, by decide +kernel⟩

/-- A text that does not is turned round once more, back to what was entered at first. -/
theorem mirrored_not_kept :
    (mirrored.interview (.text mirroredField) .empty ["ab"]).value.2 = true ∧
    (mirrored.interview (.text mirroredField) .empty ["ab"]).store = .ofList [("name", "ba")] ∧
    (mirrored.interview (.text mirroredField) (.ofList [("name", "ba")]) [""]).store =
      .ofList [("name", "ab")] ∧
    ¬ ∀ (session : Session) (store : Store) (node : Node) (field : Field) (pending : List String),
      ((session.compiler store).compile node).value = .ok field → field.isDecorative = false →
      (session.interview field store pending).value.2 = true →
        ∃ again, ((session.compiler (session.interview field store pending).store).compile
            node).value = .ok again ∧
          session.Keeps again (session.interview field store pending).store := by
  have stored : (mirrored.interview (.text mirroredField) .empty ["ab"]).store =
      .ofList [("name", "ba")] := rfl
  have plain : Store.expand (.ofList [("name", "ba")]) "ba" = "ba" := by decide +kernel
  have turned : (mirrored.interview (.text mirroredField) (.ofList [("name", "ba")]) [""]).store =
      .ofList [("name", "ab")] := by
    have again : (mirrored.interviewText mirroredField (.ofList [("name", "ba")]) [""]).store =
        OrderedMap.set (.ofList [("name", "ba")]) "name" (mirrored.processed (some "mirror")
          (Store.expand (.ofList [("name", "ba")]) "ba")).value :=
      (mirrored.interviewText_of_accepted rfl rfl rfl rfl).2
    rw [plain] at again
    exact again
  refine ⟨rfl, stored, turned, fun keeps => ?_⟩
  obtain ⟨again, remade, _, same⟩ :=
    keeps mirrored .empty mirroredNode _ ["ab"] (compile_mirroredNode .empty) rfl rfl
  rw [compile_mirroredNode] at remade
  cases remade
  have kept : OrderedMap.ofList [("name", "ab")] = OrderedMap.ofList [("name", "ba")] :=
    turned.symm.trans (stored ▸ same)
  exact absurd (congrArg (fun store => store.get? "name") kept) (by decide)

end Mirrored

end Session

end InputPanel
