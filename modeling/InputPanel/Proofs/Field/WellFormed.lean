import InputPanel.Proofs.Field.Choices
import InputPanel.Proofs.OrderedMap

/-!
# What every compiled field keeps to

Asking looks choices up by their index and goes by the kind of a field, and checks
neither. It need not: whatever the definition of a node leaves out, the field that is
compiled from it is well formed, with a selection among its own choices. A rule is
a text that differs in its question alone.
-/

namespace InputPanel

namespace FieldKind

theorem ofName?_eq_some_iff {name : String} {kind : FieldKind} :
    ofName? name = some kind ↔ name = kind.name := by
  constructor
  · intro known
    unfold ofName? at known
    split at known <;> cases known <;> rfl
  · rintro rfl
    exact ofName?_name kind

/-- The kind of field that a node is made into: a rule is entered as a text. -/
def made : FieldKind → FieldKind
  | rule => text
  | kind => kind

end FieldKind

/-- The same node with the name of a kind as its type. -/
def Node.retyped (node : Node) (kind : FieldKind) : Node :=
  { node with attributes := node.attributes.set "type" kind.name }

namespace Node

theorem get?_retyped_type (node : Node) (kind : FieldKind) :
    (node.retyped kind).get? "type" = some kind.name := OrderedMap.get?_set_self _ _ _

theorem get?_retyped_of_ne (node : Node) (kind : FieldKind) {key : String} (other : key ≠ "type") :
    (node.retyped kind).get? key = node.get? key := OrderedMap.get?_set_of_ne _ other _

end Node

/-- A text poses one question at most, as its only choice, which is marked with the value that is
offered at first. -/
structure TextField.PosesOnce (field : TextField) : Prop where
  single : field.choices.length ≤ 1
  marked : ∀ choice ∈ field.choices, choice.marker = field.preset
  unset : field.choices = [] → field.preset = none

/-- A part of a password: a text for the same variable that is asked with no more than its
question. -/
structure PasswordField.HasPart (field : PasswordField) (input : TextField) : Prop where
  kind : input.kind = .text
  posed : input.PosesOnce
  single : input.choices.length = 1
  unprocessed : input.processor = none
  unvalidated : input.validators = []
  target : input.target = field.target

namespace Field

/-- Nothing is selected, or else one of the choices. -/
def SelectsWithin (field : Field) : Prop :=
  field.selectedIndex = -1 ∨ ∃ i : Nat, field.selectedIndex = i ∧ i < field.choices.length

/-- A field that can be asked as it is, by what it is made of. -/
inductive WellFormed : Field → Prop where
  | filler {d : Decoration} (kind : d.kind = .space ∨ d.kind = .divider)
      (untargeted : d.target = none) : WellFormed (.filler d)
  | decoration {d : Decoration} (kind : d.kind = .staticText ∨ d.kind = .title) :
      WellFormed (.decoration d)
  | text {f : TextField} (kind : f.kind = .text ∨ f.kind = .file ∨ f.kind = .dir)
      (posed : f.PosesOnce) : WellFormed (.text f)
  | choice {f : ChoiceField} (kind : f.kind = .combo ∨ f.kind = .radio)
      (within : SelectsWithin (.choice f)) : WellFormed (.choice f)
  | check {f : CheckField} (paired : f.choices.length = 0 ∨ f.choices.length = 2)
      (selects : (check f).selectedIndex = 0 ∨ (check f).selectedIndex = 1)
      (unticked : f.choices.length = 0 → (check f).selectedIndex = 0) : WellFormed (.check f)
  | password {f : PasswordField} (entered : f.inputs ≠ [])
      (parts : ∀ input ∈ f.inputs, f.HasPart input) : WellFormed (.password f)

theorem selectsWithin_choice_iff {field : ChoiceField} :
    SelectsWithin (.choice field) ↔ ∀ i, field.selected = some i → i < field.choices.length := by
  have same : (Field.choice field).choices = field.choices := rfl
  rw [SelectsWithin, selectedIndex_choice_eq_none_iff, same]
  simp only [selectedIndex_choice_eq_iff]
  cases field.selected with
  | none => simp
  | some i => simp

/-- A box has both its values or none, and is not ticked without them. -/
theorem wellFormed_check_iff {field : CheckField} :
    WellFormed (.check field) ↔ (field.box = none → field.isTicked = false) := by
  have index : (check field).selectedIndex = 0 ↔ field.isTicked = false := by
    rw [selectedIndex]
    cases field.isTicked <;> simp
  constructor
  · intro formed missing
    cases formed with
    | check _ _ unticked =>
      refine index.1 (unticked ?_)
      rw [CheckField.choices, missing]
      rfl
  · intro unticked
    refine .check ?_ ?_ fun empty => index.2 (unticked ?_)
    · rw [CheckField.choices]
      cases field.box with
      | none => exact .inl rfl
      | some box => exact .inr rfl
    · rw [selectedIndex]
      split
      · exact .inr rfl
      · exact .inl rfl
    · cases defined : field.box with
      | none => rfl
      | some box =>
        rw [CheckField.choices, defined] at empty
        cases empty

end Field

/-- A question holds the choice together with the value that is offered, so that no text poses
otherwise. -/
theorem TextField.posesOnce (field : TextField) : field.PosesOnce := by
  obtain ⟨_, _, _, question, _, _, _⟩ := field
  cases question with
  | none => exact ⟨Nat.zero_le 1, by simp [choices], fun _ => rfl⟩
  | some question => exact ⟨Nat.le_refl 1, by simp [choices, preset], by simp [choices]⟩

namespace Compiler

variable {compiler : Compiler} {node : Node}

theorem value_compileText_retyped (kind : FieldKind) :
    (compileText .text (node.retyped kind)).value = (compileText .text node).value := by
  have target : (node.retyped kind).get? "variable" = node.get? "variable" :=
    node.get?_retyped_of_ne kind (by decide)
  have condition : (node.retyped kind).get? "conditionid" = node.get? "conditionid" :=
    node.get?_retyped_of_ne kind (by decide)
  have validators : (Binding.ofField (node.retyped kind)).value = (Binding.ofField node).value := by
    rw [Binding.ofField, Binding.ofField, Binding.value_ofNodes, Binding.value_ofNodes]
    rfl
  rw [value_compileText, value_compileText, target, condition, validators]
  rfl

/-- A rule is what a text would be but for its question, whatever its layout comes to. -/
theorem exists_question_of_compileRule {rule : TextField}
    (made : (compiler.compileRule node).value = .ok rule) :
    ∃ question, rule = { (compileText .text node).value with question } := by
  unfold compileRule at made
  rw [Noted.value_bind] at made
  split at made
  · cases made
    exact ⟨_, rfl⟩
  · split at made
    · -- An invalid layout takes the question away, a valid one replaces it.
      split at made <;> cases made <;> exact ⟨_, rfl⟩
    · cases made
      exact ⟨_, rfl⟩

theorem hasPart_passwordInput (field : PasswordField) (input : Node) :
    field.HasPart (passwordInput field.target input) where
  kind := rfl
  posed := TextField.posesOnce _
  single := rfl
  unprocessed := rfl
  unvalidated := rfl
  target := rfl

theorem kind_compileText (kind : FieldKind) (node : Node) :
    (compileText kind node).value.kind = kind := by rw [value_compileText]

theorem kind_compileChoice (compiler : Compiler) (kind : FieldKind) (node : Node) :
    (compiler.compileChoice kind node).value.kind = kind := by rw [value_compileChoice]

theorem wellFormed_compileText {kind : FieldKind}
    (entered : kind = .text ∨ kind = .file ∨ kind = .dir) (node : Node) :
    Field.WellFormed (.text (compileText kind node).value) :=
  .text (by rwa [kind_compileText]) (TextField.posesOnce _)

theorem wellFormed_compileRule {rule : TextField}
    (made : (compiler.compileRule node).value = .ok rule) :
    Field.WellFormed (.text rule) ∧ rule.kind = .text := by
  obtain ⟨question, rfl⟩ := exists_question_of_compileRule made
  have kind := kind_compileText .text node
  exact ⟨.text (.inl kind) (TextField.posesOnce _), kind⟩

theorem wellFormed_compileChoice {kind : FieldKind} (chosen : kind = .combo ∨ kind = .radio)
    (compiler : Compiler) (node : Node) :
    Field.WellFormed (.choice (compiler.compileChoice kind node).value) :=
  .choice (by rwa [kind_compileChoice])
    (Field.selectsWithin_choice_iff.2 fun _ => lt_length_of_selected)

/-- A box without a definition has no preset that could tick it. -/
theorem wellFormed_compileCheck (compiler : Compiler) (node : Node) :
    Field.WellFormed (.check (compiler.compileCheck node).value) := by
  rw [Field.wellFormed_check_iff, value_compileCheck]
  intro missing
  have undefined : node.firstChild? "spec" = none := by simpa using missing
  dsimp only
  rw [undefined]
  rfl

theorem wellFormed_compilePassword {field : PasswordField}
    (made : (compilePassword node).value = .ok field) : Field.WellFormed (.password field) := by
  obtain ⟨nodes, given, inputs⟩ := inputs_of_compilePassword made
  refine .password (by simpa [inputs] using given) fun input present => ?_
  rw [inputs, List.mem_map] at present
  obtain ⟨node, _, rfl⟩ := present
  exact hasPart_passwordInput field node

/-- The cases are those of the kinds; a rule and a password may also make no field. -/
theorem wellFormed_of_compileKind {kind : FieldKind} {field : Field}
    (made : (compiler.compileKind kind node).value = .ok field) :
    field.WellFormed ∧ field.kind = kind.made := by
  cases kind with
  | staticText | title =>
    cases made
    exact ⟨.decoration (by simp), rfl⟩
  | space | divider =>
    cases made
    exact ⟨.filler (by simp) rfl, rfl⟩
  | text | file | dir =>
    cases made
    exact ⟨wellFormed_compileText (by simp) node, kind_compileText _ node⟩
  | rule =>
    rw [compileKind, Noted.value_bind] at made
    split at made
    · next rule compiled =>
      cases made
      exact wellFormed_compileRule compiled
    · cases made
  | combo | radio =>
    cases made
    exact ⟨wellFormed_compileChoice (by simp) compiler node, compiler.kind_compileChoice _ node⟩
  | check =>
    cases made
    exact ⟨wellFormed_compileCheck compiler node, rfl⟩
  | password =>
    rw [compileKind, Noted.value_bind] at made
    split at made
    · next password compiled =>
      cases made
      exact ⟨wellFormed_compilePassword compiled, rfl⟩
    · cases made

/-- A node that makes a field has the name of a kind as its type. -/
theorem kind_of_compile {field : Field} (made : (compiler.compile node).value = .ok field) :
    ∃ kind : FieldKind, node.get? "type" = some kind.name ∧
      (compiler.compileKind kind node).value = .ok field := by
  cases known : (node.get? "type").bind FieldKind.ofName? with
  | none =>
    rw [compile_of_unknown known] at made
    cases made
  | some kind =>
    rw [compile_of_kind known] at made
    obtain ⟨name, typed, named⟩ := Option.bind_eq_some_iff.1 known
    rw [FieldKind.ofName?_eq_some_iff] at named
    exact ⟨kind, by rw [typed, named], made⟩

/-- A rule that makes a field makes the one that the node would make as a text, but for the
question. -/
theorem text_of_rule {field : Field}
    (made : (compiler.compileKind .rule node).value = .ok field) :
    ∃ rule text, field = .text rule ∧
      (compiler.compile (node.retyped .text)).value = .ok (.text text) ∧
      rule = { text with question := rule.question } := by
  have known : ((node.retyped .text).get? "type").bind FieldKind.ofName? = some .text := by
    rw [Node.get?_retyped_type]
    rfl
  have plain : (compiler.compile (node.retyped .text)).value =
      .ok (.text (compileText .text node).value) := by
    rw [compile_of_kind known, ← value_compileText_retyped .text]
    rfl
  rw [compileKind, Noted.value_bind] at made
  split at made
  · next rule compiled =>
    cases made
    obtain ⟨question, same⟩ := exists_question_of_compileRule compiled
    exact ⟨rule, _, rfl, plain, by rw [same]⟩
  · cases made

end Compiler

end InputPanel
