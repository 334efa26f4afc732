import InputPanel.Field.Compile
import InputPanel.Proofs.Field.Compile

/-!
# One node compiled from different stores

Compiling reads the store only for markers: of the choices of a field, and of a
box. So a node that makes a field makes one from every store, of the same kind
and for the same variable; texts and passwords are the same field again, and
choices have the same values in the same order.
-/

namespace InputPanel

namespace Field

/-- Fields that differ at most in what is selected or ticked before they are asked, and in the
markers and texts of choices. -/
inductive Alike : Field → Field → Prop where
  | filler (decoration : Decoration) : Alike (.filler decoration) (.filler decoration)
  | decoration (decoration : Decoration) : Alike (.decoration decoration) (.decoration decoration)
  | text (field : TextField) : Alike (.text field) (.text field)
  | choice {field other : ChoiceField} (target : other.target = field.target)
      (values : other.choices.map Choice.value = field.choices.map Choice.value) :
      Alike (.choice field) (.choice other)
  | check {field other : CheckField} (target : other.target = field.target)
      (box : other.box = field.box) : Alike (.check field) (.check other)
  | password (field : PasswordField) : Alike (.password field) (.password field)

theorem Alike.refl (field : Field) : field.Alike field := by
  cases field with
  | filler d => exact .filler d
  | decoration d => exact .decoration d
  | text f => exact .text f
  | choice f => exact .choice rfl rfl
  | check f => exact .check rfl rfl
  | password f => exact .password f

end Field

namespace Compiler

variable {compiler : Compiler}

/-- The same compiler with another store to read. -/
def withStore (compiler : Compiler) (store : Store) : Compiler := { compiler with store }

theorem madeChoices_withStore (store : Store) (className : String) :
    (compiler.withStore store).madeChoices className = compiler.madeChoices className := rfl

/-- A marker tells whether a choice is selected; its value does not depend on that. -/
theorem values_choicesOf (store : Store) (element : Node) :
    ((compiler.withStore store).choicesOf element).value.map (fun made => made.1.value) =
      (compiler.choicesOf element).value.map fun made => made.1.value := by
  unfold choicesOf
  dsimp only
  split
  · simp only [Noted.value_pure, List.map_cons, List.map_nil]
  · rw [Noted.value_bind, Noted.value_bind, Noted.value_pure, Noted.value_pure, List.map_map,
      List.map_map, madeChoices_withStore]
    exact List.map_congr_left fun _ _ => rfl

theorem values_choicesOfAll (store : Store) (elements : List Node) :
    ((compiler.withStore store).choicesOfAll elements).value.map (fun made => made.1.value) =
      (compiler.choicesOfAll elements).value.map fun made => made.1.value := by
  induction elements with
  | nil => rfl
  | cons element rest ih =>
    rw [choicesOfAll, choicesOfAll]
    simp only [Noted.value_bind, Noted.value_pure, List.map_append, values_choicesOf, ih]

theorem values_compileChoice (store : Store) (kind : FieldKind) (node : Node) :
    ((compiler.withStore store).compileChoice kind node).value.choices.map Choice.value =
      (compiler.compileChoice kind node).value.choices.map Choice.value := by
  have same (elements : List Node) :
      ((compiler.withStore store).choicesOfAll elements).value.map (Choice.value ∘ Prod.fst) =
        (compiler.choicesOfAll elements).value.map (Choice.value ∘ Prod.fst) :=
    values_choicesOfAll store elements
  rw [value_compileChoice, value_compileChoice]
  dsimp only
  rw [List.map_map, List.map_map, same]

theorem target_compileChoice (kind : FieldKind) (node : Node) :
    (compiler.compileChoice kind node).value.target = node.get? "variable" := by
  rw [value_compileChoice]

theorem target_compileCheck (node : Node) :
    (compiler.compileCheck node).value.target = node.get? "variable" := by
  rw [value_compileCheck]

theorem box_compileCheck (node : Node) :
    (compiler.compileCheck node).value.box =
      (node.firstChild? "spec").map fun s => ⟨s.get? "txt", s.get? "false", s.get? "true"⟩ := by
  rw [value_compileCheck]

theorem alike_compileChoice (store : Store) (kind : FieldKind) (node : Node) :
    Field.Alike (.choice (compiler.compileChoice kind node).value)
      (.choice ((compiler.withStore store).compileChoice kind node).value) := by
  refine .choice ?_ (values_compileChoice store kind node)
  rw [target_compileChoice, target_compileChoice]

theorem alike_compileCheck (store : Store) (node : Node) :
    Field.Alike (.check (compiler.compileCheck node).value)
      (.check ((compiler.withStore store).compileCheck node).value) := by
  refine .check ?_ ?_
  · rw [target_compileCheck, target_compileCheck]
  · rw [box_compileCheck, box_compileCheck]

/-- A kind of field that is compiled without a look at the store. -/
theorem compileKind_withStore (store : Store) {kind : FieldKind} (node : Node)
    (blind : kind ≠ .combo ∧ kind ≠ .radio ∧ kind ≠ .check) :
    (compiler.withStore store).compileKind kind node = compiler.compileKind kind node := by
  obtain ⟨notCombo, notRadio, notCheck⟩ := blind
  cases kind with
  | combo => exact absurd rfl notCombo
  | radio => exact absurd rfl notRadio
  | check => exact absurd rfl notCheck
  | _ => rfl

/-- A node that makes a field makes one alike from any store. -/
theorem exists_alike_of_compile {node : Node} {field : Field}
    (made : (compiler.compile node).value = .ok field) (store : Store) :
    ∃ again, ((compiler.withStore store).compile node).value = .ok again ∧ field.Alike again := by
  unfold compile at made ⊢
  dsimp only at made ⊢
  split at made
  · next kind known =>
    by_cases blind : kind ≠ .combo ∧ kind ≠ .radio ∧ kind ≠ .check
    · exact ⟨field, by rw [compileKind_withStore store node blind, made], .refl field⟩
    · cases kind with
      | combo =>
        rw [compileKind_choice (.inl rfl)] at made ⊢
        cases made
        exact ⟨_, rfl, alike_compileChoice store .combo node⟩
      | radio =>
        rw [compileKind_choice (.inr rfl)] at made ⊢
        cases made
        exact ⟨_, rfl, alike_compileChoice store .radio node⟩
      | check =>
        rw [compileKind_check] at made ⊢
        cases made
        exact ⟨_, rfl, alike_compileCheck store node⟩
      | _ => exact absurd (by decide) blind
  · cases made

/-- What a node sets, or why it makes no field, does not depend on what is stored. -/
theorem target_compile_withStore (store : Store) (node : Node) :
    ((compiler.withStore store).compile node).value.map Field.target =
      (compiler.compile node).value.map Field.target := by
  unfold compile
  dsimp only
  split
  · next kind known =>
    by_cases blind : kind ≠ .combo ∧ kind ≠ .radio ∧ kind ≠ .check
    · rw [compileKind_withStore store node blind]
    · cases kind with
      | combo =>
        rw [compileKind_choice (.inl rfl), compileKind_choice (.inl rfl), Except.map, Except.map,
          Field.target, Field.target, target_compileChoice, target_compileChoice]
      | radio =>
        rw [compileKind_choice (.inr rfl), compileKind_choice (.inr rfl), Except.map, Except.map,
          Field.target, Field.target, target_compileChoice, target_compileChoice]
      | check =>
        rw [compileKind_check, compileKind_check, Except.map, Except.map, Field.target,
          Field.target, target_compileCheck, target_compileCheck]
      | _ => exact absurd (by decide) blind
  · rfl

end Compiler

end InputPanel
