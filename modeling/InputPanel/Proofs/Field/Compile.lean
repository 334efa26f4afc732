import InputPanel.Field.Compile
import InputPanel.Proofs.Layout.Slots

/-!
# What compiling a field comes to

Compiling a node fails in a way that nothing makes up for in one case only: a
rule whose value takes the configured separator, and this is no text. What a
choice field selects at first is one of the choices that it has.
-/

namespace InputPanel

namespace Binding

/-- Validators without a class are left out. -/
theorem value_ofNodes (field : Node) (nodes : List Node) :
    (ofNodes field nodes).value = nodes.filterMap ofNode? := by
  induction nodes with
  | nil => rfl
  | cons node rest ih =>
    rw [ofNodes]
    split
    · next binding given =>
      rw [List.filterMap_cons_some given, ← ih]
      rfl
    · next missing =>
      rw [List.filterMap_cons_none missing, ← ih]
      rfl

end Binding

/-- That nothing is selected is told by a number that is no index. -/
theorem Field.getD_index_eq_iff {selected : Option Nat} {i : Nat} :
    (selected.map Int.ofNat).getD (-1) = i ↔ selected = some i := by
  cases selected with
  | none => simp
  | some j =>
    rw [Option.map_some, Option.getD_some, Option.some_inj]
    exact Int.ofNat_inj

namespace Compiler

variable {compiler : Compiler} {failure : Failure}

theorem compile_of_kind {node : Node} {kind : FieldKind}
    (known : (node.get? "type").bind FieldKind.ofName? = some kind) :
    compiler.compile node = compiler.compileKind kind node := by
  simp only [compile, known]

theorem compile_of_unknown {node : Node}
    (unknown : (node.get? "type").bind FieldKind.ofName? = none) :
    compiler.compile node = pure (.error (.misconfigured (.unknownKind (node.get? "type")))) := by
  simp only [compile, unknown]

theorem compileKind_choice {kind : FieldKind} (chosen : kind = .combo ∨ kind = .radio)
    {node : Node} : (compiler.compileKind kind node).value =
      .ok (.choice (compiler.compileChoice kind node).value) := by
  rcases chosen with rfl | rfl
  · rfl
  · rfl

theorem compileKind_check {node : Node} : (compiler.compileKind .check node).value =
    .ok (.check (compiler.compileCheck node).value) := rfl

/-- A rule whose literals stand for the configured separator, in a value that can be made. -/
structure TakesSeparator (spec : Node) (layout set : String) : Prop where
  unnamed : spec.get? "specialSeparator" = none
  special : spec.get? "resultFormat" = some "specialSeparator"
  literal : ∃ token ∈ Text.words layout.toList, Layout.isPlaceholder token = false
  slots : ∃ slots, Layout.parseSlots set.toList (Text.words layout.toList).length = .ok slots

theorem layoutValue_eq_error_iff {spec : Node} {layout set : String} :
    compiler.layoutValue spec layout set = .error failure ↔
      compiler.separator = .error failure ∧ TakesSeparator spec layout set := by
  unfold layoutValue
  split
  · next named =>
    refine iff_of_false (by rintro ⟨⟩) fun takes => ?_
    rw [takes.2.unnamed] at named
    cases named
  · next text =>
    rw [text]
    exact iff_of_false (by rintro ⟨⟩) fun takes => by cases takes.1
  · next other unnamed failed =>
    -- The value is made with no separator first: a set without sense is at fault before it.
    rw [failed]
    constructor
    · intro fails
      dsimp only at fails
      split at fails
      · next value made needed =>
        cases fails
        obtain ⟨special, token, present, literal⟩ :
            spec.get? "resultFormat" = some "specialSeparator" ∧
              ∃ token ∈ Text.words layout.toList, Layout.isPlaceholder token = false := by
          simpa using needed
        exact ⟨rfl, unnamed, special, ⟨token, present, literal⟩,
          Layout.reconstruct_isOk_iff.1 ⟨value, made⟩⟩
      · cases fails
    · rintro ⟨same, takes⟩
      cases same
      obtain ⟨value, made⟩ := Layout.reconstruct_isOk_iff.2 takes.slots
      have needed : (spec.get? "resultFormat" == some "specialSeparator" &&
          (Text.words layout.toList).any fun token => !Layout.isPlaceholder token) = true := by
        simpa using ⟨takes.special, takes.literal⟩
      dsimp only
      rw [made, needed]

/-- A node with a definition whose value takes the configured separator. -/
def DefinesWithSeparator (node : Node) : Prop :=
  ∃ spec layout set, node.firstChild? "spec" = some spec ∧ spec.get? "layout" = some layout ∧
    spec.get? "set" = some set ∧ TakesSeparator spec layout set

theorem definesWithSeparator_iff {node spec : Node} {layout set : String}
    (defined : node.firstChild? "spec" = some spec) (laid : spec.get? "layout" = some layout)
    (assigned : spec.get? "set" = some set) :
    DefinesWithSeparator node ↔ TakesSeparator spec layout set := by
  simp [DefinesWithSeparator, defined, laid, assigned]

theorem compileRule_eq_error_iff {node : Node} :
    (compiler.compileRule node).value = .error failure ↔
      compiler.separator = .error failure ∧ DefinesWithSeparator node := by
  unfold compileRule
  rw [Noted.value_bind]
  split
  · next undefined => exact iff_of_false (by rintro ⟨⟩) (by simp [DefinesWithSeparator, undefined])
  · next spec defined =>
    split
    · next set layout assigned laid =>
      rw [definesWithSeparator_iff defined laid assigned, ← layoutValue_eq_error_iff]
      split
      · next failed => simp [failed]
      · next made => simp [made]
      · next invalid => simp [invalid]
    · next incomplete =>
      refine iff_of_false (by rintro ⟨⟩) ?_
      rintro ⟨_, other, layout, set, same, laid, assigned, _⟩
      obtain rfl : spec = other := Option.some.inj (defined.symm.trans same)
      exact incomplete set layout assigned laid

/-- A field that is a rule whose value takes the configured separator. -/
def NeedsSeparator (node : Node) : Prop :=
  (node.get? "type").bind FieldKind.ofName? = some .rule ∧ DefinesWithSeparator node

theorem compile_eq_crashed_iff {node : Node} :
    (compiler.compile node).value = .error (.crashed failure) ↔
      compiler.separator = .error failure ∧ NeedsSeparator node := by
  unfold compile NeedsSeparator
  dsimp only
  split
  · next kind known =>
    rw [known]
    cases kind with
    | rule =>
      rw [compileKind, Noted.value_bind]
      have same : compiler.separator = .error failure ∧ some FieldKind.rule = some .rule ∧
          DefinesWithSeparator node ↔
            (compiler.compileRule node).value = .error failure := by
        rw [compileRule_eq_error_iff]
        simp
      rw [same]
      split
      · next made => simp [made]
      · next failed => simp [failed]
    | password =>
      refine iff_of_false ?_ (by simp)
      rw [compileKind, Noted.value_bind]
      split <;> rintro ⟨⟩
    | _ => exact iff_of_false (by rintro ⟨⟩) (by simp)
  · next unknown =>
    rw [unknown]
    exact iff_of_false (by rintro ⟨⟩) (by simp)

section Values

variable (compiler) (node : Node)

theorem value_compileText (kind : FieldKind) :
    (compileText kind node).value =
      { kind
        target := node.get? "variable"
        description := descriptionOf node
        question := (node.firstChild? "spec").map fun s => ⟨s.get? "txt", s.get? "set"⟩
        validators := (Binding.ofField node).value
        condition := node.get? "conditionid"
        processor := processorOf (node.firstChild? "spec") } := by
  unfold compileText
  dsimp only
  split <;> rfl

theorem value_compileChoice (kind : FieldKind) :
    (compiler.compileChoice kind node).value =
      let elements := ((node.firstChild? "spec").map fun s => s.childrenNamed "choice").getD []
      let marked := (compiler.choicesOfAll elements).value
      { kind
        target := node.get? "variable"
        description := descriptionOf node
        choices := marked.map Prod.fst
        selected := initialSelection (marked.map Prod.snd)
        condition := node.get? "conditionid" } := by
  unfold compileChoice
  dsimp only
  split <;> rfl

theorem value_compileCheck :
    (compiler.compileCheck node).value =
      let preset := (node.firstChild? "spec").bind fun s => s.get? "set"
      { target := node.get? "variable"
        description := descriptionOf node
        box := (node.firstChild? "spec").map fun s => ⟨s.get? "txt", s.get? "false", s.get? "true"⟩
        preset
        isTicked := (⟨none, none, preset⟩ : Choice).isSelected compiler.store
        condition := node.get? "conditionid" } := by
  unfold compileCheck
  dsimp only
  split <;> rfl

/-- A password without an input makes no field. -/
theorem value_compilePassword :
    (compilePassword node).value =
      let target := node.get? "variable"
      let inputs := ((node.firstChild? "spec").map fun s =>
        (s.childrenNamed "pwd").map (passwordInput target)).getD []
      if inputs.isEmpty then .error .noInputs
      else .ok {
        target
        description := descriptionOf node
        inputs
        validators := (Binding.ofField node).value
        condition := node.get? "conditionid"
        processor := processorOf (node.firstChild? "spec") } := by
  unfold compilePassword
  cases node.firstChild? "spec" with
  | none => rfl
  | some spec =>
    dsimp only [Option.map_some, Option.getD_some]
    rw [List.isEmpty_map]
    split <;> rfl

end Values

theorem inputs_of_compilePassword {node : Node} {field : PasswordField}
    (made : (compilePassword node).value = .ok field) :
    ∃ nodes, nodes ≠ [] ∧ field.inputs = nodes.map (passwordInput field.target) := by
  unfold compilePassword at made
  dsimp only at made
  split at made
  · cases made
  · next given =>
    cases made
    refine ⟨_, ?_, rfl⟩
    intro none
    exact given (by rw [none]; rfl)

/-- A compiled password has inputs, and all of them enter its own variable. -/
theorem inputs_of_compile {node : Node} {field : PasswordField}
    (made : (compiler.compile node).value = .ok (.password field)) :
    ∃ nodes, nodes ≠ [] ∧ field.inputs = nodes.map (passwordInput field.target) := by
  unfold compile at made
  dsimp only at made
  split at made
  · next kind known =>
    cases kind with
    | password =>
      rw [compileKind, Noted.value_bind] at made
      split at made
      · next compiled entered =>
        cases made
        exact inputs_of_compilePassword entered
      · cases made
    | rule =>
      rw [compileKind, Noted.value_bind] at made
      split at made <;> cases made
    | _ => cases made
  · cases made

theorem target_of_mem_inputs {field : PasswordField} {nodes : List Node}
    (inputs : field.inputs = nodes.map (passwordInput field.target)) :
    ∀ input ∈ field.inputs, input.target = field.target := by
  intro input present
  rw [inputs, List.mem_map] at present
  obtain ⟨_, _, rfl⟩ := present
  rfl

theorem lt_length_of_lastSet {flags : List Bool} {i : Nat} (h : lastSet flags = some i) :
    i < flags.length := by
  obtain ⟨k, found, rfl⟩ := Option.map_eq_some_iff.1 h
  have bound := (List.findIdx?_eq_some_iff_findIdx_eq.1 found).1
  rw [List.length_reverse] at bound
  omega

theorem lt_length_of_initialSelection {flags : List Bool} {i : Nat}
    (h : initialSelection flags = some i) : i < flags.length := by
  unfold initialSelection at h
  split at h
  · next single =>
    cases h
    omega
  · exact lt_length_of_lastSet h

/-- What is selected at first is one of the choices. -/
theorem lt_length_of_selected {kind : FieldKind} {node : Node} {i : Nat}
    (h : (compiler.compileChoice kind node).value.selected = some i) :
    i < (compiler.compileChoice kind node).value.choices.length := by
  rw [value_compileChoice] at h ⊢
  have bound := lt_length_of_initialSelection h
  rwa [List.length_map] at bound ⊢

end Compiler

end InputPanel
