import InputPanel.Proofs.Node.DataForm
import InputPanel.Proofs.Session.Collecting

/-!
# Panels written as data

Gates, validators and compilers look at a node by its attributes, its text and its
children of one name, in order, never at how children of different names stand to
one another. So alike panels have the same fields, and a panel that is written as a
mapping and read back has the fields that it had. Notices are left out of this: they
may quote a tag, whose attributes stand in the order of the mapping.
-/

namespace InputPanel

variable {a b : Node}

namespace Gates

theorem packNames_of_alike (alike : Node.Alike a b) : packNames a = packNames b :=
  alike.map_childrenNamed "createForPack" fun same => same.getD "name" ""

theorem families_of_alike (alike : Node.Alike a b) : families a = families b :=
  alike.map_childrenNamed "os" fun same => same.get? "family"

theorem admitsPanel_of_alike (gates : Gates) (alike : Node.Alike a b) :
    gates.admitsPanel a = gates.admitsPanel b := by
  rw [admitsPanel, admitsPanel, packNames_of_alike alike, families_of_alike alike]

theorem admitsField_of_alike (gates : Gates) (alike : Node.Alike a b) :
    gates.admitsField a = gates.admitsField b := by
  rw [admitsField, admitsField, packNames_of_alike alike, families_of_alike alike,
    alike.get? "conditionid"]

end Gates

namespace Binding

theorem parametersOf_of_alike (alike : Node.Alike a b) : parametersOf a = parametersOf b := by
  refine congrArg OrderedMap.ofList (alike.filterMap_childrenNamed "param" fun same => ?_)
  rw [same.get? "name", same.getD "value"]

theorem ofNode?_of_alike (alike : Node.Alike a b) : ofNode? a = ofNode? b := by
  rw [ofNode?, ofNode?, alike.get? "class", alike.get? "txt", parametersOf_of_alike alike]

theorem value_ofField_of_alike (alike : Node.Alike a b) :
    (ofField a).value = (ofField b).value := by
  rw [ofField, ofField, value_ofNodes, value_ofNodes]
  exact alike.filterMap_childrenNamed "validator" ofNode?_of_alike

end Binding

namespace Compiler

variable {compiler : Compiler}

theorem textOf_of_alike (alike : Node.Alike a b) : textOf a = textOf b := by
  rw [textOf, textOf, alike.get? "txt", alike.text]

theorem descriptionOf_of_alike (alike : Node.Alike a b) : descriptionOf a = descriptionOf b :=
  alike.bind_firstChild? "description" textOf_of_alike

theorem processorOf_of_alike (alike : Node.Alike a b) :
    processorOf (a.firstChild? "spec") = processorOf (b.firstChild? "spec") := by
  rw [processorOf, processorOf, Option.bind_assoc, Option.bind_assoc]
  refine alike.bind_firstChild? "spec" fun spec => ?_
  exact spec.bind_firstChild? "processor" fun processor => processor.get? "class"

theorem value_compileText_of_alike (kind : FieldKind) (alike : Node.Alike a b) :
    (compileText kind a).value = (compileText kind b).value := by
  have question : ((a.firstChild? "spec").map fun s => (⟨s.get? "txt", s.get? "set"⟩ : Question)) =
      (b.firstChild? "spec").map fun s => ⟨s.get? "txt", s.get? "set"⟩ :=
    alike.map_firstChild? "spec" fun spec => by rw [spec.get? "txt", spec.get? "set"]
  rw [value_compileText, value_compileText, question, alike.get? "variable",
    alike.get? "conditionid", descriptionOf_of_alike alike, processorOf_of_alike alike,
    Binding.value_ofField_of_alike alike]

theorem layoutValue_of_alike (alike : Node.Alike a b) (layout set : String) :
    compiler.layoutValue a layout set = compiler.layoutValue b layout set := by
  rw [layoutValue, layoutValue, alike.get? "resultFormat", alike.get? "specialSeparator"]

theorem value_compileRule_of_alike (alike : Node.Alike a b) :
    (compiler.compileRule a).value = (compiler.compileRule b).value := by
  rw [compileRule, compileRule, Noted.value_bind, Noted.value_bind,
    value_compileText_of_alike .text alike]
  obtain ⟨left, right⟩ | ⟨s, t, left, right, spec⟩ := alike.firstChild? "spec"
  · rw [left, right]
  · rw [left, right]
    dsimp only
    rw [spec.get? "set", spec.get? "layout", spec.get? "txt"]
    split
    · next set layout _ _ =>
      rw [layoutValue_of_alike spec]
      split <;> rfl
    · rfl

theorem choicesOf_of_alike (alike : Node.Alike a b) :
    compiler.choicesOf a = compiler.choicesOf b := by
  rw [choicesOf, choicesOf, alike.get? "txt", alike.get? "value", alike.get? "set",
    alike.getD "processor"]

theorem choicesOfAll_of_alike {nodes others : List Node}
    (alike : List.Forall₂ Node.Alike nodes others) :
    compiler.choicesOfAll nodes = compiler.choicesOfAll others := by
  induction alike with
  | nil => rfl
  | cons first _ ih => rw [choicesOfAll, choicesOfAll, choicesOf_of_alike first, ih]

theorem value_compileChoice_of_alike (kind : FieldKind) (alike : Node.Alike a b) :
    (compiler.compileChoice kind a).value = (compiler.compileChoice kind b).value := by
  have elements : compiler.choicesOfAll
      (((a.firstChild? "spec").map fun s => s.childrenNamed "choice").getD []) =
      compiler.choicesOfAll
        (((b.firstChild? "spec").map fun s => s.childrenNamed "choice").getD []) := by
    obtain ⟨left, right⟩ | ⟨s, t, left, right, spec⟩ := alike.firstChild? "spec"
    · rw [left, right]
    · rw [left, right]
      exact choicesOfAll_of_alike (spec.childrenNamed "choice")
  rw [value_compileChoice, value_compileChoice]
  dsimp only
  rw [elements, alike.get? "variable", alike.get? "conditionid", descriptionOf_of_alike alike]

theorem value_compileCheck_of_alike (alike : Node.Alike a b) :
    (compiler.compileCheck a).value = (compiler.compileCheck b).value := by
  have box : ((a.firstChild? "spec").map fun s =>
        (⟨s.get? "txt", s.get? "false", s.get? "true"⟩ : Box)) =
      (b.firstChild? "spec").map fun s => ⟨s.get? "txt", s.get? "false", s.get? "true"⟩ :=
    alike.map_firstChild? "spec" fun spec => by
      rw [spec.get? "txt", spec.get? "false", spec.get? "true"]
  have preset : ((a.firstChild? "spec").bind fun s => s.get? "set") =
      (b.firstChild? "spec").bind fun s => s.get? "set" :=
    alike.bind_firstChild? "spec" fun spec => spec.get? "set"
  rw [value_compileCheck, value_compileCheck, box, preset, alike.get? "variable",
    alike.get? "conditionid", descriptionOf_of_alike alike]

theorem passwordInput_of_alike (target : Option String) (alike : Node.Alike a b) :
    passwordInput target a = passwordInput target b := by
  rw [passwordInput, passwordInput, alike.get? "txt", alike.get? "set"]

theorem value_compilePassword_of_alike (alike : Node.Alike a b) :
    (compilePassword a).value = (compilePassword b).value := by
  have inputs (target : Option String) : ((a.firstChild? "spec").map fun s =>
        (s.childrenNamed "pwd").map (passwordInput target)) =
      (b.firstChild? "spec").map fun s => (s.childrenNamed "pwd").map (passwordInput target) :=
    alike.map_firstChild? "spec" fun spec =>
      spec.map_childrenNamed "pwd" (passwordInput_of_alike target)
  rw [value_compilePassword, value_compilePassword]
  dsimp only
  rw [alike.get? "variable", inputs, alike.get? "conditionid", descriptionOf_of_alike alike,
    processorOf_of_alike alike, Binding.value_ofField_of_alike alike]

theorem value_compileKind_of_alike (kind : FieldKind) (alike : Node.Alike a b) :
    (compiler.compileKind kind a).value = (compiler.compileKind kind b).value := by
  cases kind with
  | staticText | title =>
    rw [compileKind, compileKind, alike.get? "variable", textOf_of_alike alike]
  | space | divider => rfl
  | text | file | dir =>
    simp only [compileKind, Noted.value_bind, Noted.value_pure, value_compileText_of_alike _ alike]
  | rule =>
    simp only [compileKind, Noted.value_bind, value_compileRule_of_alike alike]
  | combo | radio =>
    simp only [compileKind, Noted.value_bind, Noted.value_pure,
      value_compileChoice_of_alike _ alike]
  | check =>
    simp only [compileKind, Noted.value_bind, Noted.value_pure, value_compileCheck_of_alike alike]
  | password =>
    simp only [compileKind, Noted.value_bind, value_compilePassword_of_alike alike]

/-- Alike nodes make the same field, or none for the same reason. -/
theorem value_compile_of_alike (alike : Node.Alike a b) :
    (compiler.compile a).value = (compiler.compile b).value := by
  rw [compile, compile, alike.get? "type"]
  split
  · next kind _ => exact value_compileKind_of_alike kind alike
  · rfl

end Compiler

namespace Session

theorem value_collectNodes_of_alike (gates : Gates) (compiler : Compiler)
    {nodes others : List Node} (alike : List.Forall₂ Node.Alike nodes others) :
    (collectNodes gates compiler nodes).value = (collectNodes gates compiler others).value := by
  induction alike with
  | nil => rfl
  | cons first _ ih =>
    simp only [collectNodes, Noted.value_bind, gates.admitsField_of_alike first]
    split
    · rw [Noted.value_bind, Noted.value_bind, Compiler.value_compile_of_alike first]
      split
      · rw [Noted.value_bind, Noted.value_bind, ih]
      · exact ih
      · rfl
    · exact ih

/-- Sessions whose panels are alike collect the same fields, or leave the panel out alike. -/
theorem value_collect_of_alike {session : Session} {panel : Node}
    (alike : Node.Alike session.panel panel) (store : Store) :
    ({ session with panel }.collect store).value = (session.collect store).value := by
  have gates : ({ session with panel } : Session).gates store = session.gates store := rfl
  have compiler : ({ session with panel } : Session).compiler store = session.compiler store := rfl
  rw [value_collect, value_collect, gates, compiler,
    (session.gates store).admitsPanel_of_alike alike,
    value_collectNodes_of_alike _ _ (alike.childrenNamed "field")]

/-- A panel without texts in which no attribute is named like a child beside it can be written as a
mapping, and whatever mapping it is written as, what is read back has the same fields in the same
order, or is left out, for every store and all that the session compiles with. -/
theorem collect_of_data {session : Session} (fit : session.panel.Representable) :
    session.panel.FormedBy session.panel.toData ∧
      ∀ data, session.panel.FormedBy data → ∀ name store,
        ({ session with panel := Node.ofData name data }.collect store).value =
          (session.collect store).value := by
  refine ⟨Node.formedBy_toData fit, ?_⟩
  intro data formed name store
  exact value_collect_of_alike (Node.alike_ofData formed name) store

/-- A panel whose gate stands between its fields. -/
def parted : Session where
  panel := ⟨"panel", .ofList [("id", "parted")], [
    ⟨"field", .ofList [("type", "title"), ("txt", "Names")], [], none⟩,
    ⟨"os", .ofList [("family", "unix")], [], none⟩,
    ⟨"field", .ofList [("type", "text"), ("variable", "name")],
      [⟨"validator", .ofList [("class", "NotEmpty")], [], none⟩,
        ⟨"spec", .ofList [("txt", "Name")], [], none⟩,
        ⟨"validator", .ofList [("class", "Email")], [], none⟩], none⟩], none⟩
  registry := none
  factory := ⟨.empty, fun _ => none⟩
  settings := ⟨"x", true, [], "unix", .ok ""⟩

/-- In the mapping the fields stand together before the gate, and the validators of the text field
before its definition; the panel is compiled to the same two fields. -/
theorem parted_collected_of_data :
    parted.panel.Representable ∧
    let read := Node.ofData "panel" parted.panel.toData
    read.children.map Node.name = ["field", "field", "os"] ∧
      ({ parted with panel := read }.collect .empty).value = (parted.collect .empty).value ∧
      (parted.collect .empty).value = .ok (some [.decoration ⟨.title, none, some "Names"⟩,
        .text ⟨.text, some "name", none, some ⟨some "Name", none⟩,
          [⟨"NotEmpty", .empty, none⟩, ⟨"Email", .empty, none⟩], none, none⟩]) := by
  have fit : parted.panel.Representable := by
    refine .intro rfl (by decide) ?_
    intro child present
    simp only [parted, List.mem_cons, List.not_mem_nil, or_false] at present
    rcases present with rfl | rfl | rfl
    · exact Node.representable_of_leaf rfl rfl
    · exact Node.representable_of_leaf rfl rfl
    · refine .intro rfl (by decide) ?_
      intro part listed
      simp only [List.mem_cons, List.not_mem_nil, or_false] at listed
      rcases listed with rfl | rfl | rfl <;> exact Node.representable_of_leaf rfl rfl
  obtain ⟨formed, collected⟩ := collect_of_data fit
  exact ⟨fit, rfl, collected _ formed "panel" .empty, rfl⟩

end Session

end InputPanel
