import InputPanel.Proofs.Expansion
import InputPanel.Proofs.Field.Compile
import InputPanel.Proofs.Text.Words
import Mathlib.Data.List.Forall2

/-!
# The choices of a field

Each element of a definition gives one choice, or those that a plugin makes of
it, and the field has them all in the order of the elements. What is selected at
first is told by this list alone: a single choice is, and of several the last one
whose marker affirms. A choice that a plugin makes is marked if it is the one that
its element sets.
-/

namespace InputPanel

namespace Choice

/-- The marker reads `true`, in whatever case, once its references are expanded. -/
def MarkedIn (choice : Choice) (store : Store) : Prop :=
  ∃ marker, choice.marker = some marker ∧ Text.lower (store.expand marker) = "true"

theorem isSelected_iff {choice : Choice} {store : Store} :
    choice.isSelected store = true ↔ choice.MarkedIn store := by
  rw [isSelected, Option.any_eq_true, MarkedIn]
  simp only [affirms, beq_iff_eq]

end Choice

/-- The last of some choices that is marked. -/
def LastMarked (store : Store) (choices : List Choice) (i : Nat) : Prop :=
  (∃ choice, choices[i]? = some choice ∧ choice.MarkedIn store) ∧
    ∀ j choice, i < j → choices[j]? = some choice → ¬ choice.MarkedIn store

namespace Field

variable {field : ChoiceField} {i : Nat}

theorem selectedIndex_choice_eq_iff :
    (choice field).selectedIndex = i ↔ field.selected = some i := getD_index_eq_iff

theorem selectedIndex_choice_eq_none_iff :
    (choice field).selectedIndex = -1 ↔ field.selected = none := by
  rw [selectedIndex]
  cases field.selected with
  | none => simp
  | some j => simp

end Field

namespace Compiler

variable {compiler : Compiler}

/-- The elements that the choices of a field come from. -/
def choiceElements (node : Node) : List Node :=
  ((node.firstChild? "spec").map fun spec => spec.childrenNamed "choice").getD []

/-- The choice that a piece of a plugin's text stands for, where one piece is set. -/
def madeChoice (set piece : String) : Choice :=
  ⟨some piece, some piece, if piece = set then some "true" else none⟩

/-- The choices that an element gives: one for an element without a plugin, else one for each
stretch between colons that is not empty in what the plugin makes of nothing. A plugin that cannot
be created, or crashes, makes none. -/
inductive Offers (compiler : Compiler) (element : Node) : List Choice → Prop where
  | plain (unprocessed : element.getD "processor" "" = "") :
      Offers compiler element [⟨element.get? "txt", element.get? "value", element.get? "set"⟩]
  | made {className text : String} {plugin : Plugin}
      (processed : element.get? "processor" = some className) (named : className ≠ "")
      (created : compiler.factory.create className = .ok plugin)
      (ran : plugin.run none = .ok text) :
      Offers compiler element (((text.toList.splitOn ':').filter (· ≠ [])).map fun piece =>
        madeChoice (compiler.store.expand (element.getD "set" "")) (String.ofList piece))
  | uncreated {className : String} {trouble : PluginTrouble}
      (processed : element.get? "processor" = some className) (named : className ≠ "")
      (failed : compiler.factory.create className = .error trouble) : Offers compiler element []
  | crashed {className : String} {plugin : Plugin} {trouble : PluginTrouble}
      (processed : element.get? "processor" = some className) (named : className ≠ "")
      (created : compiler.factory.create className = .ok plugin)
      (failed : plugin.run none = .error trouble) : Offers compiler element []

section Selecting

variable {store : Store} {choices : List Choice}

theorem lastSet_cons (flag : Bool) (flags : List Bool) :
    lastSet (flag :: flags) =
      ((lastSet flags).map (· + 1)).or (if flag then some 0 else none) := by
  rw [lastSet, lastSet, List.reverse_cons, List.findIdx?_append]
  cases found : flags.reverse.findIdx? id with
  | none => cases flag <;> simp
  | some k =>
    have bound := (List.findIdx?_eq_some_iff_findIdx_eq.1 found).1
    rw [List.length_reverse] at bound
    simp only [Option.some_or, Option.map_some, List.length_cons, Option.some_inj]
    omega

theorem lastMarked_cons_succ {choice : Choice} {i : Nat} :
    LastMarked store (choice :: choices) (i + 1) ↔ LastMarked store choices i := by
  refine and_congr Iff.rfl ⟨fun last j other later there => ?_, fun last j other later there => ?_⟩
  · exact last (j + 1) other (Nat.succ_lt_succ later) there
  · cases j with
    | zero => exact absurd later (Nat.not_lt_zero _)
    | succ j => exact last j other (Nat.lt_of_succ_lt_succ later) there

theorem lastMarked_cons_zero {choice : Choice} :
    LastMarked store (choice :: choices) 0 ↔
      choice.MarkedIn store ∧ ∀ other ∈ choices, ¬ other.MarkedIn store := by
  constructor
  · rintro ⟨⟨_, ⟨⟩, marked⟩, last⟩
    refine ⟨marked, fun other present => ?_⟩
    obtain ⟨j, there⟩ := List.getElem?_of_mem present
    exact last (j + 1) other (Nat.succ_pos j) there
  · rintro ⟨marked, unmarked⟩
    refine ⟨⟨choice, rfl, marked⟩, fun j other later there => ?_⟩
    cases j with
    | zero => exact absurd later (Nat.lt_irrefl 0)
    | succ j => exact unmarked other (List.mem_of_getElem? there)

/-- The induction is on the choices; the first has a say only if no other is marked. -/
theorem lastSet_marks_eq_none_iff :
    lastSet (choices.map fun choice => choice.isSelected store) = none ↔
      ∀ choice ∈ choices, ¬ choice.MarkedIn store := by
  induction choices with
  | nil => simp [lastSet]
  | cons choice rest ih =>
    rw [List.map_cons, lastSet_cons, List.forall_mem_cons, ← ih, ← Choice.isSelected_iff]
    cases lastSet (rest.map fun choice => choice.isSelected store) with
    | none => cases choice.isSelected store <;> simp
    | some k => simp

theorem lastSet_marks_eq_some_iff {i : Nat} :
    lastSet (choices.map fun choice => choice.isSelected store) = some i ↔
      LastMarked store choices i := by
  induction choices generalizing i with
  | nil => simp [lastSet, LastMarked]
  | cons choice rest ih =>
    rw [List.map_cons, lastSet_cons]
    cases i with
    | zero =>
      rw [lastMarked_cons_zero, ← lastSet_marks_eq_none_iff, ← Choice.isSelected_iff]
      cases lastSet (rest.map fun choice => choice.isSelected store) with
      | none => cases choice.isSelected store <;> simp
      | some k => simp
    | succ i =>
      rw [lastMarked_cons_succ, ← ih]
      cases lastSet (rest.map fun choice => choice.isSelected store) with
      | none => cases choice.isSelected store <;> simp
      | some k => simp

end Selecting

section Offering

variable {element : Node}

theorem markedIn_madeChoice_iff {store : Store} {set piece : String} :
    (madeChoice set piece).MarkedIn store ↔ piece = set := by
  have plain : '$' ∉ "true".toList := by decide
  unfold Choice.MarkedIn madeChoice
  split
  · next same =>
    refine iff_of_true ⟨"true", rfl, ?_⟩ same
    rw [store.expand_of_plain plain]
    rfl
  · next different =>
    exact iff_of_false (by rintro ⟨_, ⟨⟩, _⟩) different

theorem value_choicesOf (compiler : Compiler) (element : Node) :
    (compiler.choicesOf element).value =
      if element.getD "processor" "" = "" then
        let plain : Choice := ⟨element.get? "txt", element.get? "value", element.get? "set"⟩
        [(plain, plain.isSelected compiler.store)]
      else
        let set := compiler.store.expand (element.getD "set" "")
        (compiler.madeChoices (element.getD "processor" "")).value.map fun piece =>
          (madeChoice set piece, piece == set) := by
  rw [choicesOf]
  simp only [String.isEmpty_iff]
  split
  · rfl
  · rw [Noted.value_bind, Noted.value_pure]
    refine List.map_congr_left fun piece _ => ?_
    simp only [madeChoice, beq_iff_eq]
    rfl

theorem value_madeChoices_of_ok {className text : String}
    (made : (do (← compiler.factory.create className).run none) = .ok text) :
    (compiler.madeChoices className).value =
      ((text.toList.splitOn ':').filter (· ≠ [])).map String.ofList := by
  have pieces : Text.piecesBy (· == ':') text.toList = text.toList.splitOn ':' :=
    Text.piecesBy_eq_splitOnP _ _
  rw [madeChoices, made, ← pieces]
  refine congrArg (List.map String.ofList) (List.filter_congr fun piece _ => ?_)
  cases piece <;> rfl

theorem value_madeChoices_of_error {className : String} {trouble : PluginTrouble}
    (failed : (do (← compiler.factory.create className).run none) = .error trouble) :
    (compiler.madeChoices className).value = [] := by
  rw [madeChoices, failed]
  cases trouble <;> rfl

theorem offers_choicesOf (compiler : Compiler) (element : Node) :
    compiler.Offers element ((compiler.choicesOf element).value.map Prod.fst) := by
  rw [value_choicesOf]
  split
  · next unprocessed => exact .plain unprocessed
  · next processed =>
    obtain ⟨className, given⟩ : ∃ className, element.get? "processor" = some className := by
      rw [← Option.isSome_iff_exists, Option.isSome_iff_ne_none]
      intro none
      exact processed (by rw [Node.getD, none]; rfl)
    have same : element.getD "processor" "" = className := by rw [Node.getD, given]; rfl
    rw [same] at processed ⊢
    dsimp only
    rw [List.map_map]
    cases created : compiler.factory.create className with
    | error trouble =>
      rw [value_madeChoices_of_error (by rw [created]; rfl)]
      exact .uncreated given processed created
    | ok plugin =>
      cases ran : plugin.run none with
      | error trouble =>
        rw [value_madeChoices_of_error (by rw [created]; exact ran)]
        exact .crashed given processed created ran
      | ok text =>
        rw [value_madeChoices_of_ok (by rw [created]; exact ran), List.map_map]
        exact .made given processed created ran

/-- What an element gives is marked as its markers say. -/
theorem flag_of_mem_choicesOf {element : Node} {entry : Choice × Bool}
    (present : entry ∈ (compiler.choicesOf element).value) :
    entry.2 = entry.1.isSelected compiler.store := by
  rw [value_choicesOf] at present
  split at present
  · rw [List.mem_singleton.1 present]
  · obtain ⟨piece, _, rfl⟩ := List.mem_map.1 present
    rw [Bool.eq_iff_iff, beq_iff_eq, Choice.isSelected_iff, markedIn_madeChoice_iff]

theorem value_choicesOfAll (compiler : Compiler) (elements : List Node) :
    (compiler.choicesOfAll elements).value =
      elements.flatMap fun element => (compiler.choicesOf element).value := by
  induction elements with
  | nil => rfl
  | cons element rest ih =>
    rw [choicesOfAll, List.flatMap_cons, ← ih]
    rfl

/-- All elements give their choices one after the other. -/
theorem exists_offers (compiler : Compiler) (elements : List Node) :
    ∃ groups, List.Forall₂ compiler.Offers elements groups ∧
      (compiler.choicesOfAll elements).value.map Prod.fst = groups.flatten := by
  refine ⟨elements.map fun element => (compiler.choicesOf element).value.map Prod.fst, ?_, ?_⟩
  · rw [List.forall₂_map_right_iff, List.forall₂_same]
    exact fun element _ => compiler.offers_choicesOf element
  · rw [value_choicesOfAll, List.map_flatMap, List.flatMap_def]

theorem flags_choicesOfAll (compiler : Compiler) (elements : List Node) :
    (compiler.choicesOfAll elements).value.map Prod.snd =
      ((compiler.choicesOfAll elements).value.map Prod.fst).map fun choice =>
        choice.isSelected compiler.store := by
  rw [List.map_map]
  refine List.map_congr_left fun entry present => ?_
  rw [value_choicesOfAll] at present
  obtain ⟨element, _, given⟩ := List.mem_flatMap.1 present
  exact flag_of_mem_choicesOf given

end Offering

/-- A field to choose from has the choices of its elements in their order. A single one is selected
at first; of several it is the last one that is marked, if any is. Of the choices that a plugin
makes those are marked that the element sets. -/
theorem compiled_choices (compiler : Compiler) {kind : FieldKind}
    (chosen : kind = .combo ∨ kind = .radio) {node : Node}
    (typed : node.get? "type" = some kind.name) :
    ∃ field groups, (compiler.compile node).value = .ok (.choice field) ∧
      List.Forall₂ compiler.Offers (choiceElements node) groups ∧
      field.choices = groups.flatten ∧
      (field.choices.length = 1 → (Field.choice field).selectedIndex = 0) ∧
      (field.choices.length ≠ 1 →
        (∀ i : Nat, (Field.choice field).selectedIndex = i ↔
          LastMarked compiler.store field.choices i) ∧
        ((Field.choice field).selectedIndex = -1 ↔
          ∀ choice ∈ field.choices, ¬ choice.MarkedIn compiler.store)) ∧
      ∀ set piece, (madeChoice set piece).MarkedIn compiler.store ↔ piece = set := by
  have known : (node.get? "type").bind FieldKind.ofName? = some kind := by
    rw [typed, Option.bind_some, FieldKind.ofName?_name]
  obtain ⟨groups, offers, given⟩ := compiler.exists_offers (choiceElements node)
  have made := compiler.value_compileChoice node kind
  have choices : (compiler.compileChoice kind node).value.choices = groups.flatten := by
    rw [made]
    exact given
  have selected : (compiler.compileChoice kind node).value.selected =
      initialSelection (groups.flatten.map fun choice => choice.isSelected compiler.store) := by
    rw [made, ← given, ← flags_choicesOfAll]
    rfl
  refine ⟨_, groups, by rw [compile_of_kind known, compileKind_choice chosen], offers, choices,
    fun single => ?_, fun several => ?_, fun set piece => markedIn_madeChoice_iff⟩
  · rw [choices] at single
    have first : (compiler.compileChoice kind node).value.selected = some 0 := by
      rw [selected, initialSelection, List.length_map, if_pos single]
    exact Field.selectedIndex_choice_eq_iff.2 first
  · rw [choices] at several ⊢
    rw [initialSelection, List.length_map, if_neg several] at selected
    refine ⟨fun i => ?_, ?_⟩
    · rw [Field.selectedIndex_choice_eq_iff, selected, lastSet_marks_eq_some_iff]
    · rw [Field.selectedIndex_choice_eq_none_iff, selected, lastSet_marks_eq_none_iff]

section Mixed

/-- An element of which a plugin makes two letters. -/
def lettersElement : Node :=
  ⟨"choice", .ofList [("processor", "letters"), ("set", "$pick")], [], none⟩

/-- Letters that a plugin makes and one that is missing does not, between two that are given. -/
def mixedNode : Node :=
  ⟨"field", .ofList [("type", "combo"), ("variable", "letter")], [⟨"spec", .empty, [
    ⟨"choice", .ofList [("txt", "A"), ("value", "a"), ("set", "$mark")], [], none⟩,
    ⟨"choice", .ofList [("processor", "missing")], [], none⟩,
    lettersElement,
    ⟨"choice", .ofList [("txt", "B"), ("value", "b"), ("set", "no")], [], none⟩], none⟩], none⟩

def mixedCompiler : Compiler where
  store := .ofList [("mark", "TRUE"), ("pick", "y")]
  factory := ⟨.ofList [("letters", .build (.ok (Plugin.processor "Letters" fun _ => .ok "x::y")))],
    fun _ => none⟩
  separator := .ok ""

/-- The second letter that is made is the last one marked, after one that is given. -/
theorem mixed_letter_selected :
    mixedNode.get? "type" = some FieldKind.combo.name ∧
      ∃ field, (mixedCompiler.compile mixedNode).value = .ok (.choice field) ∧
        field.choices = [⟨some "A", some "a", some "$mark"⟩, ⟨some "x", some "x", none⟩,
          ⟨some "y", some "y", some "true"⟩, ⟨some "B", some "b", some "no"⟩] ∧
        (Field.choice field).selectedIndex = 2 := by
  have typed : mixedNode.get? "type" = some FieldKind.combo.name := rfl
  obtain ⟨field, groups, made, _, _, _, several, marks⟩ :=
    mixedCompiler.compiled_choices (.inl rfl) typed
  have letters : (mixedCompiler.choicesOf lettersElement).value.map Prod.fst =
      [madeChoice "y" "x", madeChoice "y" "y"] := by
    have pick : mixedCompiler.store.expand (lettersElement.getD "set" "") = "y" := by decide +kernel
    rw [value_choicesOf, if_neg (by decide), pick]
    rfl
  have choices : field.choices = [⟨some "A", some "a", some "$mark"⟩, madeChoice "y" "x",
      madeChoice "y" "y", ⟨some "B", some "b", some "no"⟩] := by
    have compiled : (mixedCompiler.compile mixedNode).value =
      .ok (.choice (mixedCompiler.compileChoice .combo mixedNode).value) := rfl
    rw [compiled] at made
    cases made
    rw [value_compileChoice]
    dsimp only
    rw [value_choicesOfAll, List.map_flatMap]
    change _ ++ (_ ++ ((mixedCompiler.choicesOf lettersElement).value.map Prod.fst ++ _)) = _
    rw [letters]
    rfl
  have unmarked : ¬ Choice.MarkedIn ⟨some "B", some "b", some "no"⟩ mixedCompiler.store := by
    rintro ⟨_, ⟨⟩, affirms⟩
    rw [Store.expand_of_plain _ (by decide)] at affirms
    exact absurd affirms (by decide)
  have last : LastMarked mixedCompiler.store field.choices 2 := by
    rw [choices]
    refine ⟨⟨_, rfl, (marks "y" "y").2 rfl⟩, fun j other later there => ?_⟩
    obtain rfl | beyond : j = 3 ∨ 4 ≤ j := by omega
    · cases there
      exact unmarked
    · rw [List.getElem?_eq_none beyond] at there
      cases there
  exact ⟨typed, field, made, choices, ((several (by rw [choices]; decide)).1 2).2 last⟩

end Mixed

end Compiler

end InputPanel
