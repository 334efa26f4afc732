import InputPanel.Proofs.Dialogue.FirstAccepted
import InputPanel.Proofs.Session.Passes
import InputPanel.Proofs.Session.Passwords

/-!
# Selections

A field with choices and a box to tick ask for a number. An answer picks the choice with
that number, and one of white space alone picks the choice that is selected at first, if
any. The first answer that picks a choice is the last that is taken: the variable then
holds the value of that choice. If none does, the field fails and nothing is stored.
What is selected at first is found by the stored value before anything that the document
declares, and only its line carries the marker.
-/

namespace InputPanel

/-- A field that asks for the number of one of its choices. -/
def Field.isSelection : Field → Bool
  | choice _ => true
  | check _ => true
  | _ => false

namespace Session

open Dialogue

variable {session : Session} {store : Store} {target : String}

section Picking

variable {count : Nat} {selected : Option Nat} {answer : String}

/-- The choice, of so many, that an answer picks: the one that is selected if the answer is white
space alone, and otherwise the one whose number it is. -/
def Picks (count : Nat) (selected : Option Nat) (answer : String) (i : Nat) : Prop :=
  i < count ∧
    if Text.trimmed answer = "" then selected = some i
    else Number.readInt (Text.trim answer.toList) = some (i : Int)

theorem indexOrNone_eq_iff {i : Nat} : indexOrNone selected = i ↔ selected = some i :=
  Field.getD_index_eq_iff

/-- That nothing is selected is told by a number below all indices, which no answer gives. -/
theorem number?_eq_some_iff_picks {n : Int} :
    number? 0 (count - 1) (indexOrNone selected) answer = some n ↔
      ∃ i : Nat, n = i ∧ Picks count selected answer i := by
  rw [number?_eq_some_iff]
  constructor
  · rintro ⟨⟨least, greatest⟩, given⟩
    obtain ⟨i, rfl⟩ := Int.eq_ofNat_of_zero_le least
    rw [indexOrNone_eq_iff] at given
    exact ⟨i, rfl, by omega, given⟩
  · rintro ⟨i, rfl, below, given⟩
    rw [indexOrNone_eq_iff]
    exact ⟨⟨by omega, by omega⟩, given⟩

theorem number?_eq_none_iff_picks :
    number? 0 (count - 1) (indexOrNone selected) answer = none ↔
      ∀ i, ¬ Picks count selected answer i := by
  rw [Option.eq_none_iff_forall_ne_some]
  constructor
  · intro missing i picked
    exact missing i (number?_eq_some_iff_picks.2 ⟨i, rfl, picked⟩)
  · intro unpicked n given
    obtain ⟨i, _, picked⟩ := number?_eq_some_iff_picks.1 given
    exact unpicked i picked

end Picking

section Selected

variable {choices : List Choice}

/-- The index that is selected when a field is asked: of the first choice with the stored value, or
else the one that the document declares. For several choices this counts only if nothing is stored;
a box goes by its preset, whatever is stored. -/
def selectedAtFirst (field : Field) (store : Store) (target : String) : Option Nat :=
  match (store.get? target).bind (indexOfValue field.choices) with
  | some i => some i
  | none =>
    match field with
    | .choice f => if store.contains target then none else f.selected
    | .check f => if (⟨none, none, f.preset⟩ : Choice).isSelected store then some 1 else some 0
    | _ => none

theorem selectedAtFirst_choice (field : ChoiceField) (store : Store) (target : String) :
    selectedAtFirst (.choice field) store target = preselected field (store.get? target) := by
  rw [selectedAtFirst, OrderedMap.contains]
  cases store.get? target with
  | none => rfl
  | some value =>
    have same : Field.choices (.choice field) = field.choices := rfl
    rw [Option.bind_some, same, preselected]
    cases indexOfValue field.choices value with
    | none => rfl
    | some i => rfl

/-- An empty value finds no choice. -/
theorem indexOfValue_empty (choices : List Choice) : indexOfValue choices "" = none := by
  rw [indexOfValue, List.findIdx?_eq_none_iff]
  intro choice _
  rw [beq_eq_false_iff_ne]
  intro named
  exact (named?_eq_some_iff.1 named).2 rfl

theorem lt_length_of_indexOfValue {value : String} {i : Nat}
    (found : indexOfValue choices value = some i) : i < choices.length :=
  (List.findIdx?_eq_some_iff_getElem.1 found).1

/-- A box has one of two numbers selected, the second if it is ticked. -/
theorem selectedAtFirst_check {field : CheckField} {box : Box} (defined : field.box = some box)
    (store : Store) (target : String) :
    selectedAtFirst (.check field) store target =
      some (if ticked field box store target then 1 else 0) := by
  have choices : Field.choices (.check field) = box.choices := by
    rw [Field.choices, CheckField.choices, defined]
  have found : (store.get? target).bind (indexOfValue box.choices) =
      indexOfValue box.choices (store.getD target "") := by
    rw [OrderedMap.getD]
    cases store.get? target with
    | none => exact (indexOfValue_empty _).symm
    | some value => rfl
  rw [selectedAtFirst, ticked, choices, found]
  cases index : indexOfValue box.choices (store.getD target "") with
  | none =>
    dsimp only
    split <;> rfl
  | some i =>
    have two : box.choices.length = 2 := rfl
    have below := lt_length_of_indexOfValue index
    have first : i = 0 ∨ i = 1 := by omega
    rcases first with rfl | rfl
    · rfl
    · rfl

end Selected

section Asking

theorem printAll_follows (lines : List String) (store : Store) (pending : List String) :
    (printAll lines store pending).store = store ∧
      (printAll lines store pending).pending = pending ∧
      (printAll lines store pending).events = lines.map .print := by
  induction lines with
  | nil => exact ⟨rfl, rfl, rfl⟩
  | cons line rest ih =>
    obtain ⟨kept, unread, shown⟩ := ih
    refine ⟨kept, unread, ?_⟩
    rw [printAll, events_bind, List.map_cons, store_print, pending_print, shown]
    rfl

/-- The lines of choices are numbered, and only the selected one has the marker between its
brackets. -/
theorem choiceLines_eq (session : Session) (selected : Option Nat) (start : Nat)
    (choices : List Choice) :
    session.choiceLines selected start choices = choices.mapIdx fun i choice =>
      toString (start + i) ++ "  [" ++
        (if selected = some (start + i) then session.settings.marker else " ") ++ "] " ++
        choice.text.getD "" := by
  induction choices generalizing start with
  | nil => rfl
  | cons choice rest ih =>
    have next (i : Nat) : start + 1 + i = start + (i + 1) := by omega
    rw [choiceLines, ih, List.mapIdx_cons, mark]
    simp only [next, beq_iff_eq, Nat.add_zero]

/-- A choice field asks for a number and stores the value of the choice with that number. -/
theorem interviewChoice_follows (session : Session) {field : ChoiceField}
    (named : named? field.target = some target) (full : field.choices ≠ []) (store : Store)
    (pending : List String) :
    let selected := preselected field (store.get? target)
    let number := askNumber "input selection:" 0 (field.choices.length - 1) (indexOrNone selected)
      store pending
    let asked := session.interviewChoice field store pending
    asked.value.2 = number.value.isSome ∧
      asked.store =
        number.value.elim store (fun n => store.set target (valueAt field.choices n.toNat)) ∧
      asked.pending = number.pending ∧
      asked.events = describedBy store field.description ++
        ((session.choiceLines selected 0 field.choices).map .print ++ number.events) := by
  have more : field.choices.isEmpty = false := by simpa using full
  obtain ⟨described, undisturbed, told⟩ := printText_follows field.description store pending
  obtain ⟨listed, unread, lines⟩ := printAll_follows
    (session.choiceLines (preselected field (store.get? target)) 0 field.choices) store pending
  have kept := store_askNumber "input selection:" 0 (field.choices.length - 1)
    (indexOrNone (preselected field (store.get? target))) store pending
  simp only [interviewChoice, named, value_bind, store_bind, pending_bind, events_bind, described,
    undisturbed, told, more, Bool.false_eq_true, if_false, value_store, store_store, pending_store,
    events_store, List.nil_append, listed, unread, lines]
  cases (askNumber "input selection:" 0 (field.choices.length - 1)
    (indexOrNone (preselected field (store.get? target))) store pending).value with
  | none => exact ⟨rfl, kept, rfl, by simp⟩
  | some n => exact ⟨rfl, by simp [kept], rfl, by simp⟩

/-- A box asks for a number and stores the one or the other of its values. -/
theorem interviewCheck_follows (session : Session) {field : CheckField} {box : Box}
    (named : named? field.target = some target) (defined : field.box = some box) (store : Store)
    (pending : List String) :
    let isTicked := ticked field box store target
    let number := askNumber "input 1 to select, 0 to deselect:" 0 1 (if isTicked then 1 else 0)
      store pending
    let asked := session.interviewCheck field store pending
    asked.value.2 = number.value.isSome ∧
      asked.store =
        number.value.elim store (fun n => store.set target (valueAt box.choices n.toNat)) ∧
      asked.pending = number.pending ∧
      asked.events =
        .print ("  [" ++ session.mark isTicked ++ "] " ++ box.label.getD "") :: number.events := by
  have kept (preset : Int) :=
    store_askNumber "input 1 to select, 0 to deselect:" 0 1 preset store pending
  rw [interviewCheck, named, defined]
  dsimp only
  rw [value_bind, store_bind, pending_bind, events_bind, value_store, store_store, pending_store]
  generalize ticked field box store target = isTicked
  rw [value_bind, store_bind, pending_bind, events_bind, events_store, store_print, pending_print,
    events_print, value_bind, store_bind, pending_bind, events_bind, kept]
  cases (askNumber "input 1 to select, 0 to deselect:" 0 1 (if isTicked then 1 else 0) store
    pending).value with
  | none => exact ⟨rfl, rfl, rfl, congrArg (_ :: ·) (List.append_nil _)⟩
  | some n => exact ⟨rfl, rfl, rfl, congrArg (_ :: ·) (List.append_nil _)⟩

/-- The question of a selection. -/
def selectionQuestion : Field → String
  | .check _ => "input 1 to select, 0 to deselect:"
  | _ => "input selection:"

/-- What is shown of a selection before its question: what it is about and its choices, of which
only the one that is selected has the marker between its brackets, or the box. -/
def opening (session : Session) (store : Store) (target : String) (field : Field) : List Event :=
  let markAt := fun i =>
    if selectedAtFirst field store target = some i then session.settings.marker else " "
  match field with
  | .choice f =>
    let lines := f.choices.mapIdx fun i choice =>
      toString i ++ "  [" ++ markAt i ++ "] " ++ choice.text.getD ""
    describedBy store f.description ++ lines.map .print
  | .check f =>
    [.print ("  [" ++ markAt 1 ++ "] " ++ (f.choices.getLast?.bind Choice.text).getD "")]
  | _ => []

variable {field : Field}

/-- A selection is the question for a number within the bounds of its choices. -/
theorem interview_selection_follows (session : Session) (selects : field.isSelection = true)
    (named : named? field.target = some target) (full : field.choices ≠ []) (store : Store)
    (pending : List String) :
    let number := askNumber (selectionQuestion field) 0 (field.choices.length - 1)
      (indexOrNone (selectedAtFirst field store target)) store pending
    let asked := session.interview field store pending
    asked.value.2 = number.value.isSome ∧
      asked.store =
        number.value.elim store (fun n => store.set target (valueAt field.choices n.toNat)) ∧
      asked.pending = number.pending ∧
      asked.events = session.opening store target field ++ number.events := by
  cases field with
  | choice f =>
    obtain ⟨succeeds, after, unread, shown⟩ :=
      session.interviewChoice_follows named full store pending
    rw [← selectedAtFirst_choice] at succeeds after unread shown
    refine ⟨succeeds, after, unread, ?_⟩
    rw [choiceLines_eq] at shown
    simp only [Nat.zero_add] at shown
    rw [interview, events_bind, shown, opening]
    simp [selectionQuestion, Field.choices]
  | check f =>
    have posed : f.box.isSome = true := by
      cases defined : f.box with
      | none =>
        rw [Field.choices, CheckField.choices, defined] at full
        exact absurd rfl full
      | some box => rfl
    obtain ⟨box, defined⟩ := Option.isSome_iff_exists.1 posed
    have choices : Field.choices (.check f) = box.choices := by
      rw [Field.choices, CheckField.choices, defined]
    obtain ⟨succeeds, after, unread, shown⟩ :=
      session.interviewCheck_follows named defined store pending
    have preset : indexOrNone (selectedAtFirst (.check f) store target) =
        if ticked f box store target then 1 else 0 := by
      rw [selectedAtFirst_check defined]
      split <;> rfl
    have marked : session.mark (ticked f box store target) =
        if selectedAtFirst (.check f) store target = some 1 then session.settings.marker
        else " " := by
      rw [selectedAtFirst_check defined, mark]
      cases ticked f box store target <;> rfl
    have two : (box.choices.length : Int) - 1 = 1 := rfl
    rw [choices, preset, two]
    refine ⟨succeeds, after, unread, ?_⟩
    rw [marked] at shown
    rw [interview, events_bind, shown, opening]
    simp [selectionQuestion, CheckField.choices, defined, Box.choices]
  | _ => cases selects

/-- A field with choices, or a box, takes answers up to the first that picks one of its choices, and
then its variable, and nothing else, holds the value of that choice, which is empty if the choice
has none. If no answer picks a choice, it takes all of them, fails and stores nothing. All it shows
is its description and the line of each choice, of which only the one that is selected at first has
the marker, and the question once for each answer that it takes and once more if it fails. -/
theorem selection_takes_first_pick (session : Session) (selects : field.isSelection = true)
    (named : named? field.target = some target) (full : field.choices ≠ []) (store : Store)
    (pending : List String) :
    let picks := Picks field.choices.length (selectedAtFirst field store target)
    let asks := fun times => session.opening store target field ++
      List.replicate times (.prompt (selectionQuestion field ++ " "))
    let asked := session.interview field store pending
    (∀ earlier answer left i, pending = earlier ++ answer :: left →
      (∀ other ∈ earlier, ∀ j, ¬ picks other j) → picks answer i →
        asked.value.2 = true ∧ asked.store = store.set target (valueAt field.choices i) ∧
          asked.pending = left ∧ asked.events = asks (earlier.length + 1)) ∧
    ((∀ answer ∈ pending, ∀ j, ¬ picks answer j) →
      asked.value.2 = false ∧ asked.store = store ∧ asked.pending = [] ∧
        asked.events = asks (pending.length + 1)) := by
  intro picks asks asked
  obtain ⟨succeeds, after, unread, shown⟩ :=
    session.interview_selection_follows selects named full store pending
  constructor
  · rintro earlier answer left i rfl unpicked picked
    have refused : ∀ other ∈ earlier, number? 0 (field.choices.length - 1)
        (indexOrNone (selectedAtFirst field store target)) other = none :=
      fun other present => number?_eq_none_iff_picks.2 (unpicked other present)
    have accepted := number?_eq_some_iff_picks.2 ⟨i, rfl, picked⟩
    obtain ⟨given, rest, prompts⟩ := askNumber_of_first (selectionQuestion field) store
      refused accepted left
    rw [given] at succeeds after
    rw [rest] at unread
    rw [prompts] at shown
    exact ⟨succeeds, after, unread, shown⟩
  · intro unpicked
    have refused : ∀ other ∈ pending, number? 0 (field.choices.length - 1)
        (indexOrNone (selectedAtFirst field store target)) other = none :=
      fun other present => number?_eq_none_iff_picks.2 (unpicked other present)
    obtain ⟨given, rest, prompts⟩ := askNumber_of_none (selectionQuestion field) store refused
    rw [given] at succeeds after
    rw [rest] at unread
    rw [prompts] at shown
    exact ⟨succeeds, after, unread, shown⟩

end Asking

section Lettered

def letterField : Field :=
  .choice ⟨.combo, some "letter", none,
    [⟨some "A", some "a", none⟩, ⟨some "B", some "b", none⟩], none, none⟩

/-- A stored value that no choice has leaves nothing selected, so that an answer of white space
alone is refused, and so is a number that is too great. -/
theorem lettered_takes_first_pick :
    letterField.isSelection = true ∧ named? letterField.target = some "letter" ∧
    letterField.choices ≠ [] ∧
    let asked := lettered.interview letterField (.ofList [("letter", "z")]) [" ", "2", "+1", "0"]
    asked.value.2 = true ∧ asked.store = .ofList [("letter", "b")] ∧ asked.pending = ["0"] ∧
    asked.events = [.print "0  [ ] A", .print "1  [ ] B", .prompt "input selection: ",
      .prompt "input selection: ", .prompt "input selection: "] := by
  have full : letterField.choices ≠ [] := by decide
  have unpicked : ∀ other ∈ [" ", "2"], ∀ j, ¬ Picks 2 none other j :=
    List.forall_mem_cons.2 ⟨number?_eq_none_iff_picks.1 rfl,
      List.forall_mem_singleton.2 (number?_eq_none_iff_picks.1 rfl)⟩
  have picked : Picks 2 none "+1" 1 := ⟨by decide, by decide⟩
  obtain ⟨first, _⟩ := selection_takes_first_pick lettered rfl rfl full
    (.ofList [("letter", "z")]) [" ", "2", "+1", "0"]
  exact ⟨rfl, rfl, full, first [" ", "2"] "+1" ["0"] 1 rfl unpicked picked⟩

end Lettered

end Session

end InputPanel
