import InputPanel.Node

/-!
# Values that become no node

A value has a text if no integer in it has too many digits, and if its parts stand
in one another no deeper than there is room for. A value becomes a node if what is
written of it has texts, and if no mapping in it goes deeper. A mapping or a list
that stands in itself goes deeper than any room, unless it is written as a text.
-/

namespace InputPanel

namespace Data

/-- Whether a value is no integer and has no parts. -/
def isFlat : Data → Bool
  | int _ => false
  | pair _ _ => false
  | list _ => false
  | collection _ => false
  | map _ => false
  | _ => true

/-- Whether a value has a text where there is room for it. -/
inductive HasText : Nat → Data → Prop
  | flat {room : Nat} {value : Data} (flat : value.isFlat = true) : HasText room value
  | int {room : Nat} {n : Int} (short : Number.isWritable n = true) : HasText room (.int n)
  | pair {room : Nat} {a b : Data} (first : HasText room a) (second : HasText room b) :
      HasText (room + 1) (.pair a b)
  | list {room : Nat} {items : List Data} (each : ∀ item ∈ items, HasText room item) :
      HasText (room + 1) (.list items)
  | collection {room : Nat} {items : List Data} (each : ∀ item ∈ items, HasText room item) :
      HasText (room + 1) (.collection items)
  | map {room : Nat} {entries : List (Data × Data)}
      (keys : ∀ entry ∈ entries, HasText room entry.1)
      (values : ∀ entry ∈ entries, HasText room entry.2) : HasText (room + 1) (.map entries)

theorem textFault?_of_flat {value : Data} (flat : value.isFlat = true) (room : Nat) :
    value.textFault? room = none := by
  cases value with
  | int => cases flat
  | pair => cases flat
  | list => cases flat
  | collection => cases flat
  | map => cases flat
  | _ => cases room <;> rfl

/-- Nothing keeps a value from having a text exactly if it has one. -/
theorem textFault?_eq_none_iff {room : Nat} {value : Data} :
    value.textFault? room = none ↔ value.HasText room := by
  constructor
  · intro faultless
    induction room generalizing value with
    | zero =>
      cases value with
      | int n => exact .int (by simpa [textFault?] using faultless)
      | pair => cases faultless
      | list => cases faultless
      | collection => cases faultless
      | map => cases faultless
      | _ => exact .flat rfl
    | succ room ih =>
      cases value with
      | int n => exact .int (by simpa [textFault?] using faultless)
      | pair a b =>
        rw [textFault?, Option.or_eq_none_iff] at faultless
        exact .pair (ih faultless.1) (ih faultless.2)
      | list items =>
        rw [textFault?, List.findSome?_eq_none_iff] at faultless
        exact .list fun item inside => ih (faultless item inside)
      | collection items =>
        rw [textFault?, List.findSome?_eq_none_iff] at faultless
        exact .collection fun item inside => ih (faultless item inside)
      | map entries =>
        simp only [textFault?, List.findSome?_eq_none_iff, Option.or_eq_none_iff] at faultless
        exact .map (fun entry inside => ih (faultless entry inside).1)
          fun entry inside => ih (faultless entry inside).2
      | _ => exact .flat rfl
  · intro text
    induction text with
    | flat flat => exact textFault?_of_flat flat _
    | int short => rw [textFault?, if_pos short]
    | pair _ _ first second => rw [textFault?, first, second]; rfl
    | list _ ih => rw [textFault?, List.findSome?_eq_none_iff]; exact ih
    | collection _ ih => rw [textFault?, List.findSome?_eq_none_iff]; exact ih
    | map _ _ keys values =>
      simp only [textFault?, List.findSome?_eq_none_iff, Option.or_eq_none_iff]
      exact fun entry inside => ⟨keys entry inside, values entry inside⟩

/-- What keeps a value from having a text. -/
def textFaults : List Failure := [.badValue, .tooDeep]

theorem mem_textFaults {room : Nat} {value : Data} {failure : Failure}
    (faulty : value.textFault? room = some failure) : failure ∈ textFaults := by
  have digits {n : Int} (faulty : (if Number.isWritable n then none else some .badValue) =
      some failure) : failure ∈ textFaults := by
    rw [Option.ite_none_left_eq_some] at faulty
    cases faulty.2
    decide
  induction room generalizing value with
  | zero =>
    cases value with
    | int n => exact digits faulty
    | pair | list | collection | map =>
      cases faulty
      decide
    | _ => cases faulty
  | succ room ih =>
    cases value with
    | int n => exact digits faulty
    | pair a b =>
      obtain first | ⟨-, second⟩ := Option.or_eq_some_iff.1 faulty
      · exact ih first
      · exact ih second
    | list items =>
      obtain ⟨item, -, found⟩ := List.exists_of_findSome?_eq_some faulty
      exact ih found
    | collection items =>
      obtain ⟨item, -, found⟩ := List.exists_of_findSome?_eq_some faulty
      exact ih found
    | map entries =>
      obtain ⟨entry, -, found⟩ := List.exists_of_findSome?_eq_some faulty
      obtain key | ⟨-, value⟩ := Option.or_eq_some_iff.1 found
      · exact ih key
      · exact ih value
    | _ => cases faulty

/-- Whether the entries of a mapping go on as nodes, or end. -/
def goesOn : Data → Bool
  | map _ => true
  | list _ => true
  | loop _ _ => true
  | _ => false

/-- Whether a value becomes a node, where nodes stand in one another to some depth. -/
inductive IsTree : Nat → Data → Prop
  | mapping {room : Nat} {entries : List (Data × Data)}
      (keys : ∀ entry ∈ entries, entry.1.HasText room)
      (children : ∀ key inner, (key, map inner) ∈ entries → IsTree room (map inner))
      (items : ∀ key items, (key, list items) ∈ entries → ∀ item ∈ items, IsTree room item)
      (ends : ∀ key isMap text, (key, loop isMap text) ∉ entries)
      (attributes : ∀ entry ∈ entries, entry.2.goesOn = false → entry.2.HasText room) :
      IsTree (room + 1) (.map entries)
  | other {room : Nat} {value : Data} (unmapped : ∀ entries, value ≠ .map entries)
      (ends : ∀ text, value ≠ .loop true text) (text : value.HasText room) : IsTree (room + 1) value

end Data

namespace Node

open Data

theorem fault?_other {room : Nat} {value : Data} (unmapped : ∀ entries, value ≠ .map entries)
    (ends : ∀ text, value ≠ .loop true text) :
    fault? (room + 1) value = value.textFault? room :=
  fault?.eq_4 value room unmapped ends

theorem mem_textFaults_of_fault? {room : Nat} {value : Data} {failure : Failure}
    (faulty : fault? room value = some failure) : failure ∈ textFaults := by
  have deep : Failure.tooDeep ∈ textFaults := by decide
  induction room generalizing value with
  | zero =>
    cases faulty
    exact deep
  | succ room ih =>
    by_cases mapped : ∃ entries, value = .map entries
    · obtain ⟨entries, rfl⟩ := mapped
      obtain ⟨⟨key, value⟩, -, found⟩ := List.exists_of_findSome?_eq_some faulty
      obtain key | ⟨-, found⟩ := Option.or_eq_some_iff.1 found
      · exact mem_textFaults key
      cases value with
      | map inner => exact ih found
      | list items =>
        obtain ⟨item, -, found⟩ := List.exists_of_findSome?_eq_some found
        exact ih found
      | loop isMap text =>
        cases found
        exact deep
      | _ => exact mem_textFaults found
    · by_cases ends : ∃ text, value = .loop true text
      · obtain ⟨text, rfl⟩ := ends
        cases faulty
        exact deep
      · rw [fault?_other (fun entries same => mapped ⟨entries, same⟩)
          fun text same => ends ⟨text, same⟩] at faulty
        exact mem_textFaults faulty

/-- A value becomes a node exactly if it is a tree of nodes that have texts. -/
theorem fault?_eq_none_iff {room : Nat} {value : Data} :
    fault? room value = none ↔ value.IsTree room := by
  constructor
  · intro faultless
    induction room generalizing value with
    | zero => cases faultless
    | succ room ih =>
      by_cases mapped : ∃ entries, value = .map entries
      · obtain ⟨entries, rfl⟩ := mapped
        simp only [fault?, List.findSome?_eq_none_iff, Option.or_eq_none_iff] at faultless
        refine .mapping (fun entry inside => textFault?_eq_none_iff.1 (faultless entry inside).1)
          (fun key inner inside => ih (faultless _ inside).2)
          (fun key items inside item within => ?_) (fun key isMap text inside => ?_)
          fun entry inside flat => ?_
        · exact ih (List.findSome?_eq_none_iff.1 (faultless _ inside).2 item within)
        · cases (faultless _ inside).2
        · have last := (faultless entry inside).2
          obtain ⟨key, value⟩ := entry
          cases value with
          | map => cases flat
          | list => cases flat
          | loop => cases flat
          | _ => exact textFault?_eq_none_iff.1 last
      · have unmapped : ∀ entries, value ≠ .map entries := fun entries same =>
          mapped ⟨entries, same⟩
        have ends : ∀ text, value ≠ .loop true text := by
          rintro text rfl
          cases faultless
        rw [fault?_other unmapped ends, textFault?_eq_none_iff] at faultless
        exact .other unmapped ends faultless
  · intro tree
    induction tree with
    | mapping keys _ _ ends attributes children items =>
      simp only [fault?, List.findSome?_eq_none_iff, Option.or_eq_none_iff]
      rintro ⟨key, value⟩ inside
      refine ⟨textFault?_eq_none_iff.2 (keys _ inside), ?_⟩
      cases value with
      | map inner => exact children key inner inside
      | list inner => exact List.findSome?_eq_none_iff.2 (items key inner inside)
      | loop isMap text => exact absurd inside (ends key isMap text)
      | _ => exact textFault?_eq_none_iff.2 (attributes _ inside rfl)
    | other unmapped ends text =>
      rw [fault?_other unmapped ends, textFault?_eq_none_iff]
      exact text

end Node

end InputPanel
