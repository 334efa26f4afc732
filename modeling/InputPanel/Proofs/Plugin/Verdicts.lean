import InputPanel.Plugin.Binding
import InputPanel.Plugin.Validators
import InputPanel.Proofs.Field.Compile

/-!
# What validators say of values

The validators of a field are asked in order up to the first that refuses, so a
value comes through if and only if each of them accepts it by itself. The values
of several inputs are all the same to the validator of equality if and only if
each is the first of them.
-/

namespace InputPanel

namespace Binding

variable {factory : Factory} {subject : Subject} {bindings : List Binding}

/-- Whether a validator refuses; one that cannot be made or crashes does. -/
def refuses (factory : Factory) (subject : Subject) (binding : Binding) : Bool :=
  !(binding.isValid factory subject).value

theorem value_firstFailure (factory : Factory) (subject : Subject) (bindings : List Binding) :
    (firstFailure factory subject bindings).value = bindings.find? (refuses factory subject) := by
  induction bindings with
  | nil => rfl
  | cons binding rest ih =>
    rw [firstFailure, Noted.value_bind, List.find?_cons]
    cases accepted : (binding.isValid factory subject).value with
    | true =>
      have passes : refuses factory subject binding = false := by simp [refuses, accepted]
      rw [passes]
      exact ih
    | false =>
      have fails : refuses factory subject binding = true := by simp [refuses, accepted]
      rw [fails]
      rfl

theorem find?_refuses_eq_none_iff :
    bindings.find? (refuses factory subject) = none ↔
      ∀ binding ∈ bindings, (binding.isValid factory subject).value = true := by
  simp [List.find?_eq_none, refuses]

end Binding

namespace Validators

theorem allEqual_iff (first : String) (others : List String) :
    allEqual (.many ((first :: others).map some)) = true ↔ ∀ other ∈ others, other = first := by
  simp [allEqual, Subject.values]

/-- Values are accepted as equal if and only if all are the first one. -/
theorem isValid_passwordEquality_iff {factory : Factory} {binding : Binding}
    (makes : factory.create binding.className = .ok passwordEquality) (first : String)
    (others : List String) :
    (binding.isValid factory (.many ((first :: others).map some))).value = true ↔
      ∀ other ∈ others, other = first := by
  rw [← allEqual_iff, Binding.isValid, Noted.value_bind, Binding.verdict, makes]
  exact Iff.rfl

end Validators

end InputPanel
