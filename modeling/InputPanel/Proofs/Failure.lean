import InputPanel.Failure

/-!
# How readers fail

A reader that is put together from others fails by no more kinds than they do.
A pass over a list whose steps are refused by the items alone fails by the first
item that is refused.
-/

namespace InputPanel

namespace Noted

theorem value_foldlM {α β : Type} (step : β → α → Noted β) (start : β) (items : List α) :
    (items.foldlM step start).value =
      items.foldl (fun made item => (step made item).value) start := by
  induction items generalizing start with
  | nil => rfl
  | cons item items ih => rw [List.foldlM_cons, List.foldl_cons, Noted.value_bind, ih]

end Noted

theorem bind_eq_ok_iff {α β ε : Type} {result : Except ε α} {next : α → Except ε β} {b : β} :
    result >>= next = .ok b ↔ ∃ a, result = .ok a ∧ next a = .ok b := by
  cases result <;> simp [bind, Except.bind]

theorem bind_eq_error_iff {α β ε : Type} {result : Except ε α} {next : α → Except ε β} {e : ε} :
    result >>= next = .error e ↔
      result = .error e ∨ ∃ a, result = .ok a ∧ next a = .error e := by
  cases result <;> simp [bind, Except.bind]

theorem exists_ok_of_any {ε α : Type} {made : Except ε α} {test : α → Bool}
    (passes : made.toOption.any test = true) : ∃ a, made = .ok a ∧ test a = true := by
  cases made with
  | error _ => cases passes
  | ok a => exact ⟨a, rfl, passes⟩

/-- A pass over a list fails by the first item that is refused, if the items alone decide that. -/
theorem foldlM_eq_error_iff {α β ε : Type} {step : β → α → Except ε β} {refusal? : α → Option ε}
    (refuses : ∀ b a e, step b a = .error e ↔ refusal? a = some e) {start : β} {items : List α}
    {e : ε} : items.foldlM step start = .error e ↔ items.findSome? refusal? = some e := by
  induction items generalizing start with
  | nil => simp [pure, Except.pure]
  | cons item items ih =>
    rw [List.foldlM_cons, List.findSome?_cons]
    cases done : step start item with
    | error first =>
      rw [(refuses _ _ _).1 done]
      simp [bind, Except.bind]
    | ok next =>
      have taken : refusal? item = none := by
        cases h : refusal? item with
        | none => rfl
        | some e => simp [(refuses start _ _).2 h] at done
      rw [taken]
      exact ih

/-- Whether a result that is a failure is of one of some kinds. -/
def FailsBy {α : Type} (kinds : List Failure) (result : Except Failure α) : Prop :=
  ∀ failure, result = .error failure → failure ∈ kinds

namespace FailsBy

variable {α β : Type} {kinds : List Failure}

theorem ok (a : α) : FailsBy kinds (.ok a) := by
  rintro failure ⟨⟩

theorem error {failure : Failure} (h : failure ∈ kinds) :
    FailsBy kinds (.error failure : Except Failure α) := by
  rintro _ ⟨⟩
  exact h

theorem bind {result : Except Failure α} {next : α → Except Failure β}
    (first : FailsBy kinds result) (later : ∀ a, FailsBy kinds (next a)) :
    FailsBy kinds (result >>= next) := by
  cases result with
  | error failure =>
    rintro _ ⟨⟩
    exact first failure rfl
  | ok a => exact later a

theorem ite {c : Prop} [Decidable c] {x y : Except Failure α} (first : FailsBy kinds x)
    (second : FailsBy kinds y) : FailsBy kinds (if c then x else y) := by
  split
  · exact first
  · exact second

theorem mono {more : List Failure} {result : Except Failure α} (fails : FailsBy kinds result)
    (within : kinds ⊆ more) : FailsBy more result :=
  fun failure failed => within (fails failure failed)

theorem map {result : Except Failure α} (f : α → β) (first : FailsBy kinds result) :
    FailsBy kinds (result.map f) := by
  cases result with
  | error failure =>
    rintro _ ⟨⟩
    exact first failure rfl
  | ok a => exact ok (f a)

theorem mapM {α β : Type} {kinds : List Failure} {f : α → Except Failure β}
    (each : ∀ a, FailsBy kinds (f a)) (items : List α) : FailsBy kinds (items.mapM f) := by
  induction items with
  | nil => exact .ok _
  | cons item items ih =>
    rw [List.mapM_cons]
    exact .bind (each item) fun _ => .bind ih fun _ => .ok _

end FailsBy

end InputPanel
