import InputPanel.Proofs.Plugin.Verdicts

/-!
# Validators that judge the values of a list one by one

The validators for values that are not blank, that match a pattern and whose
length is within bounds ask the same of every value, so that a list comes through
if and only if each of its values would by itself. Parameters are read on the
way: one that cannot be read makes the validator crash, for a list at one of its
values and for this value alone as well, and a crash refuses. The validator of
equality does not judge values alone but compares them.
-/

namespace InputPanel

/-- Whether a validator accepts values; one that crashes accepts none. -/
def Plugin.accepts (plugin : Plugin) (parameters : Parameters) (subject : Subject) : Bool :=
  match plugin.validate with
  | some validate => (validate subject parameters).value.toOption.getD false
  | none => false

namespace Binding

variable {factory : Factory} {binding : Binding} {plugin : Plugin}

/-- What validates through a binding is the plugin that its name leads to. -/
theorem value_isValid (makes : factory.create binding.className = .ok plugin) (subject : Subject) :
    (binding.isValid factory subject).value = plugin.accepts binding.parameters subject := by
  rw [isValid, Noted.value_bind, verdict, makes, Plugin.accepts]
  dsimp only
  cases plugin.validate with
  | none => rfl
  | some validate =>
    dsimp only
    rw [Noted.value_bind]
    cases (validate subject binding.parameters).value <;> rfl

end Binding

namespace Validators

variable {plugin : Plugin} {parameters : Parameters}

/-- A validator judges values one by one: each has to pass the same test, and the parameters have to
be of use. -/
def JudgesEach (plugin : Plugin) : Prop :=
  ∀ parameters, ∃ (usable : Bool) (passes : Option String → Bool), ∀ subject,
    plugin.accepts parameters subject = (usable && subject.values.all passes)

/-- Without a value there is nothing to be refused but the parameters. -/
theorem JudgesEach.accepts_many (judges : JudgesEach plugin) (parameters : Parameters)
    {values : List (Option String)} (filled : values ≠ []) :
    plugin.accepts parameters (.many values) = true ↔
      ∀ value ∈ values, plugin.accepts parameters (.one value) = true := by
  obtain ⟨usable, passes, accepts⟩ := judges parameters
  simp only [accepts, Subject.values, List.all_cons, List.all_nil, Bool.and_true, Bool.and_eq_true,
    List.all_eq_true]
  constructor
  · rintro ⟨ready, all⟩ value present
    exact ⟨ready, all value present⟩
  · intro each
    obtain ⟨first, present⟩ := List.exists_mem_of_ne_nil values filled
    exact ⟨(each first present).1, fun value present => (each value present).2⟩

/-- A crash and a refusal both end the pass, so that what comes after them has no say. -/
theorem toOption_allPass {α : Type} (test : α → Except Failure Bool) (values : List α) :
    (allPass test values).toOption.getD false =
      values.all fun value => (test value).toOption.getD false := by
  induction values with
  | nil => rfl
  | cons value values ih =>
    rw [allPass, List.all_cons, ← ih]
    cases test value with
    | error failure => rfl
    | ok passes => cases passes <;> rfl

theorem toOption_crashing (result : Except Failure Bool) :
    (crashing result).toOption = result.toOption := by
  cases result <;> rfl

theorem judgesEach_notEmpty : JudgesEach notEmpty := fun _ =>
  ⟨true, fun value => value.any fun s => !(Text.trim s.toList).isEmpty, fun _ => rfl⟩

theorem judgesEach_regularExpression : JudgesEach regularExpression := by
  intro parameters
  cases given : parameters.get? "pattern" with
  | none =>
    refine ⟨false, fun _ => false, fun subject => ?_⟩
    simp only [Plugin.accepts, regularExpression, given]
    rfl
  | some pattern =>
    refine ⟨true, fun value => (Pattern.accepts pattern (value.getD "")).toOption.getD false,
      fun subject => ?_⟩
    simp only [Plugin.accepts, regularExpression, given]
    rw [Noted.value_pure, toOption_crashing, matchesPattern, toOption_allPass, Bool.true_and]

theorem judgesEach_length : JudgesEach length := by
  intro parameters
  have judged (subject : Subject) : length.accepts parameters subject =
      (lengthWithin parameters subject).toOption.getD false := by
    rw [← toOption_crashing]
    rfl
  cases read : leastLength parameters with
  | error failure =>
    refine ⟨false, fun _ => false, fun subject => ?_⟩
    rw [judged, lengthWithin, read]
    rfl
  | ok least =>
    refine ⟨true, fun value => (fits parameters least value).toOption.getD false,
      fun subject => ?_⟩
    rw [judged, lengthWithin, read, Bool.true_and, ← toOption_allPass]
    rfl

theorem accepts_passwordEquality_iff {values : List (Option String)} :
    passwordEquality.accepts parameters (.many values) = true ↔
      ∀ one ∈ values, ∀ other ∈ values, one = other := by
  have judged : passwordEquality.accepts parameters (.many values) = allEqual (.many values) := rfl
  rw [judged]
  cases values with
  | nil => simp [allEqual, Subject.values]
  | cons first rest =>
    simp only [allEqual, Subject.values, List.all_eq_true, beq_iff_eq]
    constructor
    · intro same
      have atFirst : ∀ one ∈ first :: rest, one = first := List.forall_mem_cons.2 ⟨rfl, same⟩
      intro one present other present'
      rw [atFirst one present, atFirst other present']
    · intro same one present
      exact same one (List.mem_cons_of_mem _ present) first List.mem_cons_self

/-- The validators at hand but for the one of equality. -/
def ofEach : List Plugin := [notEmpty, regularExpression, length]

theorem judgesEach_of_mem (present : plugin ∈ ofEach) : JudgesEach plugin := by
  simp only [ofEach, List.mem_cons, List.not_mem_nil, or_false] at present
  rcases present with rfl | rfl | rfl
  · exact judgesEach_notEmpty
  · exact judgesEach_regularExpression
  · exact judgesEach_length

/-- Of the validators at hand, under whatever name a factory makes them and with whatever
parameters, three accept a list that is not empty if and only if they accept each of its values
alone, and the fourth accepts a list if and only if all its values are the same. A crash counts as a
refusal on both sides. -/
theorem lists_judged_by_values {factory : Factory} {binding : Binding} {plugin : Plugin}
    (makes : factory.create binding.className = .ok plugin) (values : List (Option String)) :
    (plugin ∈ ofEach → values ≠ [] →
      ((binding.isValid factory (.many values)).value = true ↔
        ∀ value ∈ values, (binding.isValid factory (.one value)).value = true)) ∧
    (plugin = passwordEquality →
      ((binding.isValid factory (.many values)).value = true ↔
        ∀ one ∈ values, ∀ other ∈ values, one = other)) := by
  simp only [Binding.value_isValid makes]
  constructor
  · intro present filled
    exact (judgesEach_of_mem present).accepts_many binding.parameters filled
  · rintro rfl
    exact accepts_passwordEquality_iff

/-- The factory that is at hand makes each validator under its own name. -/
theorem create_standard (present : plugin ∈ all) :
    Factory.standard.create plugin.name = .ok plugin := by
  simp only [all, List.mem_cons, List.not_mem_nil, or_false] at present
  rcases present with rfl | rfl | rfl | rfl <;> rfl

/-- The upper bound is no number, but the shorter value is refused before it is read. -/
def misbound : Binding := ⟨"LengthValidator", .ofList [("min", "2"), ("max", "many")], none⟩

theorem misbound_judges_values :
    Factory.standard.create misbound.className = .ok length ∧
      ((misbound.isValid Factory.standard (.many [some "a", some "bcd"])).value = true ↔
        ∀ value ∈ [some "a", some "bcd"],
          (misbound.isValid Factory.standard (.one value)).value = true) := by
  have present : length ∈ all := by simp [all]
  have makes : Factory.standard.create misbound.className = .ok length := create_standard present
  exact ⟨makes, (lists_judged_by_values makes [some "a", some "bcd"]).1 (by simp [ofEach])
    (by simp)⟩

end Validators

end InputPanel
