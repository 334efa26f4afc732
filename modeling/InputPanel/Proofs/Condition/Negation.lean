import InputPanel.Condition

/-!
# Negated conjunctions and disjunctions

Operands that are joined are looked at from the left up to the first one that
decides: one that fails, does not hold in a conjunction, or holds in a
disjunction. A join counts as that operand does, whatever follows it. To negate
a join is to join the negations the other way: the same operand decides, and
both have the same value or fail with the same fault.
-/

namespace InputPanel.Condition

namespace BoolOp

/-- The other way to join operands. -/
def dual : BoolOp → BoolOp
  | and => or
  | or => and

/-- What an operand that decides counts as. -/
def decisive : BoolOp → Bool
  | and => false
  | or => true

theorem decisive_dual (op : BoolOp) : op.dual.decisive = !op.decisive := by
  cases op <;> rfl

end BoolOp

/-- Operands joined as they are spelled: a single one stands for itself. -/
def Expr.joined (op : BoolOp) : List Expr → Expr
  | [operand] => operand
  | operands => .boolean op operands

/-- What an expression counts as, or why it has no value. -/
def truthOf (scope : Scope) (expr : Expr) : Except Fault Bool := (eval scope expr).map Value.truth

/-- An operand that leaves it to the next one to decide. -/
def BoolOp.Passes (op : BoolOp) (scope : Scope) (operand : Expr) : Prop :=
  truthOf scope operand = .ok !op.decisive

variable {scope : Scope} {op : BoolOp} {operands before after : List Expr} {deciding : Expr}

theorem eval_not (scope : Scope) (expr : Expr) :
    eval scope (.unary .not expr) = (truthOf scope expr).map fun truth => .bool !truth := by
  rw [eval, truthOf]
  cases eval scope expr <;> rfl

theorem truthOf_not (scope : Scope) (expr : Expr) :
    truthOf scope (.unary .not expr) = (truthOf scope expr).map (!·) := by
  rw [truthOf, eval_not]
  cases truthOf scope expr <;> rfl

theorem truthOf_conjunction (scope : Scope) (operands : List Expr) :
    truthOf scope (.boolean .and operands) = allHold scope operands := by
  rw [truthOf, eval]
  cases allHold scope operands <;> rfl

theorem truthOf_disjunction (scope : Scope) (operands : List Expr) :
    truthOf scope (.boolean .or operands) = anyHolds scope operands := by
  rw [truthOf, eval]
  cases anyHolds scope operands <;> rfl

/-- A join has one of the two truth values, or fails. -/
theorem eval_boolean (scope : Scope) (op : BoolOp) (operands : List Expr) :
    eval scope (.boolean op operands) = (truthOf scope (.boolean op operands)).map .bool := by
  cases op with
  | and => rw [truthOf_conjunction, eval]
  | or => rw [truthOf_disjunction, eval]

section Deciding

theorem truthOf_boolean_nil (scope : Scope) (op : BoolOp) :
    truthOf scope (.boolean op []) = .ok !op.decisive := by
  cases op with
  | and => rw [truthOf_conjunction, allHold]; rfl
  | or => rw [truthOf_disjunction, anyHolds]; rfl

theorem truthOf_boolean_cons (scope : Scope) (op : BoolOp) (first : Expr) (rest : List Expr) :
    truthOf scope (.boolean op (first :: rest)) = (do
      let truth ← truthOf scope first
      if truth = op.decisive then return truth else truthOf scope (.boolean op rest)) := by
  cases op with
  | and =>
    rw [truthOf_conjunction, truthOf_conjunction, allHold, truthOf]
    cases eval scope first with
    | error fault => rfl
    | ok value =>
      simp only [bind, Except.bind, Except.map]
      cases value.truth <;> rfl
  | or =>
    rw [truthOf_disjunction, truthOf_disjunction, anyHolds, truthOf]
    cases eval scope first with
    | error fault => rfl
    | ok value =>
      simp only [bind, Except.bind, Except.map]
      cases value.truth <;> rfl

theorem truthOf_boolean_of_passes {first : Expr} (passes : op.Passes scope first)
    (rest : List Expr) :
    truthOf scope (.boolean op (first :: rest)) = truthOf scope (.boolean op rest) := by
  rw [truthOf_boolean_cons, passes]
  cases op <;> rfl

/-- What follows an operand that does not pass has no say. -/
theorem truthOf_boolean_of_not_passes (decides : ¬ op.Passes scope deciding) (after : List Expr) :
    truthOf scope (.boolean op (deciding :: after)) = truthOf scope deciding := by
  rw [truthOf_boolean_cons]
  rw [BoolOp.Passes] at decides
  cases truth : truthOf scope deciding with
  | error fault => rfl
  | ok holds =>
    have decisive : holds = op.decisive := by
      cases holds <;> cases decided : op.decisive <;> simp_all
    simp only [bind, Except.bind, decisive, if_true]
    rfl

/-- The induction is on the operands that pass; each leaves it to the rest. -/
theorem truthOf_boolean_append (pass : ∀ operand ∈ before, op.Passes scope operand)
    (rest : List Expr) :
    truthOf scope (.boolean op (before ++ rest)) = truthOf scope (.boolean op rest) := by
  induction before with
  | nil => rfl
  | cons first before ih =>
    rw [List.forall_mem_cons] at pass
    rw [List.cons_append, truthOf_boolean_of_passes pass.1, ih pass.2]

theorem truthOf_boolean_of_all (pass : ∀ operand ∈ operands, op.Passes scope operand) :
    truthOf scope (.boolean op operands) = .ok !op.decisive := by
  have all := truthOf_boolean_append pass []
  rwa [List.append_nil, truthOf_boolean_nil] at all

/-- All operands pass, or one of them is the first that does not. -/
theorem exists_deciding (scope : Scope) (op : BoolOp) (operands : List Expr) :
    (∀ operand ∈ operands, op.Passes scope operand) ∨
      ∃ before deciding after, operands = before ++ deciding :: after ∧
        (∀ operand ∈ before, op.Passes scope operand) ∧ ¬ op.Passes scope deciding := by
  induction operands with
  | nil => exact .inl fun _ absent => absurd absent List.not_mem_nil
  | cons first rest ih =>
    by_cases passes : op.Passes scope first
    · rcases ih with all | ⟨before, deciding, after, rfl, pass, decides⟩
      · exact .inl (List.forall_mem_cons.2 ⟨passes, all⟩)
      · exact .inr ⟨first :: before, deciding, after, rfl,
          List.forall_mem_cons.2 ⟨passes, pass⟩, decides⟩
    · exact .inr ⟨[], first, rest, rfl, fun _ absent => absurd absent List.not_mem_nil, passes⟩

end Deciding

section Negating

/-- An operand leaves it to the next one exactly if its negation does in the dual join. -/
theorem passes_dual_not_iff {operand : Expr} :
    op.dual.Passes scope (.unary .not operand) ↔ op.Passes scope operand := by
  rw [BoolOp.Passes, BoolOp.Passes, truthOf_not, BoolOp.decisive_dual]
  cases truthOf scope operand <;> simp [Except.map]

theorem passes_negations (pass : ∀ operand ∈ operands, op.Passes scope operand) :
    ∀ negated ∈ operands.map (Expr.unary .not), op.dual.Passes scope negated := by
  rw [List.forall_mem_map]
  exact fun operand present => passes_dual_not_iff.2 (pass operand present)

theorem truthOf_negations (scope : Scope) (op : BoolOp) (operands : List Expr) :
    truthOf scope (.boolean op.dual (operands.map (.unary .not))) =
      (truthOf scope (.boolean op operands)).map (!·) := by
  rcases exists_deciding scope op operands with
    all | ⟨before, deciding, after, rfl, pass, decides⟩
  · rw [truthOf_boolean_of_all all, truthOf_boolean_of_all (passes_negations all),
      BoolOp.decisive_dual]
    rfl
  · have negated : ¬ op.dual.Passes scope (.unary .not deciding) := mt passes_dual_not_iff.1 decides
    rw [truthOf_boolean_append pass, truthOf_boolean_of_not_passes decides, List.map_append,
      List.map_cons, truthOf_boolean_append (passes_negations pass),
      truthOf_boolean_of_not_passes negated, truthOf_not]

/-- A single operand counts as the join of it alone. -/
theorem truthOf_joined (scope : Scope) (op : BoolOp) (operands : List Expr) :
    truthOf scope (.joined op operands) = truthOf scope (.boolean op operands) := by
  unfold Expr.joined
  split
  · next operand =>
    by_cases passes : op.Passes scope operand
    · rw [truthOf_boolean_of_passes passes, truthOf_boolean_nil]
      exact passes
    · rw [truthOf_boolean_of_not_passes passes]
  · rfl

/-- Negations that are joined have one of the two truth values, even where there is only one. -/
theorem eval_joined_negations (scope : Scope) (op : BoolOp) (operands : List Expr) :
    eval scope (.joined op (operands.map (.unary .not))) =
      (truthOf scope (.joined op (operands.map (.unary .not)))).map .bool := by
  unfold Expr.joined
  split
  · next negated single =>
    obtain ⟨operand, _, rfl⟩ := List.map_eq_singleton_iff.1 single
    rw [eval_not, truthOf_not]
    cases truthOf scope operand <;> rfl
  · exact eval_boolean scope op _

theorem eval_negations (scope : Scope) (op : BoolOp) (operands : List Expr) :
    eval scope (.joined op.dual (operands.map (.unary .not))) =
      eval scope (.unary .not (.joined op operands)) := by
  rw [eval_joined_negations, truthOf_joined, truthOf_negations, eval_not, truthOf_joined]
  cases truthOf scope (.boolean op operands) <;> rfl

end Negating

/-- To negate operands that are joined one way is to join their negations the other way. Both have
the same value or fail with the same fault: that of the negation of the first operand that does not
pass, whatever follows it, and `decisive` if all of them pass. So have the conditions that are
spelled like this. -/
theorem negation_of_joined (scope : Scope) (op : BoolOp) (operands : List Expr) :
    let negation := Expr.unary .not (.joined op operands)
    let negations := Expr.joined op.dual (operands.map (.unary .not))
    eval scope negation = eval scope negations ∧
      ((∀ operand ∈ operands, op.Passes scope operand) →
        eval scope negation = .ok (.bool op.decisive)) ∧
      (∀ before deciding after, operands = before ++ deciding :: after →
        (∀ operand ∈ before, op.Passes scope operand) → ¬ op.Passes scope deciding →
          eval scope negation = eval scope (.unary .not deciding) ∧
          eval scope negations = eval scope (.unary .not deciding)) ∧
      ∀ one other, Expr.parse one = .ok negation → Expr.parse other = .ok negations →
        check one scope = check other scope ∧ holds one scope = holds other scope := by
  intro negation negations
  have same : eval scope negation = eval scope negations := (eval_negations scope op operands).symm
  refine ⟨same, fun all => ?_, fun before deciding after split pass decides => ?_,
    fun one other readOne readOther => ?_⟩
  · rw [eval_not, truthOf_joined, truthOf_boolean_of_all all]
    cases op <;> rfl
  · have decided : eval scope negation = eval scope (.unary .not deciding) := by
      rw [eval_not, eval_not, truthOf_joined, split, truthOf_boolean_append pass,
        truthOf_boolean_of_not_passes decides]
    exact ⟨decided, same.symm.trans decided⟩
  · have checks : check one scope = check other scope := by
      simp only [check, readOne, readOther, orFailed, bind, Except.bind, same]
    exact ⟨checks, by rw [holds, holds, checks]⟩

/-- To ask for the negative of a text fails, and neither condition asks for it after an operand that
decides. -/
theorem negation_of_three_joined :
    let scope : Scope := .ofTexts ⟨[("a", "x"), ("b", "")], by decide⟩
    let negative : Expr := .unary .minus (.literal (.text "c"))
    (∃ fault, eval scope negative = .error fault) ∧
      eval scope (.unary .not (.boolean .and [.name "a", .name "b", negative])) =
        .ok (.bool true) ∧
      check "not (a and b and -'c')" scope = check "not a or not b or not -'c'" scope := by
  intro scope negative
  have one : Expr.parse "not (a and b and -'c')" =
      .ok (.unary .not (.boolean .and [.name "a", .name "b", negative])) := by
    have scanned : tokens? "not (a and b and -'c')".toList =
        some [.keyword "not", .op "(", .name "a", .keyword "and", .name "b", .keyword "and",
          .op "-", .text "c", .op ")", .lineEnd] := rfl
    rw [Expr.parse, scanned]
    rfl
  have other : Expr.parse "not a or not b or not -'c'" = .ok (.boolean .or
      [.unary .not (.name "a"), .unary .not (.name "b"), .unary .not negative]) := by
    have scanned : tokens? "not a or not b or not -'c'".toList =
        some [.keyword "not", .name "a", .keyword "or", .keyword "not", .name "b", .keyword "or",
          .keyword "not", .op "-", .text "c", .lineEnd] := rfl
    rw [Expr.parse, scanned]
    rfl
  obtain ⟨_, _, decided, conditions⟩ :=
    negation_of_joined scope .and [.name "a", .name "b", negative]
  have passes : BoolOp.and.Passes scope (.name "a") := rfl
  have decides : ¬ BoolOp.and.Passes scope (.name "b") := by
    rintro ⟨⟩
  have stops := decided [.name "a"] (.name "b") [negative] rfl (by simpa using passes) decides
  exact ⟨⟨_, rfl⟩, stops.1.trans rfl, (conditions _ _ one other).1⟩

end InputPanel.Condition
