import InputPanel.Proofs.Condition.Objects
import InputPanel.Proofs.Condition.Sandbox
import InputPanel.Registry
import Mathlib.Logic.Equiv.Basic

/-!
# What a condition depends on

An expression looks variables up by the names that stand for a value in it, and by
the texts that are given to `var`. The name of what is called is not looked up, and
nothing that is passed over has a say. So scopes in which these names are set alike
give the same value or the same fault, whatever else is set in them.

The test for one object tells scopes apart that hold the same values, if two names
hold one object in the one scope and two objects in the other. Scopes are set alike
if they agree in that as well; without this test, the values suffice.
-/

namespace InputPanel.Condition

namespace Expr

/-- Whether an expression looks a variable up by a name, in itself or in a part of it. -/
inductive Mentions : Expr → String → Prop where
  | name {id : String} : Mentions (.name id) id
  | var {constant : Constant} {id : String} (shown : constant.value.plainText = .ok id) :
      Mentions (.call (.name "var") [.literal constant] false) id
  | under {expr child : Expr} {id : String} (present : child ∈ expr.parts)
      (rest : Mentions child id) : Mentions expr id

/-- Whether `var` is given literals only, wherever it is called. -/
inductive NamesLiterally : Expr → Prop where
  | mk {expr : Expr}
      (literal : ∀ arguments keywords, expr = .call (.name "var") arguments keywords →
        ∀ argument ∈ arguments, ∃ constant, argument = .literal constant)
      (each : ∀ child ∈ expr.parts, NamesLiterally child) : NamesLiterally expr

/-- Whether a comparison by an operator stands in an expression or in a part of it. -/
inductive Compares : Expr → CompareOp → Prop where
  | link {first right : Expr} {op : CompareOp} {links : List (CompareOp × Expr)}
      (present : (op, right) ∈ links) : Compares (.compare first links) op
  | under {expr child : Expr} {op : CompareOp} (present : child ∈ expr.parts)
      (rest : Compares child op) : Compares expr op

/-- Whether the conditions that an expression is read from answer alike for two scopes, alone and in
a registry. -/
def AnswersAlike (expr : Expr) (scope other : Scope) : Prop :=
  ∀ text, Expr.parse text = .ok expr →
    check text scope = check text other ∧ holds text scope = holds text other ∧
    ∀ (registry : Registry) (id : String) (store stored : Store),
      registry.get? id = some (some (.expression text)) →
        registry.check id store scope = registry.check id stored other

theorem Mentions.cases {expr : Expr} {id : String} (mentioned : expr.Mentions id) :
    expr = .name id ∨
      (∃ constant : Constant, expr = .call (.name "var") [.literal constant] false ∧
        constant.value.plainText = .ok id) ∨
      ∃ child ∈ expr.parts, child.Mentions id := by
  cases mentioned with
  | name => exact .inl rfl
  | var shown => exact .inr (.inl ⟨_, rfl, shown⟩)
  | under present rest => exact .inr (.inr ⟨_, present, rest⟩)

/-- What has no parts is looked up as a name, if at all. -/
theorem Mentions.eq_name {expr : Expr} {id : String} (bare : expr.parts = [])
    (mentioned : expr.Mentions id) : expr = .name id := by
  rcases mentioned.cases with same | ⟨_, rfl, _⟩ | ⟨_, present, _⟩
  · exact same
  · simp [parts] at bare
  · simp [bare] at present

end Expr

/-- Whether two runs fail alike or give values that are related. -/
inductive Outcome {α β ε : Type} (Rel : α → β → Prop) : Except ε α → Except ε β → Prop where
  | ok {a : α} {b : β} (related : Rel a b) : Outcome Rel (.ok a) (.ok b)
  | error {e : ε} : Outcome Rel (.error e) (.error e)

namespace Outcome

variable {α β γ δ ε : Type} {Rel : α → β → Prop} {Next : γ → δ → Prop}

theorem bind {one : Except ε α} {two : Except ε β} {next : α → Except ε γ} {other : β → Except ε δ}
    (first : Outcome Rel one two) (later : ∀ a b, Rel a b → Outcome Next (next a) (other b)) :
    Outcome Next (one >>= next) (two >>= other) := by
  cases first with
  | ok related => exact later _ _ related
  | error => exact .error

theorem map {one : Except ε α} {two : Except ε β} {f : α → γ} {g : β → δ}
    (first : Outcome Rel one two) (mapped : ∀ a b, Rel a b → Next (f a) (g b)) :
    Outcome Next (one.map f) (two.map g) := by
  cases first with
  | ok related => exact .ok (mapped _ _ related)
  | error => exact .error

theorem refl_eq (result : Except ε α) : Outcome Eq result result := by
  cases result with
  | ok a => exact .ok rfl
  | error e => exact .error

theorem eq {one two : Except ε α} (same : Outcome Eq one two) : one = two := by
  cases same with
  | ok related => rw [related]
  | error => rfl

theorem of_map_eq {one : Except ε α} {two : Except ε β} {f : α → γ} {g : β → γ}
    (same : one.map f = two.map g) : Outcome (fun a b => f a = g b) one two := by
  cases one with
  | error e =>
    cases two with
    | error e' =>
      cases same
      exact .error
    | ok b => cases same
  | ok a =>
    cases two with
    | error e => cases same
    | ok b => exact .ok (Except.ok.inj same)

theorem map_eq {one : Except ε α} {two : Except ε β} {f : α → γ} {g : β → γ}
    (same : Outcome (fun a b => f a = g b) one two) : one.map f = two.map g := by
  cases same with
  | ok related => exact congrArg Except.ok related
  | error => rfl

theorem and_left {one : Except ε α} {two : Except ε β} {P : α → Prop} (same : Outcome Rel one two)
    (holds : ∀ a, one = .ok a → P a) : Outcome (fun a b => P a ∧ Rel a b) one two := by
  cases same with
  | ok related => exact .ok ⟨holds _ rfl, related⟩
  | error => exact .error

theorem and_right {one : Except ε α} {two : Except ε β} {P : α → Prop}
    (same : Outcome (fun a b => P a ∧ Rel a b) one two) : Outcome Rel one two := by
  cases same with
  | ok related => exact .ok related.2
  | error => exact .error

end Outcome

theorem orFailed_outcome {Rel : Value → Value → Prop} {one two : Except Failure Value}
    (same : Outcome Rel one two) : Outcome Rel (orFailed one) (orFailed two) := by
  cases same with
  | ok related => exact .ok related
  | error => exact .error

/-- A relation between the values in two scopes that evaluation keeps, if it compares by some
operators only. -/
structure Congruence (Rel : Value → Value → Prop) (Compared : CompareOp → Prop) : Prop where
  constant : ∀ constant : Constant, Rel constant.value constant.value
  helper : ∀ helper : Helper, Rel (.helper helper) (.helper helper)
  list : ∀ {xs ys}, List.Forall₂ Rel xs ys → Rel (.list xs .made) (.list ys .made)
  truth : ∀ {x y}, Rel x y → x.truth = y.truth
  plainText : ∀ {x y}, Rel x y → x.plainText = y.plainText
  negate : ∀ {x y}, Rel x y → Outcome Rel x.negate y.negate
  apply : ∀ (helper : Helper) {xs ys}, List.Forall₂ Rel xs ys →
    Outcome Rel (helper.apply xs) (helper.apply ys)
  holds : ∀ {op x x' y y'}, Compared op → Rel x x' → Rel y y' → op.holds x y = op.holds x' y'

section Evaluating

variable {scope other : Scope} {Rel : Value → Value → Prop} {Compared : CompareOp → Prop}

theorem evalItems_related {items : List Expr}
    (each : ∀ item ∈ items, Outcome Rel (eval scope item) (eval other item)) :
    Outcome (List.Forall₂ Rel) (evalItems scope items) (evalItems other items) := by
  induction items with
  | nil => exact .ok .nil
  | cons item rest ih =>
    rw [List.forall_mem_cons] at each
    rw [evalItems, evalItems]
    exact each.1.bind fun x y first => (ih each.2).bind fun xs ys others => .ok (.cons first others)

variable (congruence : Congruence Rel Compared)

include congruence

theorem allHold_related {operands : List Expr}
    (each : ∀ operand ∈ operands, Outcome Rel (eval scope operand) (eval other operand)) :
    Outcome Eq (allHold scope operands) (allHold other operands) := by
  induction operands with
  | nil => exact .ok rfl
  | cons operand rest ih =>
    rw [List.forall_mem_cons] at each
    rw [allHold, allHold]
    refine each.1.bind fun x y first => ?_
    rw [congruence.truth first]
    split
    · exact ih each.2
    · exact .ok rfl

theorem anyHolds_related {operands : List Expr}
    (each : ∀ operand ∈ operands, Outcome Rel (eval scope operand) (eval other operand)) :
    Outcome Eq (anyHolds scope operands) (anyHolds other operands) := by
  induction operands with
  | nil => exact .ok rfl
  | cons operand rest ih =>
    rw [List.forall_mem_cons] at each
    rw [anyHolds, anyHolds]
    refine each.1.bind fun x y first => ?_
    rw [congruence.truth first]
    split
    · exact .ok rfl
    · exact ih each.2

theorem linksHold_related {x x' : Value} {links : List (CompareOp × Expr)} (left : Rel x x')
    (compared : ∀ link ∈ links, Compared link.1)
    (each : ∀ right ∈ links.map Prod.snd, Outcome Rel (eval scope right) (eval other right)) :
    Outcome Eq (linksHold scope x links) (linksHold other x' links) := by
  induction links generalizing x x' with
  | nil => exact .ok rfl
  | cons link rest ih =>
    obtain ⟨op, right⟩ := link
    rw [List.map_cons, List.forall_mem_cons] at each
    rw [List.forall_mem_cons] at compared
    rw [linksHold, linksHold]
    refine each.1.bind fun y y' second => ?_
    rw [congruence.holds compared.1 left second]
    refine (Outcome.refl_eq _).bind fun holds _ same => ?_
    cases same
    cases holds with
    | true => exact ih second compared.2 each.2
    | false => exact .ok rfl

theorem rel_bool (b : Bool) : Rel (.bool b) (.bool b) := congruence.constant (.bool b)

theorem rel_constant? (name : String) :
    Rel ((constant? name).getD .none) ((constant? name).getD .none) := by
  unfold constant?
  split
  · exact rel_bool congruence true
  · exact rel_bool congruence false
  · cases Helper.ofName? name with
    | none => exact congruence.constant .none
    | some helper => exact congruence.helper helper

theorem lookup_related {id : String} (agree : Option.Rel Rel (scope.find? id) (other.find? id)) :
    Outcome Rel (lookup scope id) (lookup other id) := by
  unfold lookup
  split
  · exact .error
  · generalize scope.find? id = one, other.find? id = two at agree
    cases agree with
    | some related => exact .ok related
    | none => exact .ok (rel_constant? congruence id)

theorem var_related {constant : Constant}
    (agree : ∀ id, constant.value.plainText = .ok id →
      Option.Rel Rel (scope.find? id) (other.find? id)) :
    Outcome Rel (eval scope (.call (.name "var") [.literal constant] false))
      (eval other (.call (.name "var") [.literal constant] false)) := by
  rw [eval_var, eval_var, eval, eval]
  cases shown : constant.value.plainText with
  | error failure =>
    simp only [bind, Except.bind, shown, orFailed]
    exact .error
  | ok id =>
    have found := agree id shown
    simp only [bind, Except.bind, shown, orFailed, pure, Except.pure]
    generalize scope.find? id = one, other.find? id = two at found
    cases found with
    | some related => exact .ok related
    | none => exact .ok (congruence.constant .none)

end Evaluating

/-- A call of `var` with anything but one argument is a fault, whatever the variables hold. -/
theorem eval_var_of_not_single {scope : Scope} {arguments : List Expr} {keywords : Bool}
    (wrong : ∀ argument, (arguments, keywords) ≠ ([argument], false)) :
    eval scope (.call (.name "var") arguments keywords) = .error .varArguments := by
  rcases arguments with _ | ⟨argument, _ | ⟨second, rest⟩⟩
  · simp [eval]
  · cases keywords with
    | false => exact absurd rfl (wrong argument)
    | true => simp [eval]
  · simp [eval]

/-- The induction is on the parts of the expression. What is evaluated of them is related, up to the
first fault or the first one that decides. -/
theorem eval_related {scope other : Scope} {Rel : Value → Value → Prop}
    {Compared : CompareOp → Prop} (congruence : Congruence Rel Compared) {expr : Expr}
    (literal : expr.NamesLiterally) (compared : ∀ op, expr.Compares op → Compared op)
    (agree : ∀ id, expr.Mentions id → Option.Rel Rel (scope.find? id) (other.find? id)) :
    Outcome Rel (eval scope expr) (eval other expr) := by
  induction literal with
  | @mk expr literal _ ih =>
    have each : ∀ child ∈ expr.parts, Outcome Rel (eval scope child) (eval other child) :=
      fun child present => ih child present (fun op within => compared op (.under present within))
        fun id mentioned => agree id (.under present mentioned)
    cases expr with
    | literal constant =>
      rw [eval, eval]
      exact .ok (congruence.constant constant)
    | name id =>
      rw [eval, eval]
      exact lookup_related congruence (agree id .name)
    | display items =>
      rw [eval, eval]
      exact (evalItems_related each).map fun _ _ => congruence.list
    | unary op operand =>
      rw [eval, eval]
      split
      · refine (each operand List.mem_cons_self).bind fun x y same => ?_
        cases op with
        | not =>
          rw [UnaryOp.apply, UnaryOp.apply, congruence.truth same]
          exact .ok (rel_bool congruence _)
        | minus => exact orFailed_outcome (congruence.negate same)
        | plus | invert => exact .error
      · exact .error
    | boolean op operands =>
      have bools : ∀ a b : Bool, a = b → Rel (.bool a) (.bool b) := by
        rintro a _ rfl
        exact rel_bool congruence a
      cases op with
      | and =>
        rw [eval, eval]
        exact (allHold_related congruence each).map bools
      | or =>
        rw [eval, eval]
        exact (anyHolds_related congruence each).map bools
    | compare first links =>
      rw [eval, eval]
      refine (each first List.mem_cons_self).bind fun x y same => ?_
      have linked : Outcome Eq (linksHold scope x links) (linksHold other y links) :=
        linksHold_related congruence same (fun link present => compared link.1 (.link present))
          fun right present => each right (List.mem_cons_of_mem first present)
      refine linked.bind fun holds _ same => ?_
      cases same
      exact .ok (rel_bool congruence holds)
    | call callee arguments keywords =>
      cases callee with
      | name function =>
        by_cases isVar : function = "var"
        · subst isVar
          by_cases single : ∃ argument, (arguments, keywords) = ([argument], false)
          · obtain ⟨argument, shape⟩ := single
            cases shape
            obtain ⟨constant, rfl⟩ := literal _ _ rfl argument List.mem_cons_self
            exact var_related congruence fun id shown => agree id (.var shown)
          · rw [eval_var_of_not_single (not_exists.1 single),
              eval_var_of_not_single (not_exists.1 single)]
            exact .error
        · rw [eval_call_of_ne_var isVar, eval_call_of_ne_var isVar]
          split
          · exact .error
          · next helper _ =>
            split
            · exact .error
            · exact (evalItems_related each).bind fun xs ys same =>
                orFailed_outcome (congruence.apply helper same)
      | _ =>
        simp only [eval]
        exact .error
    | unsupported element =>
      rw [eval, eval]
      exact .error

section Agreeing

variable {scope other : Scope} {f g : Place → Place}

/-- Values with the same places, under the names that both scopes give to them. -/
theorem congruence_renamed (one : Value.IsRenaming f) (two : Value.IsRenaming g) :
    Congruence (fun x y => x.renamed f = y.renamed g) fun _ => True := by
  have named : Value.NamedAlike f g :=
    ⟨one.made.trans two.made.symm, one.common.trans two.common.symm⟩
  exact {
    constant := Value.constant_renamed named
    helper := fun _ => rfl
    list := Value.list_renamed named
    truth := Value.truth_eq
    plainText := Value.plainText_eq
    negate := fun same => .of_map_eq (Value.negate_renamed_eq named same)
    apply := fun helper _ _ same => .of_map_eq (Value.apply_renamed named helper same)
    holds := fun _ same sameRight => by rw [← one.holds, same, sameRight, two.holds] }

/-- Defined values that hold the same, as long as objects are not told from each other. -/
theorem congruence_bare :
    Congruence (fun x y => x.isDefined = true ∧ x.bare = y.bare) fun op =>
      op ≠ .is ∧ op ≠ .isNot := by
  have named : Value.NamedAlike (fun _ => .made) fun _ => .made := ⟨rfl, rfl⟩
  have other {x y : Value} (defined : x.isDefined = true) (same : x.bare = y.bare) :
      y.isDefined = true := by
    rwa [← Value.isDefined_renamed fun _ => .made, ← Value.bare, ← same, Value.bare,
      Value.isDefined_renamed]
  exact {
    constant := fun constant => ⟨Value.isDefined_constant constant, rfl⟩
    helper := fun _ => ⟨rfl, rfl⟩
    list := fun same =>
      have ⟨defined, same⟩ := (List.forall₂_and_left _ _).1 same
      ⟨Value.itemsDefined_iff.2 defined, Value.list_renamed named same⟩
    truth := fun same => Value.truth_eq same.2
    plainText := fun same => Value.plainText_eq same.2
    negate := fun same => (Outcome.of_map_eq (Value.negate_renamed_eq named same.2)).and_left
      fun _ => Value.isDefined_negate same.1
    apply := fun helper _ _ same =>
      (Outcome.of_map_eq (Value.apply_renamed named helper ((List.forall₂_and_left _ _).1 same).2)).and_left
        fun _ => Value.isDefined_apply
    holds := fun valued left right => by
      rw [← Value.holds_renamed Value.tells_bare valued left.1 right.1, ← Value.bare, left.2,
        ← Value.bare, right.2]
      exact Value.holds_renamed Value.tells_bare valued (other left.1 left.2)
        (other right.1 right.2) }

theorem optionRel_of_map_eq {α β γ : Type} {one : Option α} {two : Option β} {f : α → γ}
    {g : β → γ} (same : one.map f = two.map g) : Option.Rel (fun a b => f a = g b) one two := by
  cases one with
  | none =>
    cases two with
    | none => exact .none
    | some b => cases same
  | some a =>
    cases two with
    | none => cases same
    | some b => exact .some (Option.some.inj same)

/-- Variables that hold the same defined values, wherever these stand. -/
theorem rel_find?_of_bare {id : String}
    (same : (scope id).map Value.bare = (other id).map Value.bare)
    (defined : ∀ x, scope id = some x → x.isDefined = true) :
    Option.Rel (fun x y => x.isDefined = true ∧ x.bare = y.bare) (scope.find? id)
      (other.find? id) := by
  unfold Scope.find?
  cases one : scope id with
  | none =>
    cases two : other id with
    | none => exact .none
    | some y => simp [one, two] at same
  | some x =>
    cases two : other id with
    | none => simp [one, two] at same
    | some y =>
      have hold : x.bare = y.bare := by simpa [one, two] using same
      refine .some ⟨?_, ?_⟩
      · rw [Value.isDefined_heldBy, defined x one]
      · rw [Value.bare_heldBy, Value.bare_heldBy, hold]

theorem answersAlike {Rel : Value → Value → Prop} (truth : ∀ {x y}, Rel x y → x.truth = y.truth)
    {expr : Expr} (same : Outcome Rel (eval scope expr) (eval other expr)) :
    expr.AnswersAlike scope other := by
  intro text read
  have checks : check text scope = check text other := by
    simp only [check, read, orFailed, bind, Except.bind]
    generalize eval scope expr = one, eval other expr = two at same
    cases same with
    | ok related => exact congrArg Except.ok (truth related)
    | error => rfl
  refine ⟨checks, by rw [holds, holds, checks], fun registry id store stored registered => ?_⟩
  simp only [Registry.check, registered, checks]

end Agreeing

/-- A condition depends on the variables that it mentions, if `var` is given literals only. Scopes
that set these alike give the same value or the same fault, so that it holds in both or in neither,
and a registry answers the same for it and gives the same notice. Set alike are variables which hold
the same objects: the same values in the same places, whatever the two scopes call these. If no
comparison asks for one object, variables are set alike which hold the same values, as long as these
are defined. -/
theorem depends_on_mentioned {expr : Expr} (literal : expr.NamesLiterally) (scope other : Scope) :
    (∀ f g : Place → Place, Value.IsRenaming f → Value.IsRenaming g →
      (∀ id, expr.Mentions id →
        (scope.find? id).map (Value.renamed f) = (other.find? id).map (Value.renamed g)) →
      (eval scope expr).map (Value.renamed f) = (eval other expr).map (Value.renamed g) ∧
        expr.AnswersAlike scope other) ∧
    (¬ expr.Compares .is → ¬ expr.Compares .isNot →
      (∀ id, expr.Mentions id → (scope id).map Value.bare = (other id).map Value.bare ∧
        ∀ x, scope id = some x → x.isDefined = true) →
      (eval scope expr).map Value.bare = (eval other expr).map Value.bare ∧
        expr.AnswersAlike scope other) := by
  constructor
  · intro f g one two agree
    have same := eval_related (congruence_renamed one two) literal (fun _ _ => trivial)
      fun id mentioned => optionRel_of_map_eq (agree id mentioned)
    exact ⟨same.map_eq, answersAlike Value.truth_eq same⟩
  · intro noIs noIsNot agree
    have valued (op : CompareOp) (compared : expr.Compares op) : op ≠ .is ∧ op ≠ .isNot :=
      ⟨fun same => noIs (same ▸ compared), fun same => noIsNot (same ▸ compared)⟩
    have same := (eval_related congruence_bare literal valued fun id mentioned =>
      rel_find?_of_bare (agree id mentioned).1 (agree id mentioned).2).and_right
    exact ⟨same.map_eq, answersAlike Value.truth_eq same⟩

/-- Whether two variables hold one object. -/
def identical : Expr := .compare (.name "a") [(.is, .name "b")]

theorem namesLiterally_of_bare {expr : Expr} (bare : expr.parts = [])
    (uncalled : ∀ arguments keywords, expr ≠ .call (.name "var") arguments keywords) :
    expr.NamesLiterally :=
  .mk (fun arguments keywords same => absurd same (uncalled arguments keywords)) (by simp [bare])

theorem namesLiterally_identical : identical.NamesLiterally := by
  refine .mk (by simp [identical]) fun child present => ?_
  have names : child = .name "a" ∨ child = .name "b" := by
    simpa [identical, Expr.parts] using present
  rcases names with rfl | rfl <;> exact namesLiterally_of_bare rfl (by simp)

theorem parse_identical : Expr.parse "a is b" = .ok identical := by
  have scanned : tokens? "a is b".toList = some [.name "a", .keyword "is", .name "b", .lineEnd] :=
    rfl
  rw [Expr.parse, scanned]
  rfl

/-- The scope in which two variables alone are set, both to one value. -/
def Scope.pair (x : Value) : Scope := fun name => if name = "a" ∨ name = "b" then some x else none

/-- Two variables that hold the same text hold two objects in one scope and one object in another, so
that values do not suffice where objects are told from each other. -/
theorem identical_tells_scopes_apart :
    let scope : Scope := .pair (.ofText "True")
    let other : Scope := .pair (.atom (.text "True") .common)
    identical.NamesLiterally ∧ (∀ id, (scope id).map Value.bare = (other id).map Value.bare) ∧
      eval scope identical = .ok (.bool false) ∧ eval other identical = .ok (.bool true) ∧
      check "a is b" scope = .ok false ∧ check "a is b" other = .ok true := by
  intro scope other
  have apart : eval scope identical = .ok (.bool false) := rfl
  have one : eval other identical = .ok (.bool true) := rfl
  refine ⟨namesLiterally_identical, fun id => ?_, apart, one, ?_, ?_⟩
  · by_cases set : id = "a" ∨ id = "b"
    · simp only [scope, other, Scope.pair, if_pos set]
      rfl
    · simp only [scope, other, Scope.pair, if_neg set]
  · rw [check, parse_identical]
    simp only [orFailed, bind, Except.bind, apart]
    rfl
  · rw [check, parse_identical]
    simp only [orFailed, bind, Except.bind, one]
    rfl

/-- The helper `lower` of one variable, compared with the variable `b.c`. -/
def lowered : Expr :=
  .compare (.call (.name "lower") [.name "a"] false)
    [(.eq, .call (.name "var") [.literal (.text "b.c")] false)]

theorem namesLiterally_lowered : lowered.NamesLiterally := by
  refine .mk (by simp [lowered]) fun child present => ?_
  rcases List.mem_cons.1 present with rfl | present
  · refine .mk (by simp) fun child present => ?_
    rw [List.mem_singleton.1 present]
    exact namesLiterally_of_bare rfl (by simp)
  · rw [List.mem_singleton.1 present]
    refine .mk (by simp) fun child present => ?_
    rw [List.mem_singleton.1 present]
    exact namesLiterally_of_bare rfl (by simp)

theorem mentions_lowered {id : String} (mentioned : lowered.Mentions id) :
    id = "a" ∨ id = "b.c" := by
  rcases mentioned.cases with same | ⟨_, same, _⟩ | ⟨child, present, mentioned⟩
  · simp [lowered] at same
  · simp [lowered] at same
  rcases List.mem_cons.1 present with rfl | present
  · rcases mentioned.cases with same | ⟨_, same, _⟩ | ⟨child, present, mentioned⟩
    · cases same
    · simp at same
    · rw [List.mem_singleton.1 present] at mentioned
      cases mentioned.eq_name rfl
      exact .inl rfl
  · rw [List.mem_singleton.1 present] at mentioned
    rcases mentioned.cases with same | ⟨value, same, shown⟩ | ⟨child, present, mentioned⟩
    · cases same
    · cases same
      cases shown
      exact .inr rfl
    · rw [List.mem_singleton.1 present] at mentioned
      cases mentioned.eq_name rfl

theorem not_compares_of_bare {expr : Expr} {op : CompareOp} (bare : expr.parts = [])
    (unlinked : ∀ first links, expr ≠ .compare first links) : ¬ expr.Compares op := by
  rintro (_ | ⟨present, _⟩)
  · exact unlinked _ _ rfl
  · simp [bare] at present

/-- A call with one argument that has no parts compares nothing. -/
theorem not_compares_call {callee argument : Expr} {op : CompareOp} (bare : argument.parts = [])
    (unlinked : ∀ first links, argument ≠ .compare first links) :
    ¬ (Expr.call callee [argument] false).Compares op := by
  rintro (_ | ⟨present, compared⟩)
  rw [List.mem_singleton.1 present] at compared
  exact not_compares_of_bare bare unlinked compared

theorem compares_lowered {op : CompareOp} (compared : lowered.Compares op) : op = .eq := by
  cases compared with
  | link present => exact (Prod.mk.inj (List.mem_singleton.1 present)).1
  | under present compared =>
    rcases List.mem_cons.1 present with rfl | present
    · exact absurd compared (not_compares_call rfl (by simp))
    · rw [List.mem_singleton.1 present] at compared
      exact absurd compared (not_compares_call rfl (by simp))

theorem mentions_identical {id : String} (mentioned : identical.Mentions id) :
    id = "a" ∨ id = "b" := by
  rcases mentioned.cases with same | ⟨_, same, _⟩ | ⟨child, present, mentioned⟩
  · cases same
  · simp [identical] at same
  · have names : child = .name "a" ∨ child = .name "b" := by
      simpa [identical, Expr.parts] using present
    rcases names with rfl | rfl
    · cases mentioned.eq_name rfl
      exact .inl rfl
    · cases mentioned.eq_name rfl
      exact .inr rfl

theorem isRenaming_swap (one two : String) :
    Value.IsRenaming (Equiv.swap (Place.held one) (.held two)) where
  made := Equiv.swap_apply_of_ne_of_ne (by simp) (by simp)
  common := Equiv.swap_apply_of_ne_of_ne (by simp) (by simp)
  injective := Equiv.injective _

/-- One object that two variables hold, whatever it is called in the two scopes, and whatever other
variables are set to. A variable that bears the name of the helper has no say either. -/
theorem identical_and_lowered_alike :
    let shared (name : String) : Scope := .pair (.atom (.text "yes") (.held name))
    let more : Scope := fun name => if name = "c" then some (.ofText "no") else shared "q" name
    let stored : Scope := .ofTexts (.ofList [("a", "X"), ("b.c", "x")])
    let others : Scope := .ofTexts (.ofList [("lower", "y"), ("b.c", "x"), ("z", "Z"), ("a", "X")])
    identical.AnswersAlike (shared "p") more ∧
      (eval stored lowered).map Value.bare = (eval others lowered).map Value.bare ∧
      eval stored lowered = .ok (.bool true) := by
  intro shared more stored others
  have same := ((depends_on_mentioned namesLiterally_identical (shared "p") more).1 _ _
    (isRenaming_swap "p" "q") (isRenaming_swap "q" "q") fun id mentioned => by
      rcases mentions_identical mentioned with rfl | rfl <;> rfl).2
  have values := ((depends_on_mentioned namesLiterally_lowered stored others).2
    (fun compared => by cases compares_lowered compared)
    (fun compared => by cases compares_lowered compared) fun id mentioned => by
      have texts : ∃ s, stored id = some (.ofText s) ∧ others id = some (.ofText s) := by
        rcases mentions_lowered mentioned with rfl | rfl
        · exact ⟨"X", rfl, rfl⟩
        · exact ⟨"x", rfl, rfl⟩
      obtain ⟨s, one, two⟩ := texts
      rw [one, two]
      refine ⟨rfl, fun x held => ?_⟩
      cases held
      rfl).1
  exact ⟨same, values, rfl⟩

end InputPanel.Condition
