import InputPanel.Condition

/-!
# Chains of comparisons as conjunctions

A chain compares each operand with the next and stops at the first comparison
that does not hold. Its links, taken as comparisons of their own, make a
conjunction. An operand between two links is evaluated once in the chain and
twice in the conjunction, with the same value, so both have the same value or
fail alike.
-/

namespace InputPanel.Condition

namespace Expr

/-- The links of a chain as comparisons of their own, each of an operand with the next. -/
def linkwise (first : Expr) : List (CompareOp × Expr) → List Expr
  | [] => []
  | (op, right) :: rest => .compare first [(op, right)] :: linkwise right rest

end Expr

variable {scope : Scope} {left : Expr} {x : Value}

/-- A comparison by itself is a chain of one link. -/
theorem eval_link (evaluated : eval scope left = .ok x) (op : CompareOp) (right : Expr) :
    eval scope (.compare left [(op, right)]) = (do
      let y ← eval scope right
      let holds ← op.holds x y
      return .bool holds) := by
  simp only [eval, evaluated, linksHold, bind, Except.bind, pure, Except.pure]
  cases eval scope right with
  | error fault => rfl
  | ok y =>
    dsimp only
    cases op.holds x y with
    | error fault => rfl
    | ok holds => cases holds <;> rfl

/-- The induction is on the links. The operand of a link that holds has the value that it is carried
on with. -/
theorem linksHold_eq_allHold (evaluated : eval scope left = .ok x)
    (links : List (CompareOp × Expr)) :
    linksHold scope x links = allHold scope (left.linkwise links) := by
  induction links generalizing left x with
  | nil => rw [linksHold, Expr.linkwise, allHold]
  | cons link rest ih =>
    obtain ⟨op, right⟩ := link
    rw [linksHold, Expr.linkwise, allHold, eval_link evaluated]
    cases next : eval scope right with
    | error fault => rfl
    | ok y =>
      simp only [bind, Except.bind, pure, Except.pure]
      cases op.holds x y with
      | error fault => rfl
      | ok holds =>
        cases holds with
        | true => exact ih next
        | false => rfl

theorem eval_chain (scope : Scope) (first : Expr) (link : CompareOp × Expr)
    (rest : List (CompareOp × Expr)) :
    eval scope (.compare first (link :: rest)) =
      eval scope (.boolean .and (first.linkwise (link :: rest))) := by
  obtain ⟨op, right⟩ := link
  cases start : eval scope first with
  | error fault =>
    have fails (links) : eval scope (.compare first links) = .error fault := by
      rw [eval, start]
      rfl
    rw [fails, eval, Expr.linkwise, allHold, fails]
    rfl
  | ok x =>
    rw [eval, eval, ← linksHold_eq_allHold start, start]
    simp only [bind, Except.bind, pure, Except.pure]
    cases linksHold scope x ((op, right) :: rest) <;> rfl

/-- A chain with one link or more has the same value as the conjunction of its links, or fails with
the same fault; and so have the conditions that are spelled like this. -/
theorem chain_means_conjunction (scope : Scope) (first : Expr) (link : CompareOp × Expr)
    (rest : List (CompareOp × Expr)) :
    eval scope (.compare first (link :: rest)) =
        eval scope (.boolean .and (first.linkwise (link :: rest))) ∧
      ∀ chain links, Expr.parse chain = .ok (.compare first (link :: rest)) →
        Expr.parse links = .ok (.boolean .and (first.linkwise (link :: rest))) →
        check chain scope = check links scope ∧ holds chain scope = holds links scope := by
  have same := eval_chain scope first link rest
  refine ⟨same, fun chain links readChain readLinks => ?_⟩
  have checks : check chain scope = check links scope := by
    simp only [check, readChain, readLinks, orFailed, bind, Except.bind, same]
  exact ⟨checks, by rw [holds, holds, checks]⟩

/-- To ask for the negative of a text fails, and neither asks for it after a first link that does
not hold. -/
theorem chain_of_two_links :
    let scope : Scope := .ofTexts ⟨[("a", "2"), ("b", "1")], by decide⟩
    let negative : Expr := .unary .minus (.literal (.text "c"))
    (∃ fault, eval scope negative = .error fault) ∧
      eval scope (.compare (.name "a") [(.lt, .name "b"), (.lt, negative)]) = .ok (.bool false) ∧
      check "a<b<-'c'" scope = check "a<b and b<-'c'" scope := by
  intro scope negative
  have chain : Expr.parse "a<b<-'c'" =
      .ok (.compare (.name "a") [(.lt, .name "b"), (.lt, negative)]) := by
    have scanned : tokens? "a<b<-'c'".toList =
        some [.name "a", .op "<", .name "b", .op "<", .op "-", .text "c", .lineEnd] := rfl
    rw [Expr.parse, scanned]
    rfl
  have links : Expr.parse "a<b and b<-'c'" = .ok (.boolean .and
      [.compare (.name "a") [(.lt, .name "b")], .compare (.name "b") [(.lt, negative)]]) := by
    have scanned : tokens? "a<b and b<-'c'".toList =
        some [.name "a", .op "<", .name "b", .keyword "and", .name "b", .op "<", .op "-",
          .text "c", .lineEnd] := rfl
    rw [Expr.parse, scanned]
    rfl
  obtain ⟨same, conditions⟩ :=
    chain_means_conjunction scope (.name "a") (.lt, .name "b") [(.lt, negative)]
  exact ⟨⟨_, rfl⟩, same.trans rfl, (conditions _ _ chain links).1⟩

end InputPanel.Condition
