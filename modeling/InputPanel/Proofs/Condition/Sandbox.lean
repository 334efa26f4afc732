import InputPanel.Condition
import InputPanel.Proofs.Failure

/-!
# What conditions may not hold

An expression is forbidden by its own kind, whatever its parts are. A part is
certain if it is evaluated whatever the variables hold: no operand, link or test
before it can make it superfluous. A forbidden part that is certain makes the
whole expression fail, and without forbidden parts only an operation can fail.
A call looks up a variable or applies a helper. It never applies what a variable
holds, even where one bears the name of a helper.
-/

namespace InputPanel.Condition

namespace Expr

/-- Whether an expression is of a kind that conditions may not hold. A call is one unless it is
direct, of `var` with one argument or of a helper, and without keywords. -/
def isForbidden : Expr → Bool
  | .name id => isHidden id
  | .unary op _ => !op.allowed
  | .call (.name function) arguments keywords =>
    keywords || if function = "var" then arguments.length != 1 else (Helper.ofName? function).isNone
  | .call _ _ _ => true
  | .unsupported _ => true
  | .literal _ => false
  | .display _ => false
  | .boolean _ _ => false
  | .compare _ _ => false

/-- What is evaluated for the value of an expression, if nothing before it decides. The callee of a
call is not. -/
def parts : Expr → List Expr
  | .display items => items
  | .unary _ operand => [operand]
  | .boolean _ operands => operands
  | .compare first links => first :: links.map Prod.snd
  | .call _ arguments _ => arguments
  | _ => []

/-- The parts before which nothing can decide. -/
def certainParts : Expr → List Expr
  | .boolean _ operands => operands.take 1
  | .compare first links => first :: (links.take 1).map Prod.snd
  | expr => expr.parts

/-- A part at whatever depth that is certain, and certain in all that it is a part of. -/
inductive Reaches : Expr → Expr → Prop where
  | here {expr : Expr} : Reaches expr expr
  | under {expr child part : Expr} (certain : child ∈ expr.certainParts)
      (rest : Reaches child part) : Reaches expr part

/-- An expression that is not forbidden and has no forbidden part at whatever depth. -/
inductive Permitted : Expr → Prop where
  | mk {expr : Expr} (allowed : expr.isForbidden = false)
      (each : ∀ child ∈ expr.parts, Permitted child) : Permitted expr

end Expr

variable {scope : Scope} {fault : Fault}

section Steps

variable {α β : Type}

theorem map_eq_error_iff {result : Except Fault α} {f : α → β} :
    result.map f = .error fault ↔ result = .error fault := by
  cases result <;> simp [Except.map]

theorem orFailed_eq_ok_iff {result : Except Failure α} {a : α} :
    orFailed result = .ok a ↔ result = .ok a := by
  cases result <;> simp [orFailed]

theorem exists_failure_of_orFailed {result : Except Failure α}
    (failed : orFailed result = .error fault) : ∃ failure, fault = .failed failure := by
  cases result with
  | ok a => cases failed
  | error failure =>
    cases failed
    exact ⟨failure, rfl⟩

end Steps

section Calls

theorem ofName?_eq_some_iff {function : String} {helper : Helper} :
    Helper.ofName? function = some helper ↔ function = helper.name := by
  constructor
  · intro found
    unfold Helper.ofName? at found
    split at found <;> cases found <;> rfl
  · rintro rfl
    cases helper <;> rfl

theorem name_ne_var (helper : Helper) : helper.name ≠ "var" := by
  cases helper <;> decide

/-- A call of `var` with one argument gives what the variable holds that the argument names. -/
theorem eval_var (argument : Expr) :
    eval scope (.call (.name "var") [argument] false) = (do
      let given ← eval scope argument
      let name ← orFailed given.plainText
      return (scope.find? name).getD .none) := by
  simp [eval]

/-- A call of another name than `var` depends on the name alone, not on what a variable of this name
holds. -/
theorem eval_call_of_ne_var {function : String} (other : function ≠ "var") (arguments : List Expr)
    (keywords : Bool) :
    eval scope (.call (.name function) arguments keywords) =
      match Helper.ofName? function with
      | none => .error (.forbiddenCall function)
      | some helper =>
        if keywords then .error .keywordArguments
        else evalItems scope arguments >>= fun values => orFailed (helper.apply values) := by
  -- The equations of `eval` tell calls with one argument from others.
  rcases arguments with _ | ⟨argument, _ | ⟨second, rest⟩⟩ <;>
    cases known : Helper.ofName? function <;> simp [eval, other, known]

theorem eval_helper (helper : Helper) (arguments : List Expr) :
    eval scope (.call (.name helper.name) arguments false) = (do
      let values ← evalItems scope arguments
      orFailed (helper.apply values)) := by
  rw [eval_call_of_ne_var (name_ne_var helper), ofName?_eq_some_iff.2 rfl]
  rfl

/-- A call is forbidden, or it is one of `var` with one argument or one of a helper. -/
theorem call_cases {callee : Expr} {arguments : List Expr} {keywords : Bool}
    (allowed : (Expr.call callee arguments keywords).isForbidden = false) :
    keywords = false ∧ ((callee = .name "var" ∧ ∃ argument, arguments = [argument]) ∨
      ∃ helper : Helper, callee = .name helper.name) := by
  cases callee with
  | name function =>
    rw [Expr.isForbidden, Bool.or_eq_false_iff] at allowed
    obtain ⟨plain, usable⟩ := allowed
    refine ⟨plain, ?_⟩
    by_cases lookup : function = "var"
    · rw [if_pos lookup] at usable
      have single : arguments.length = 1 := by simpa using usable
      exact .inl ⟨by rw [lookup], List.length_eq_one_iff.1 single⟩
    · rw [if_neg lookup] at usable
      obtain ⟨helper, known⟩ : ∃ helper, Helper.ofName? function = some helper := by
        simpa [Option.isSome_iff_exists] using usable
      exact .inr ⟨helper, by rw [ofName?_eq_some_iff.1 known]⟩
  | _ => cases allowed

theorem eval_eq_error_of_isForbidden {expr : Expr} (forbidden : expr.isForbidden = true) :
    ∃ fault, eval scope expr = .error fault := by
  cases expr with
  | name id =>
    have hidden : isHidden id = true := forbidden
    exact ⟨.hiddenName, by simp [eval, lookup, hidden]⟩
  | unary op operand =>
    have refused : op.allowed = false := by simpa [Expr.isForbidden] using forbidden
    exact ⟨.forbiddenUnary op, by simp [eval, refused]⟩
  | call callee arguments keywords =>
    cases callee with
    | name function =>
      rw [Expr.isForbidden, Bool.or_eq_true] at forbidden
      by_cases lookup : function = "var"
      · subst lookup
        refine ⟨.varArguments, ?_⟩
        rcases arguments with _ | ⟨argument, _ | ⟨second, rest⟩⟩
        · simp [eval]
        · have spoiled : keywords = true := by simpa using forbidden
          simp [eval, spoiled]
        · simp [eval]
      · rw [eval_call_of_ne_var lookup]
        cases known : Helper.ofName? function with
        | none => exact ⟨.forbiddenCall function, rfl⟩
        | some helper =>
          have spoiled : keywords = true := by simpa [lookup, known] using forbidden
          exact ⟨.keywordArguments, by simp [spoiled]⟩
    | _ => exact ⟨.indirectCall, by simp [eval]⟩
  | unsupported element => exact ⟨.unsupported element, by simp [eval]⟩
  | _ => cases forbidden

/-- A call that gives a value looks a variable up or applies a helper, the same one whatever the
variables hold. -/
theorem eval_call_eq_ok_iff {callee : Expr} {arguments : List Expr} {keywords : Bool}
    {value : Value} :
    eval scope (.call callee arguments keywords) = .ok value ↔
      keywords = false ∧
      ((callee = .name "var" ∧ ∃ argument given name, arguments = [argument] ∧
          eval scope argument = .ok given ∧ given.plainText = .ok name ∧
          value = (scope.find? name).getD .none) ∨
        ∃ helper : Helper, callee = .name helper.name ∧
          ∃ values, evalItems scope arguments = .ok values ∧ helper.apply values = .ok value) := by
  constructor
  · intro gives
    have allowed : (Expr.call callee arguments keywords).isForbidden = false := by
      rw [Bool.eq_false_iff]
      intro forbidden
      obtain ⟨fault, failed⟩ :
          ∃ fault, eval scope (.call callee arguments keywords) = .error fault :=
        eval_eq_error_of_isForbidden forbidden
      rw [gives] at failed
      cases failed
    obtain ⟨rfl, ⟨rfl, argument, rfl⟩ | ⟨helper, rfl⟩⟩ := call_cases allowed
    · rw [eval_var, bind_eq_ok_iff] at gives
      obtain ⟨given, made, gives⟩ := gives
      obtain ⟨name, shown, gives⟩ := bind_eq_ok_iff.1 gives
      cases gives
      exact ⟨rfl, .inl ⟨rfl, argument, given, name, rfl, made, orFailed_eq_ok_iff.1 shown, rfl⟩⟩
    · rw [eval_helper, bind_eq_ok_iff] at gives
      obtain ⟨values, given, applied⟩ := gives
      exact ⟨rfl, .inr ⟨helper, rfl, values, given, orFailed_eq_ok_iff.1 applied⟩⟩
  · rintro ⟨rfl, ⟨rfl, argument, given, name, rfl, made, shown, rfl⟩ |
      ⟨helper, rfl, values, given, applied⟩⟩
    · rw [eval_var, made, bind_eq_ok_iff]
      exact ⟨given, rfl, bind_eq_ok_iff.2 ⟨name, orFailed_eq_ok_iff.2 shown, rfl⟩⟩
    · rw [eval_helper, bind_eq_ok_iff]
      exact ⟨values, given, orFailed_eq_ok_iff.2 applied⟩

end Calls

section Failing

/-- An expression without a value. -/
def Fails (scope : Scope) (expr : Expr) : Prop := ∃ fault, eval scope expr = .error fault

theorem fails_iff {expr : Expr} : Fails scope expr ↔ ∀ value, eval scope expr ≠ .ok value := by
  unfold Fails
  cases eval scope expr <;> simp

/-- Items have values only if each of them has one. -/
theorem exists_ok_of_evalItems {items : List Expr} {values : List Value}
    (given : evalItems scope items = .ok values) :
    ∀ item ∈ items, ∃ value, eval scope item = .ok value := by
  induction items generalizing values with
  | nil => simp
  | cons item rest ih =>
    rw [evalItems, bind_eq_ok_iff] at given
    obtain ⟨value, first, given⟩ := given
    obtain ⟨more, others, _⟩ := bind_eq_ok_iff.1 given
    intro other present
    rcases List.mem_cons.1 present with rfl | later
    · exact ⟨value, first⟩
    · exact ih others other later

/-- An expression fails with each of its certain parts. -/
theorem fails_of_certainPart {expr child : Expr} (certain : child ∈ expr.certainParts)
    (fails : Fails scope child) : Fails scope expr := by
  obtain ⟨fault, failed⟩ := fails
  have valueless {items : List Expr} (present : child ∈ items) (values : List Value) :
      evalItems scope items ≠ .ok values := by
    intro given
    obtain ⟨value, made⟩ := exists_ok_of_evalItems given child present
    rw [failed] at made
    cases made
  cases expr with
  | display items =>
    cases given : evalItems scope items with
    | ok values => exact absurd given (valueless certain values)
    | error other => exact ⟨other, by rw [eval, given]; rfl⟩
  | unary op operand =>
    obtain rfl : child = operand := List.mem_singleton.1 certain
    by_cases allowed : op.allowed = true
    · exact ⟨fault, by rw [eval, if_pos allowed, failed]; rfl⟩
    · exact ⟨.forbiddenUnary op, by rw [eval, if_neg allowed]⟩
  | boolean op operands =>
    cases operands with
    | nil => cases certain
    | cons operand rest =>
      obtain rfl : child = operand := List.mem_singleton.1 certain
      cases op with
      | and => exact ⟨fault, by rw [eval, allHold, failed]; rfl⟩
      | or => exact ⟨fault, by rw [eval, anyHolds, failed]; rfl⟩
  | compare first links =>
    rcases List.mem_cons.1 certain with rfl | linked
    · exact ⟨fault, by rw [eval, failed]; rfl⟩
    · cases links with
      | nil => cases linked
      | cons link rest =>
        obtain ⟨op, right⟩ := link
        obtain rfl : child = right := List.mem_singleton.1 linked
        cases start : eval scope first with
        | error other => exact ⟨other, by rw [eval, start]; rfl⟩
        | ok x => exact ⟨fault, by rw [eval, start]; simp [linksHold, failed, bind, Except.bind]⟩
  | call callee arguments keywords =>
    rw [fails_iff]
    intro value gives
    obtain ⟨_, ⟨_, argument, given, _, rfl, made, _⟩ | ⟨_, _, values, given, _⟩⟩ :=
      eval_call_eq_ok_iff.1 gives
    · obtain rfl : child = argument := List.mem_singleton.1 certain
      rw [failed] at made
      cases made
    · exact valueless certain values given
  | literal value => cases certain
  | name id => cases certain
  | unsupported element => cases certain

/-- What fails at a certain part fails as a whole, however deep the part is. -/
theorem fails_of_reaches {expr part : Expr} (reached : expr.Reaches part)
    (fails : Fails scope part) : Fails scope expr := by
  induction reached with
  | here => exact fails
  | under certain _ ih => exact fails_of_certainPart certain (ih fails)

/-- A condition fails, and so does not hold, if its expression fails. -/
theorem check_eq_error_of_fails {text : String} {expr : Expr} (read : Expr.parse text = .ok expr)
    (fails : Fails scope expr) :
    (∃ fault, check text scope = .error fault) ∧ holds text scope = false := by
  obtain ⟨fault, failed⟩ := fails
  have wrong : check text scope = .error fault := by
    rw [check, read]
    exact bind_eq_error_iff.2 (.inr ⟨expr, rfl, bind_eq_error_iff.2 (.inl failed)⟩)
  exact ⟨⟨fault, wrong⟩, by rw [holds, wrong]⟩

end Failing

section Refusing

theorem exists_part_of_evalItems {items : List Expr}
    (failed : evalItems scope items = .error fault) :
    ∃ item ∈ items, eval scope item = .error fault := by
  induction items with
  | nil => cases failed
  | cons item rest ih =>
    rw [evalItems, bind_eq_error_iff] at failed
    rcases failed with first | ⟨value, _, failed⟩
    · exact ⟨item, List.mem_cons_self, first⟩
    · rcases bind_eq_error_iff.1 failed with later | ⟨values, _, ⟨⟩⟩
      obtain ⟨other, present, made⟩ := ih later
      exact ⟨other, List.mem_cons_of_mem _ present, made⟩

theorem exists_part_of_allHold {operands : List Expr}
    (failed : allHold scope operands = .error fault) :
    ∃ operand ∈ operands, eval scope operand = .error fault := by
  induction operands with
  | nil => cases failed
  | cons operand rest ih =>
    rw [allHold, bind_eq_error_iff] at failed
    rcases failed with first | ⟨value, _, failed⟩
    · exact ⟨operand, List.mem_cons_self, first⟩
    · split at failed
      · obtain ⟨other, present, made⟩ := ih failed
        exact ⟨other, List.mem_cons_of_mem _ present, made⟩
      · cases failed

theorem exists_part_of_anyHolds {operands : List Expr}
    (failed : anyHolds scope operands = .error fault) :
    ∃ operand ∈ operands, eval scope operand = .error fault := by
  induction operands with
  | nil => cases failed
  | cons operand rest ih =>
    rw [anyHolds, bind_eq_error_iff] at failed
    rcases failed with first | ⟨value, _, failed⟩
    · exact ⟨operand, List.mem_cons_self, first⟩
    · split at failed
      · cases failed
      · obtain ⟨other, present, made⟩ := ih failed
        exact ⟨other, List.mem_cons_of_mem _ present, made⟩

/-- Comparing two values fails only as an operation. -/
theorem exists_failure_of_holds {op : CompareOp} {x y : Value}
    (failed : op.holds x y = .error fault) : ∃ failure, fault = .failed failure := by
  cases op with
  | eq | ne | is | isNot => cases failed
  | mem => exact exists_failure_of_orFailed failed
  | lt | le | gt | ge | notMem => exact exists_failure_of_orFailed (map_eq_error_iff.1 failed)

theorem exists_part_of_linksHold {x : Value} {links : List (CompareOp × Expr)}
    (failed : linksHold scope x links = .error fault) :
    (∃ failure, fault = .failed failure) ∨
      ∃ right ∈ links.map Prod.snd, eval scope right = .error fault := by
  induction links generalizing x with
  | nil => cases failed
  | cons link rest ih =>
    obtain ⟨op, right⟩ := link
    rw [linksHold, bind_eq_error_iff] at failed
    rcases failed with second | ⟨y, _, failed⟩
    · exact .inr ⟨right, List.mem_cons_self, second⟩
    · rcases bind_eq_error_iff.1 failed with compared | ⟨holds, _, failed⟩
      · exact .inl (exists_failure_of_holds compared)
      · split at failed
        · rcases ih failed with operation | ⟨other, present, made⟩
          · exact .inl operation
          · exact .inr ⟨other, List.mem_cons_of_mem _ present, made⟩
        · cases failed

/-- What fails and is not forbidden itself has failed in an operation or in one of its parts. -/
theorem exists_part_of_eval {expr : Expr} (allowed : expr.isForbidden = false)
    (failed : eval scope expr = .error fault) :
    (∃ failure, fault = .failed failure) ∨
      ∃ child ∈ expr.parts, eval scope child = .error fault := by
  cases expr with
  | literal value => simp [eval] at failed
  | name id =>
    have shown : isHidden id = false := allowed
    cases held : scope.find? id <;> simp [eval, lookup, shown, held] at failed
  | display items =>
    rw [eval, map_eq_error_iff] at failed
    exact .inr (exists_part_of_evalItems failed)
  | unary op operand =>
    have usable : op.allowed = true := by simpa [Expr.isForbidden] using allowed
    rw [eval, if_pos usable] at failed
    rcases bind_eq_error_iff.1 failed with made | ⟨value, _, applied⟩
    · exact .inr ⟨operand, List.mem_cons_self, made⟩
    · cases op with
      | not => cases applied
      | minus => exact .inl (exists_failure_of_orFailed applied)
      | plus | invert => cases usable
  | boolean op operands =>
    cases op with
    | and =>
      rw [eval, map_eq_error_iff] at failed
      exact .inr (exists_part_of_allHold failed)
    | or =>
      rw [eval, map_eq_error_iff] at failed
      exact .inr (exists_part_of_anyHolds failed)
  | compare first links =>
    rw [eval, bind_eq_error_iff] at failed
    rcases failed with start | ⟨x, _, failed⟩
    · exact .inr ⟨first, List.mem_cons_self, start⟩
    · rcases bind_eq_error_iff.1 failed with linked | ⟨holds, _, ⟨⟩⟩
      rcases exists_part_of_linksHold linked with operation | ⟨right, present, made⟩
      · exact .inl operation
      · exact .inr ⟨right, List.mem_cons_of_mem _ present, made⟩
  | call callee arguments keywords =>
    obtain ⟨rfl, ⟨rfl, argument, rfl⟩ | ⟨helper, rfl⟩⟩ := call_cases allowed
    · rw [eval_var, bind_eq_error_iff] at failed
      rcases failed with made | ⟨given, _, failed⟩
      · exact .inr ⟨argument, List.mem_cons_self, made⟩
      · rcases bind_eq_error_iff.1 failed with shown | ⟨name, _, ⟨⟩⟩
        exact .inl (exists_failure_of_orFailed shown)
    · rw [eval_helper, bind_eq_error_iff] at failed
      rcases failed with given | ⟨values, _, applied⟩
      · exact .inr (exists_part_of_evalItems given)
      · exact .inl (exists_failure_of_orFailed applied)
  | unsupported element => cases allowed

/-- Without forbidden parts only an operation fails. -/
theorem exists_failure_of_permitted {expr : Expr} (permitted : expr.Permitted)
    (failed : eval scope expr = .error fault) : ∃ failure, fault = .failed failure := by
  induction permitted with
  | mk allowed _ ih =>
    rcases exists_part_of_eval allowed failed with operation | ⟨child, present, made⟩
    · exact operation
    · exact ih child present made

end Refusing

/-- Whatever the variables hold, an expression with a forbidden part that is certain fails, so that
a condition with this expression does not hold and has no answer. A call that gives a value looks a
variable up or applies a helper, never what a variable holds. Nothing else is refused: what has no
forbidden part fails only in an operation. -/
theorem forbidden_part_fails (scope : Scope) :
    (∀ expr part : Expr, expr.Reaches part → part.isForbidden = true →
      (∃ fault, eval scope expr = .error fault) ∧
      ∀ text, Expr.parse text = .ok expr →
        (∃ fault, check text scope = .error fault) ∧ holds text scope = false) ∧
    (∀ callee arguments keywords value,
      eval scope (.call callee arguments keywords) = .ok value ↔
        keywords = false ∧
        ((callee = .name "var" ∧ ∃ argument given name, arguments = [argument] ∧
            eval scope argument = .ok given ∧ given.plainText = .ok name ∧
            value = (scope.find? name).getD .none) ∨
          ∃ helper : Helper, callee = .name helper.name ∧
            ∃ values, evalItems scope arguments = .ok values ∧
              helper.apply values = .ok value)) ∧
    (∀ expr fault, expr.Permitted → eval scope expr = .error fault →
      ∃ failure, fault = .failed failure) := by
  refine ⟨?_, fun _ _ _ _ => eval_call_eq_ok_iff, fun _ _ => exists_failure_of_permitted⟩
  intro expr part reached forbidden
  have fails : Fails scope expr := fails_of_reaches reached (eval_eq_error_of_isForbidden forbidden)
  exact ⟨fails, fun _ read => check_eq_error_of_fails read fails⟩

/-- In an argument of a link, and under a minus sign, a member of a variable is looked at. The
variable `str` does not stand for the helper. To ask for the negative of a text is allowed, and
fails. -/
theorem member_in_argument_fails :
    let scope : Scope := fun name => if name = "str" then some (.ofText "b") else none
    (∃ fault, eval scope (.compare (.literal (.text "b"))
      [(.eq, .call (.name "str") [.unsupported .member] false)]) = .error fault) ∧
    (∃ fault, check "-a.b" scope = .error fault) ∧ holds "-a.b" scope = false ∧
    eval scope (.call (.name "str") [.literal (.text "a")] false) = .ok (.ofText "a") ∧
    ∃ failure, eval scope (.unary .minus (.literal (.text "a"))) = .error (.failed failure) := by
  intro scope
  obtain ⟨refuses, calls, permits⟩ := forbidden_part_fails scope
  have called : Expr.Reaches (.call (.name "str") [.unsupported .member] false)
      (.unsupported .member) := .under List.mem_cons_self .here
  have linked : Expr.Reaches (.compare (.literal (.text "b"))
      [(.eq, .call (.name "str") [.unsupported .member] false)]) (.unsupported .member) :=
    .under (List.mem_cons_of_mem _ List.mem_cons_self) called
  have negated : Expr.Reaches (.unary .minus (.unsupported .member)) (.unsupported .member) :=
    .under List.mem_cons_self .here
  obtain ⟨unanswered, unheld⟩ := (refuses _ _ negated rfl).2 "-a.b" rfl
  refine ⟨(refuses _ _ linked rfl).1, unanswered, unheld, ?_, ?_⟩
  · exact (calls _ _ _ _).2 ⟨rfl, .inr ⟨.str, rfl, [.ofText "a"], rfl, rfl⟩⟩
  · have plain : Expr.Permitted (.literal (.text "a")) := .mk rfl (by simp [Expr.parts])
    have negative : Expr.Permitted (.unary .minus (.literal (.text "a"))) := by
      refine .mk rfl fun child present => ?_
      rw [List.mem_singleton.1 present]
      exact plain
    have failed : eval scope (.unary .minus (.literal (.text "a"))) =
        .error (.failed .typeMismatch) := rfl
    obtain ⟨failure, operation⟩ := permits _ _ negative failed
    exact ⟨failure, by rw [failed, operation]⟩

end InputPanel.Condition
