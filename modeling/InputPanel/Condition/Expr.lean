import InputPanel.Condition.Value

/-!
# Condition expressions

A condition is a small expression: constants, names, displays, truth logic,
chained comparisons, and direct calls of helper functions. Every other element
of the expression language is kept as its kind alone; evaluating one fails.
`var` takes the name of a variable as text, for names that are not identifiers.
-/

namespace InputPanel.Condition

inductive UnaryOp where
  | not
  | minus
  | plus
  | invert
deriving DecidableEq, Repr

inductive BoolOp where
  | and
  | or
deriving DecidableEq, Repr

inductive CompareOp where
  | eq
  | ne
  | lt
  | le
  | gt
  | ge
  | mem
  | notMem
  | is
  | isNot
deriving DecidableEq, Repr

/-- Elements that conditions may not hold. -/
inductive Element where
  | binary
  | conditional
  | function
  | member
  | subscript
  | mapping
  | starred
  | formatted
  | assignment
  | listComprehension
  | setComprehension
  | mapComprehension
  | generator
  | await
  | yield
  | yieldFrom
deriving DecidableEq, Repr

inductive Expr where
  | literal (value : Constant)
  | name (id : String)
  | display (items : List Expr)
  | unary (op : UnaryOp) (operand : Expr)
  | boolean (op : BoolOp) (operands : List Expr)
  | compare (first : Expr) (links : List (CompareOp × Expr))
  | call (callee : Expr) (arguments : List Expr) (keywords : Bool)
  | unsupported (element : Element)

namespace Element

def label : Element → String
  | binary => "BinOp"
  | conditional => "IfExp"
  | function => "Lambda"
  | member => "Attribute"
  | subscript => "Subscript"
  | mapping => "Dict"
  | starred => "Starred"
  | formatted => "JoinedStr"
  | assignment => "NamedExpr"
  | listComprehension => "ListComp"
  | setComprehension => "SetComp"
  | mapComprehension => "DictComp"
  | generator => "GeneratorExp"
  | await => "Await"
  | yield => "Yield"
  | yieldFrom => "YieldFrom"

end Element

/-- Why an expression has no value. -/
inductive Fault where
  | hiddenName
  | unsupported (element : Element)
  | forbiddenUnary (op : UnaryOp)
  | indirectCall
  | varArguments
  | forbiddenCall (name : String)
  | keywordArguments
  | failed (failure : Failure)
deriving DecidableEq, Repr

namespace Fault

def message : Fault → String
  | hiddenName => "dunder names are not allowed in conditions"
  | unsupported element => "Unsupported expression element: " ++ element.label
  | forbiddenUnary .invert => "Unary operator not allowed: Invert"
  | forbiddenUnary _ => "Unary operator not allowed: UAdd"
  | indirectCall => "Only direct function calls are allowed"
  | varArguments => "var() takes exactly one variable name"
  | forbiddenCall name => "Function '" ++ name ++ "' is not allowed"
  | keywordArguments => "Keyword arguments are not allowed"
  | failed failure => failure.bracketed

end Fault

/-- The values of the variables; none for a name that is not set. Two variables hold one object if
their values are given one place; a value without a place is an object of its own. -/
abbrev Scope := String → Option Value

/-- The value of a name that no variable has. -/
def constant? : String → Option Value
  | "true" => some (.bool true)
  | "false" => some (.bool false)
  | name => (Helper.ofName? name).map .helper

/-- The object that a variable holds. -/
def Scope.find? (scope : Scope) (name : String) : Option Value := (scope name).map (.heldBy name)

def isHidden (name : String) : Bool := name.startsWith "__"

def lookup (scope : Scope) (name : String) : Except Fault Value :=
  if isHidden name then .error .hiddenName
  else
    match scope.find? name with
    | some value => .ok value
    | none => .ok ((constant? name).getD .none)

def orFailed {α : Type} : Except Failure α → Except Fault α
  | .ok a => .ok a
  | .error failure => .error (.failed failure)

def UnaryOp.apply : UnaryOp → Value → Except Fault Value
  | .not, value => .ok (.bool !value.truth)
  | .minus, value => orFailed value.negate
  | op, _ => .error (.forbiddenUnary op)

/-- An operator that is refused before its operand is looked at. -/
def UnaryOp.allowed : UnaryOp → Bool
  | .not => true
  | .minus => true
  | _ => false

def ordered (test : Ordering → Bool) (x y : Value) : Except Fault Bool :=
  (orFailed (x.order y)).map fun o => (o.map test).getD false

/-- Whether a comparison of two values holds. -/
def CompareOp.holds (op : CompareOp) (x y : Value) : Except Fault Bool :=
  match op with
  | .eq => .ok (x.equal y)
  | .ne => .ok !(x.equal y)
  | .lt => ordered Ordering.isLT x y
  | .le => ordered Ordering.isLE x y
  | .gt => ordered Ordering.isGT x y
  | .ge => ordered Ordering.isGE x y
  | .mem => orFailed (y.contains x)
  | .notMem => (orFailed (y.contains x)).map (!·)
  | .is => .ok (x.same y)
  | .isNot => .ok !(x.same y)

mutual

def eval (scope : Scope) : Expr → Except Fault Value
  | .literal constant => .ok constant.value
  | .name id => lookup scope id
  | .display items => (evalItems scope items).map fun values => .list values .made
  | .unary op operand =>
    if op.allowed then (eval scope operand).bind op.apply else .error (.forbiddenUnary op)
  | .boolean .and operands => (allHold scope operands).map .bool
  | .boolean .or operands => (anyHolds scope operands).map .bool
  | .compare first links => do
    let x ← eval scope first
    let holds ← linksHold scope x links
    return .bool holds
  | .call callee arguments keywords =>
    match callee with
    | .name function =>
      if function = "var" then
        match arguments with
        | [argument] =>
          if keywords then .error .varArguments
          else do
            let value ← eval scope argument
            let name ← orFailed value.plainText
            return (scope.find? name).getD .none
        | _ => .error .varArguments
      else
        match Helper.ofName? function with
        | none => .error (.forbiddenCall function)
        | some helper =>
          if keywords then .error .keywordArguments
          else do
            let values ← evalItems scope arguments
            orFailed (helper.apply values)
    | _ => .error .indirectCall
  | .unsupported element => .error (.unsupported element)

def evalItems (scope : Scope) : List Expr → Except Fault (List Value)
  | [] => .ok []
  | item :: rest => do
    let value ← eval scope item
    let values ← evalItems scope rest
    return value :: values

/-- Stops at the first operand that does not hold. -/
def allHold (scope : Scope) : List Expr → Except Fault Bool
  | [] => .ok true
  | operand :: rest => do
    let value ← eval scope operand
    if value.truth then allHold scope rest else return false

/-- Stops at the first operand that holds. -/
def anyHolds (scope : Scope) : List Expr → Except Fault Bool
  | [] => .ok false
  | operand :: rest => do
    let value ← eval scope operand
    if value.truth then return true else anyHolds scope rest

/-- The links of a chain, each between the value before and that of its own operand; stops at the
first that does not hold. -/
def linksHold (scope : Scope) (x : Value) : List (CompareOp × Expr) → Except Fault Bool
  | [] => .ok true
  | (op, right) :: rest => do
    let y ← eval scope right
    let holds ← op.holds x y
    if holds then linksHold scope y rest else return false

end

end InputPanel.Condition
