import Hybrid.Expr.Evaluation
import Hybrid.Expr.Printer
import Hybrid.Expr.References

/-! # Terms

What a hybrid function returns: a plain value when it is evaluated on an instance, an expression
when it is read on a class. Arithmetic on terms picks the side: values alone are computed at once,
and with an expression among the operands the result is a larger expression.
-/

namespace Hybrid

/-- The result of a hybrid function. -/
inductive Term where
  /-- A value, already computed. -/
  | native (value : Value)
  /-- An expression that is left to the database. -/
  | symbolic (expr : Expr)

/-- The sort of a term: the type of its value or the sort of its outermost node. -/
inductive TermKind where
  | native (kind : ValueKind)
  | symbolic (kind : ExprKind)
  deriving DecidableEq

namespace TermKind

/-- Every sort of terms: the values first, each in order of declaration. -/
def all : List TermKind :=
  ValueKind.all.map .native ++ ExprKind.all.map .symbolic

def isSymbolic : TermKind → Bool
  | .native _ => false
  | .symbolic _ => true

def name : TermKind → String
  | .native .null => "Null"
  | .native .bool => "Bool"
  | .native .int => "Int"
  | .native .float => "Float"
  | .native .text => "Text"
  | .symbolic kind => kind.name

end TermKind

namespace Term

def kind : Term → TermKind
  | .native value => .native value.kind
  | .symbolic expr => .symbolic expr.kind

/-- Equality of values or of expressions; a value never equals an expression. -/
def beq : Term → Term → Bool
  | .native a, .native b => a == b
  | .symbolic a, .symbolic b => a == b
  | _, _ => false

instance : BEq Term := ⟨beq⟩

def asValue? : Term → Option Value
  | .native value => some value
  | .symbolic _ => none

/-- The term as an expression; a value becomes a literal. -/
def toExpr : Term → Expr
  | .native value => .literal value
  | .symbolic expr => expr

/-- The names of the fields that the term refers to; a value refers to none. -/
def fieldReferences : Term → List String
  | .native _ => []
  | .symbolic expr => expr.fieldReferences

def display : Term → String
  | .native value => value.display
  | .symbolic expr => expr.display

/-- Applies a binary operator: two values are computed, anything else is combined. -/
def combine (operator : Operator) (lhs rhs : Term) : Except ArithmeticError Term :=
  match lhs, rhs with
  | .native a, .native b => (a.apply operator b).map .native
  | lhs, rhs => .ok (.symbolic (.combined operator lhs.toExpr rhs.toExpr))

def negate : Term → Except ArithmeticError Term
  | .native value => value.negate.map .native
  | .symbolic expr => .ok (.symbolic (.negated expr))

/-- Calls a function: computed if all arguments are values and the function is known to be computed
on them, else left as a call. -/
def call (name : String) (arguments : List Term) : Except ArithmeticError Term :=
  let call := Expr.function name (arguments.map toExpr)
  if arguments.all (·.asValue?.isSome) then
    (call.evaluate fun _ => none).map fun
      | some value => .native value
      | none => .symbolic call
  else .ok (.symbolic call)

end Term

end Hybrid
