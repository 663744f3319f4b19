import Hybrid.Value.Arithmetic

/-! # Expressions

A query expression is the symbolic side of a value: where an instance holds a number, the class has
a reference to the field that holds it. Expressions are compared by structure, literals as values.
-/

namespace Hybrid

/-- A query expression. -/
inductive Expr where
  | field (name : String)
  | literal (value : Value)
  | combined (operator : Operator) (lhs rhs : Expr)
  | negated (operand : Expr)
  | call (name : String) (arguments : List Expr)

/-- The sort of the outermost node of an expression. -/
inductive ExprKind where
  | field
  | literal
  | combined
  | negated
  | call
  deriving DecidableEq

namespace ExprKind

/-- Every sort of node, in order of declaration. -/
def all : List ExprKind :=
  [.field, .literal, .combined, .negated, .call]

def name : ExprKind → String
  | .field => "Field"
  | .literal => "Literal"
  | .combined => "Combined"
  | .negated => "Negate"
  | .call => "Func"

/-- Whether nodes of this sort may have children. -/
def isComposite : ExprKind → Bool
  | .combined | .negated | .call => true
  | .field | .literal => false

end ExprKind

namespace Expr

/-- A call of the function of that name; the name is written in capitals, ASCII letters alone. -/
def function (name : String) (arguments : List Expr) : Expr :=
  .call (String.ofList (name.toList.map Char.toUpper)) arguments

def kind : Expr → ExprKind
  | .field _ => .field
  | .literal _ => .literal
  | .combined _ _ _ => .combined
  | .negated _ => .negated
  | .call _ _ => .call

/-- The direct children, left to right. -/
def children : Expr → List Expr
  | .field _ | .literal _ => []
  | .combined _ lhs rhs => [lhs, rhs]
  | .negated operand => [operand]
  | .call _ arguments => arguments

/-- The name of the field that this node refers to. -/
def asField? : Expr → Option String
  | .field name => some name
  | _ => none

/-- The constant that this node is. -/
def asLiteral? : Expr → Option Value
  | .literal value => some value
  | _ => none

mutual

/-- Equality by structure. -/
def beq : Expr → Expr → Bool
  | .field a, .field b => a == b
  | .literal a, .literal b => a == b
  | .combined op a b, .combined op' a' b' => op == op' && beq a a' && beq b b'
  | .negated a, .negated b => beq a b
  | .call f as, .call g bs => f == g && beqList as bs
  | _, _ => false

/-- Equality by structure, argument by argument. -/
def beqList : List Expr → List Expr → Bool
  | [], [] => true
  | a :: as, b :: bs => beq a b && beqList as bs
  | _, _ => false

end

instance : BEq Expr := ⟨beq⟩

mutual

/-- The number of nodes. -/
def size : Expr → Nat
  | .field _ | .literal _ => 1
  | .combined _ lhs rhs => 1 + size lhs + size rhs
  | .negated operand => 1 + size operand
  | .call _ arguments => 1 + sizeList arguments

/-- The number of nodes of several expressions together. -/
def sizeList : List Expr → Nat
  | [] => 0
  | expr :: rest => size expr + sizeList rest

end

theorem size_pos (expr : Expr) : 0 < expr.size := by
  cases expr <;> simp only [size] <;> omega

theorem size_le_sizeList {child : Expr} {exprs : List Expr} (member : child ∈ exprs) :
    child.size ≤ sizeList exprs := by
  induction exprs with
  | nil => cases member
  | cons head rest ih =>
    simp only [sizeList]
    cases member with
    | head => omega
    | tail _ member => have := ih member; omega

theorem sizeList_append (first second : List Expr) :
    sizeList (first ++ second) = sizeList first + sizeList second := by
  induction first with
  | nil => simp [sizeList]
  | cons head rest ih => simp only [List.cons_append, sizeList, ih]; omega

/-- A node counts itself and its children. -/
theorem size_eq (expr : Expr) : expr.size = 1 + sizeList expr.children := by
  cases expr <;> simp only [size, children, sizeList] <;> omega

theorem size_lt_of_mem_children {child expr : Expr} (member : child ∈ expr.children) :
    child.size < expr.size := by
  have := size_le_sizeList member
  rw [size_eq expr]
  omega

end Expr

end Hybrid
