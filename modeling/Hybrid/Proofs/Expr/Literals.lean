import Hybrid.Expr.Printer
import Hybrid.Proofs.Expr.Structure

/-! # Expressions up to their literals

An expression in which every literal is another one has the same shape: the same operators, fields
and calls, and parentheses in the same places.
-/

namespace Hybrid

namespace Expr

mutual

/-- Puts the meaning of each literal in its place. -/
def withLiterals (meaning : Value → Value) : Expr → Expr
  | .field name => .field name
  | .literal value => .literal (meaning value)
  | .combined operator lhs rhs =>
    .combined operator (lhs.withLiterals meaning) (rhs.withLiterals meaning)
  | .negated operand => .negated (operand.withLiterals meaning)
  | .call name arguments => .call name (withLiteralsList meaning arguments)

def withLiteralsList (meaning : Value → Value) : List Expr → List Expr
  | [] => []
  | argument :: rest => argument.withLiterals meaning :: withLiteralsList meaning rest

end

variable {meaning : Value → Value} {expr : Expr}

theorem withLiteralsList_eq (exprs : List Expr) :
    withLiteralsList meaning exprs = exprs.map (withLiterals meaning) := by
  induction exprs with
  | nil => rfl
  | cons expr rest ih => rw [withLiteralsList, ih, List.map_cons]

@[simp] theorem children_withLiterals :
    (expr.withLiterals meaning).children = expr.children.map (withLiterals meaning) := by
  cases expr with
  | call name arguments => exact withLiteralsList_eq arguments
  | _ => simp [withLiterals, children]

@[simp] theorem precedence_withLiterals :
    (expr.withLiterals meaning).precedence = expr.precedence := by
  cases expr <;> simp [withLiterals, precedence]

@[simp] theorem needsParentheses_withLiterals (parent : Operator) (onRight : Bool) :
    needsParentheses (expr.withLiterals meaning) parent onRight =
      needsParentheses expr parent onRight := by
  unfold needsParentheses
  rw [precedence_withLiterals]
  cases expr <;> rfl

@[simp] theorem withLiterals_id : expr.withLiterals id = expr := by
  induction expr with
  | field name => rfl
  | literal value => rfl
  | combined operator lhs rhs left right => rw [withLiterals, left, right]
  | negated operand ih => rw [withLiterals, ih]
  | call name arguments each =>
    rw [withLiterals, withLiteralsList_eq, List.map_congr_left each, List.map_id']

/-- What does not look at literals holds of an expression with other ones. -/
theorem Everywhere.withLiterals {holds : Expr → Prop}
    (shape : ∀ expr, holds expr → holds (expr.withLiterals meaning))
    (everywhere : expr.Everywhere holds) : (expr.withLiterals meaning).Everywhere holds := by
  induction everywhere with
  | intro here inside ih =>
    refine .intro (shape _ here) ?_
    rw [children_withLiterals, List.forall_mem_map]
    exact ih

end Expr

end Hybrid
