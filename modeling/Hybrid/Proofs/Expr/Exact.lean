import Hybrid.Proofs.Expr.Environment
import Hybrid.Proofs.Value.Exact

/-! # Exact values of expressions

What an expression without floats would give on a row if whole numbers had no bounds. Where
evaluation gives a value, it is this one.
-/

namespace Hybrid

/-- A literal that is no float. -/
def Expr.NotFloat : Expr → Prop
  | .literal value => ¬ value.IsFloat
  | .field _ | .combined _ _ _ | .negated _ | .call _ _ => True

/-- A row that holds no float. -/
def Row.Floatless (row : Row) : Prop :=
  ∀ name value, row name = some value → ¬ value.IsFloat

namespace Expr

/-- No literal of an expression is a float. -/
abbrev Floatless : Expr → Prop := Everywhere NotFloat

mutual

/-- The exact value of an expression on a row. -/
def exact (row : Row) : Expr → Exact
  | .field name => ((row name).map Exact.ofValue).getD .undefined
  | .literal value => .ofValue value
  | .combined operator lhs rhs => .apply operator (exact row lhs) (exact row rhs)
  | .negated operand => (exact row operand).negate
  | .call name arguments => .call name (exactList row arguments)

/-- The exact values of several expressions. -/
def exactList (row : Row) : List Expr → List Exact
  | [] => []
  | expr :: rest => exact row expr :: exactList row rest

end

theorem exactList_eq (row : Row) (exprs : List Expr) : exactList row exprs = exprs.map (exact row) := by
  induction exprs with
  | nil => rfl
  | cons expr rest ih => rw [exactList, ih, List.map_cons]

section Evaluation

variable {row : Row}

/-- Where evaluation gives a value, it is the exact one. -/
theorem value?_exact {expr : Expr} (floatless : expr.Floatless) (plain : row.Floatless)
    {value : Value} (evaluated : expr.evaluate row = .ok (some value)) :
    (expr.exact row).value? = some value := by
  rw [evaluate_eq] at evaluated
  induction expr generalizing value with
  | field name =>
    have found : row name = some value := Except.ok.inj evaluated
    rw [exact, found]
    exact Exact.value?_ofValue (plain name value found)
  | literal constant =>
    obtain rfl := Option.some.inj (Except.ok.inj evaluated)
    exact Exact.value?_ofValue floatless.here
  | combined operator lhs rhs left right =>
    obtain ⟨a, b, first, second, applied⟩ := Evaluated.of_combine_eq_some evaluated
    exact Exact.value?_apply (left (floatless.child (by simp [children])) first)
      (right (floatless.child (by simp [children])) second) applied
  | negated operand ih =>
    obtain ⟨a, present, negated⟩ := Evaluated.of_negate_eq_some evaluated
    exact Exact.value?_negate (ih (floatless.child (by simp [children])) present) negated
  | call name arguments each =>
    obtain ⟨values, present, called⟩ := Evaluated.of_call_eq_some evaluated
    rw [valuesIn_eq, List.forall₂_map_left_iff] at present
    have same : ∀ argument ∈ arguments, ∀ value,
        argument.valueIn (.ofRow row) = .ok (some value) → (argument.exact row).value? = some value :=
      fun argument member value => each argument member (floatless.child member)
    rw [exact, exactList_eq]
    refine Exact.value?_call ?_ called
    rw [List.forall₂_map_left_iff]
    exact ((List.forall₂_and_left _ _).mpr ⟨same, present⟩).imp fun _ value both => both.1 value both.2

end Evaluation

end Expr

end Hybrid
