import Hybrid.Proofs.Term.Folding
import Hybrid.Wrapper

/-! # Inlining

Inlining replaces the names of dependencies by their inlined expressions, and nothing else. So the
value of an inlined wrapper is that of its expression in an environment where the dependencies stand
for the values of their own inlined expressions.
-/

namespace Hybrid.Wrapper

variable {wrapper : Wrapper} {environment : Environment}

/-- What a name of the expression of a wrapper is replaced by. -/
def inlined (wrapper : Wrapper) (name : String) : Option Expr :=
  (wrapper.dependencies.lookup name).map (·.inline.toExpr)

theorem toExpr_inlineWith (expression : Term) (dependencies : List (String × Term)) :
    (inlineWith expression dependencies).toExpr =
      expression.toExpr.substitute fun name => (dependencies.lookup name).map Term.toExpr := by
  cases expression with
  | native value => exact (Expr.substitute_literal _ value).symm
  | symbolic expr => rfl

/-- Inlining is the substitution of the dependencies in the expression. -/
theorem toExpr_inline (wrapper : Wrapper) :
    wrapper.inline.toExpr = wrapper.expression.toExpr.substitute wrapper.inlined := by
  obtain ⟨stamp, expression, name, owner, ownerName, dependencies⟩ := wrapper
  rw [inline, toExpr_inlineWith]
  refine Expr.substitute_congr fun field occurs => ?_
  rw [lookup_inlineDependencies (Term.mem_fieldReferences.mpr occurs), Option.map_map]
  rfl

/-- An inlined expression refers to what its dependencies do when they are inlined, and to the names
that have no dependency. -/
theorem mem_occurrences_inline {name : String} :
    name ∈ wrapper.inline.toExpr.occurrences ↔
      ∃ field ∈ wrapper.expression.occurrences,
        match wrapper.dependencies.lookup field with
        | some sibling => name ∈ sibling.inline.toExpr.occurrences
        | none => name = field := by
  rw [toExpr_inline, Expr.mem_occurrences_substitute]
  refine exists_congr fun field => and_congr_right fun _ => ?_
  unfold inlined
  cases wrapper.dependencies.lookup field with
  | some sibling => rfl
  | none => exact List.mem_singleton

/-- A dependency stands for its own inlined expression, any other name for itself. -/
theorem valueIn_inline (wrapper : Wrapper) :
    wrapper.inline.toExpr.valueIn environment =
      wrapper.expression.toExpr.valueIn fun name =>
        match wrapper.dependencies.lookup name with
        | some sibling => sibling.inline.toExpr.valueIn environment
        | none => environment name := by
  rw [toExpr_inline, Expr.valueIn_substitute]
  congr 1
  funext name
  unfold inlined
  cases wrapper.dependencies.lookup name <;> rfl

/-- Wrappers of one expression whose dependencies inline alike inline alike. -/
theorem inline_congr {other : Wrapper} (same : wrapper.expression = other.expression)
    (siblings : ∀ name ∈ wrapper.expression.occurrences,
      (wrapper.dependencies.lookup name).map inline = (other.dependencies.lookup name).map inline) :
    wrapper.inline = other.inline := by
  obtain ⟨stamp, expression, name, owner, ownerName, dependencies⟩ := wrapper
  obtain ⟨stamp', expression', name', owner', ownerName', dependencies'⟩ := other
  cases same
  rw [inline, inline]
  cases shape : expression with
  | native value => rfl
  | symbolic expr =>
    unfold inlineWith
    dsimp only
    congr 1
    refine Expr.substitute_congr fun field occurs => ?_
    have wanted : field ∈ (Term.symbolic expr).fieldReferences := Term.mem_fieldReferences.mpr occurs
    rw [lookup_inlineDependencies wanted, lookup_inlineDependencies wanted]
    exact congrArg (Option.map Term.toExpr) (siblings field (shape ▸ occurs))

end Hybrid.Wrapper
