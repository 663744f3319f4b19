import Hybrid.Proofs.Expr.Exact
import Hybrid.Proofs.Printing.Regrouping

/-! # What regrouping does to values

Regrouping moves an operator past the operators at the left end of its right operand. For sums and
texts this changes nothing. A product may be moved past products alone: past a quotient or a
remainder it is another operation on whole numbers.
-/

namespace Hybrid

namespace Reader.Chain

/-- An operator may be moved to the left end of a combination. -/
def Yields (operator : Operator) : Chain → Prop
  | .operand _ => True
  | .combined other lhs _ =>
    other.precedence = operator.precedence → operator.Passes other ∧ lhs.Yields operator

section Yields

variable {operator : Operator} {before chain : Chain}

theorem Grouped.yields (grouped : chain.Grouped (operator.precedence + 1)) :
    chain.Yields operator := by
  cases chain with
  | operand expr => trivial
  | combined other lhs rhs =>
    obtain ⟨tighter, -⟩ := grouped
    exact fun same => by omega

/-- Every combination yields to sums and texts. -/
theorem yields_of_ne_mul (associative : operator.isAssociative = true) (sum : operator ≠ .mul) :
    chain.Yields operator := by
  induction chain with
  | operand expr => trivial
  | combined other lhs rhs left right =>
    exact fun same => ⟨⟨associative, fun product => absurd product sum⟩, left⟩

theorem Yields.enclosed (wrapped : Bool) (yields : wrapped = false → chain.Yields operator) :
    (chain.enclosed wrapped).Yields operator := by
  cases wrapped with
  | true => trivial
  | false => exact yields rfl

theorem Yields.graft {other : Operator}
    (left : other.precedence = operator.precedence → operator.Passes other ∧ before.Yields operator)
    (right : chain.Yields operator) : (Chain.graft other before chain).Yields operator := by
  induction chain with
  | operand expr => exact left
  | combined inner lhs rhs ih _ =>
    unfold Chain.graft
    split
    · next same =>
      intro level
      obtain ⟨passes, rest⟩ := right level
      exact ⟨passes, ih rest⟩
    · exact left

theorem yields_graft_of_ne {other : Operator} (apart : other.precedence ≠ operator.precedence) :
    (Chain.graft other before chain).Yields operator := by
  cases chain with
  | operand expr => exact fun same => absurd same apart
  | combined inner lhs rhs =>
    unfold Chain.graft
    split
    · next level => exact fun same => absurd (level.symm.trans same) apart
    · exact fun same => absurd same apart

/-- Moving an operator to the left end of what yields to it keeps the exact value. -/
theorem exact_graft (row : Row) (yields : chain.Yields operator) :
    (Chain.graft operator before chain).toExpr.exact row =
      .apply operator (before.toExpr.exact row) (chain.toExpr.exact row) := by
  induction chain with
  | operand expr => rfl
  | combined other lhs rhs ih _ =>
    unfold Chain.graft
    split
    · next same =>
      obtain ⟨passes, rest⟩ := yields same
      rw [toExpr, Expr.exact, ih rest]
      exact (Exact.apply_regroup passes same _ _ _).symm
    · rfl

end Yields

/-- Grafting puts the operands of both together. -/
theorem floatless_graft {operator : Operator} {before chain : Chain}
    (left : before.toExpr.Floatless) (right : chain.toExpr.Floatless) :
    (graft operator before chain).toExpr.Floatless := by
  induction chain with
  | operand expr => exact Expr.Everywhere.combined trivial left right
  | combined other lhs rhs ih _ =>
    unfold graft
    split
    · exact Expr.Everywhere.combined trivial (ih (right.child (by simp [toExpr, Expr.children])))
        (right.child (by simp [toExpr, Expr.children]))
    · exact Expr.Everywhere.combined trivial left right

end Reader.Chain

namespace Expr

open Reader (Chain)

/-- The operators as strong as `*` at the left end of an expression, from left to right. -/
def spine : Expr → List Operator
  | .combined operator lhs _ => if operator.precedence = 3 then lhs.spine ++ [operator] else []
  | .field _ | .literal _ | .negated _ | .call _ _ => []

theorem precedence_of_mem_spine {expr : Expr} {operator : Operator} (member : operator ∈ expr.spine) :
    operator.precedence = 3 := by
  induction expr with
  | combined other lhs rhs left _ =>
    unfold spine at member
    split at member
    · next same =>
      rcases List.mem_append.mp member with inside | last
      · exact left inside
      · rwa [List.mem_singleton.mp last]
    · cases member
  | _ => cases member

/-- No quotient or remainder stands at the left end of an expression. -/
def Undivided (expr : Expr) : Prop :=
  ∀ operator ∈ expr.spine, operator = .mul

theorem undivided_mul {lhs rhs : Expr} : (combined .mul lhs rhs).Undivided ↔ lhs.Undivided := by
  have longer : (combined .mul lhs rhs).spine = lhs.spine ++ [.mul] := if_pos rfl
  unfold Undivided
  rw [longer, List.forall_mem_append]
  simp

/-- A product that is the right factor of a product has no quotient or remainder at its left end. -/
def KeepsFactors : Expr → Prop
  | .combined .mul _ (.combined .mul lhs _) => lhs.Undivided
  | _ => True

/-- The right operand of an operator yields to it, as it is read, if it does so as a product. -/
private theorem right_yields {operator : Operator} {lhs rhs : Expr}
    (keeps : (combined operator lhs rhs).KeepsFactors)
    (product : rhs.Undivided → rhs.opened.Yields .mul) :
    (rhs.opened.enclosed (needsParentheses rhs operator true)).Yields operator := by
  apply Chain.Yields.enclosed
  intro bare
  by_cases same : rhs.precedence = operator.precedence
  · obtain ⟨associative, inner, outer, rfl⟩ := eq_combined_of_bare bare same
    by_cases factor : operator = .mul
    · subst factor
      exact product (undivided_mul.mpr keeps)
    · exact Chain.yields_of_ne_mul associative factor
  · have tight := precedence_le_of_bare bare
    exact (rhs.opened_grouped (by omega)).yields

/-- A product without quotients and remainders at its left end yields to a factor. -/
theorem opened_yields {expr : Expr} (keeps : expr.Everywhere KeepsFactors)
    (undivided : expr.Undivided) : expr.opened.Yields .mul := by
  induction expr with
  | combined operator lhs rhs left right =>
    unfold opened
    cases operator with
    | mul =>
      apply Chain.Yields.graft
      · refine fun _ => ⟨⟨rfl, id⟩, .enclosed _ fun bare => ?_⟩
        exact left (keeps.child (by simp [children])) (undivided_mul.mp undivided)
      · exact right_yields keeps.here (right (keeps.child (by simp [children])))
    | div => exact absurd (undivided .div (by simp [spine, Operator.precedence])) (by decide)
    | mod => exact absurd (undivided .mod (by simp [spine, Operator.precedence])) (by decide)
    | _ => exact Chain.yields_graft_of_ne (by decide)
  | _ => unfold opened; trivial

/-- Regrouping keeps the exact value of an expression that keeps its factors together. -/
theorem exact_regrouped {expr : Expr} (keeps : expr.Everywhere KeepsFactors) (row : Row) :
    expr.regrouped.exact row = expr.exact row := by
  induction expr with
  | field name => unfold regrouped opened; rfl
  | literal value => unfold regrouped opened; rfl
  | combined operator lhs rhs left right =>
    have first : lhs.opened.toExpr.exact row = lhs.exact row :=
      left (keeps.child (by simp [children]))
    have second : rhs.opened.toExpr.exact row = rhs.exact row :=
      right (keeps.child (by simp [children]))
    have yields := right_yields keeps.here (opened_yields (keeps.child (by simp [children])))
    rw [regrouped, opened, Chain.exact_graft row yields, Chain.toExpr_enclosed,
      Chain.toExpr_enclosed, first, second, exact]
  | negated operand ih =>
    have same : operand.opened.toExpr.exact row = operand.exact row :=
      ih (keeps.child (by simp [children]))
    rw [regrouped, opened, Chain.toExpr, exact, same, exact]
  | call name arguments each =>
    rw [regrouped, opened, Chain.toExpr, exact, exact, exactList_eq, exactList_eq, regroupedList_eq,
      List.map_map]
    congr 1
    exact List.map_congr_left fun argument member => each argument member (keeps.child member)

/-- Regrouping makes no literals. -/
theorem floatless_regrouped {expr : Expr} (floatless : expr.Floatless) : expr.regrouped.Floatless := by
  induction expr with
  | field name => unfold regrouped opened; exact floatless
  | literal value => unfold regrouped opened; exact floatless
  | combined operator lhs rhs left right =>
    rw [regrouped, opened]
    apply Chain.floatless_graft
    · rw [Chain.toExpr_enclosed]
      exact left (floatless.child (by simp [children]))
    · rw [Chain.toExpr_enclosed]
      exact right (floatless.child (by simp [children]))
  | negated operand ih =>
    rw [regrouped, opened]
    refine .intro trivial fun child member => ?_
    obtain rfl := List.mem_singleton.mp member
    exact ih (floatless.child (by simp [children]))
  | call name arguments each =>
    rw [regrouped, opened, regroupedList_eq]
    refine .intro trivial fun child member => ?_
    obtain ⟨argument, present, rfl⟩ := List.mem_map.mp member
    exact each argument present (floatless.child present)

/-- Where both have a value, an expression that keeps its factors together and its regrouping have
the same one. -/
theorem evaluate_regrouped {expr : Expr} (floatless : expr.Floatless)
    (keeps : expr.Everywhere KeepsFactors) {row : Row} (plain : row.Floatless) {value other : Value}
    (evaluated : expr.evaluate row = .ok (some value))
    (regroup : expr.regrouped.evaluate row = .ok (some other)) : value = other := by
  have first := value?_exact floatless plain evaluated
  have second := value?_exact (floatless_regrouped floatless) plain regroup
  rw [exact_regrouped keeps, first] at second
  exact Option.some.inj second

end Expr

end Hybrid
