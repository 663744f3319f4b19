import Mathlib.Tactic.ByContra
import Hybrid.Expr.Basic

/-! # The structure of expressions

Induction on expressions, whose calls have lists of arguments, and what is inside an expression.
-/

namespace Hybrid

/-- Induction on the structure of an expression, argument by argument. -/
@[elab_as_elim, induction_eliminator]
theorem Expr.induction {motive : Expr → Prop}
    (field : ∀ name, motive (.field name))
    (literal : ∀ value, motive (.literal value))
    (combined : ∀ operator lhs rhs, motive lhs → motive rhs → motive (.combined operator lhs rhs))
    (negated : ∀ operand, motive operand → motive (.negated operand))
    (call : ∀ name arguments, (∀ argument ∈ arguments, motive argument) →
      motive (.call name arguments))
    (expr : Expr) : motive expr :=
  Expr.rec (motive_1 := motive) (motive_2 := fun arguments => ∀ argument ∈ arguments, motive argument)
    field literal combined negated call
    (fun _ member => nomatch member)
    (fun _ _ first rest => List.forall_mem_cons.mpr ⟨first, rest⟩)
    expr

namespace Expr

/-- Induction from the children of an expression to the expression. -/
@[elab_as_elim]
theorem induction_children {motive : Expr → Prop}
    (step : ∀ expr, (∀ child ∈ expr.children, motive child) → motive expr) (expr : Expr) :
    motive expr := by
  induction expr with
  | field name => exact step _ (by simp [children])
  | literal value => exact step _ (by simp [children])
  | combined operator lhs rhs left right => exact step _ (by simp [children, left, right])
  | negated operand ih => exact step _ (by simp [children, ih])
  | call name arguments each => exact step _ each

/-- An expression is inside another one, or it is that one. -/
inductive Within (inner : Expr) : Expr → Prop
  | self : Within inner inner
  | child {outer child : Expr} : child ∈ outer.children → Within inner child → Within inner outer

/-- What is inside an expression is the expression, or it is inside a child of it. -/
theorem within_iff {inner expr : Expr} :
    Within inner expr ↔ inner = expr ∨ ∃ child ∈ expr.children, Within inner child := by
  constructor
  · intro within
    cases within with
    | self => exact .inl rfl
    | child member within => exact .inr ⟨_, member, within⟩
  · rintro (rfl | ⟨child, member, within⟩)
    · exact .self
    · exact .child member within

section Within

variable {inner : Expr}

@[simp] theorem within_field {name : String} :
    Within inner (.field name) ↔ inner = .field name := by
  simp [@within_iff inner (.field name), children]

@[simp] theorem within_literal {value : Value} :
    Within inner (.literal value) ↔ inner = .literal value := by
  simp [@within_iff inner (.literal value), children]

@[simp] theorem within_combined {operator : Operator} {lhs rhs : Expr} :
    Within inner (.combined operator lhs rhs) ↔
      inner = .combined operator lhs rhs ∨ Within inner lhs ∨ Within inner rhs := by
  simp [@within_iff inner (.combined operator lhs rhs), children]

@[simp] theorem within_negated {operand : Expr} :
    Within inner (.negated operand) ↔ inner = .negated operand ∨ Within inner operand := by
  simp [@within_iff inner (.negated operand), children]

@[simp] theorem within_call {name : String} {arguments : List Expr} :
    Within inner (.call name arguments) ↔
      inner = .call name arguments ∨ ∃ argument ∈ arguments, Within inner argument :=
  within_iff

end Within

/-- Something holds of an expression and of everything inside it. -/
inductive Everywhere (holds : Expr → Prop) : Expr → Prop
  | intro {expr : Expr} : holds expr → (∀ child ∈ expr.children, Everywhere holds child) →
    Everywhere holds expr

namespace Everywhere

variable {holds : Expr → Prop} {expr : Expr}

theorem here (everywhere : Everywhere holds expr) : holds expr := by
  obtain ⟨here, -⟩ := everywhere
  exact here

theorem child (everywhere : Everywhere holds expr) {child : Expr} (member : child ∈ expr.children) :
    Everywhere holds child := by
  obtain ⟨-, inside⟩ := everywhere
  exact inside child member

theorem mono {other : Expr → Prop} (everywhere : Everywhere holds expr)
    (weaker : ∀ expr, holds expr → other expr) : Everywhere other expr := by
  induction everywhere with
  | intro here inside ih => exact .intro (weaker _ here) ih

theorem leaf (here : holds expr) (childless : expr.children = []) : Everywhere holds expr :=
  .intro here fun child member => by rw [childless] at member; cases member

theorem combined {operator : Operator} {lhs rhs : Expr} (here : holds (.combined operator lhs rhs))
    (left : Everywhere holds lhs) (right : Everywhere holds rhs) :
    Everywhere holds (.combined operator lhs rhs) :=
  .intro here (by simp [children, left, right])

/-- What holds of all that is inside an expression holds everywhere in it. -/
theorem of_within (inside : ∀ inner, Within inner expr → holds inner) : Everywhere holds expr := by
  induction expr using induction_children with
  | step expr ih =>
    refine .intro (inside expr .self) fun child member => ?_
    exact ih child member fun inner within => inside inner (.child member within)

/-- Where something does not hold everywhere, there is a place. -/
theorem exists_of_not (fails : ¬ Everywhere holds expr) :
    ∃ inner, Within inner expr ∧ ¬ holds inner := by
  by_contra nowhere
  refine fails (of_within fun inner within => ?_)
  by_contra here
  exact nowhere ⟨inner, within, here⟩

end Everywhere

end Expr

end Hybrid
