import Hybrid.Proofs.Printing.Reader

/-! # What the tokens of an expression are read as

Parentheses keep an operand together, and so does an operator that binds tighter. A right operand
that stands bare beside an operator as strong as its own is taken apart: the operator before it goes
to its left end. What is read is so the expression itself, up to this regrouping.
-/

namespace Hybrid

namespace Reader

namespace Chain

/-- The operand at the left end. -/
def first : Chain → Expr
  | .operand expr => expr
  | .combined _ lhs _ => lhs.first

/-- The operators from left to right, each with the operand behind it. -/
def rest : Chain → List (Operator × Expr)
  | .operand _ => []
  | .combined operator lhs rhs => lhs.rest ++ (operator, rhs.first) :: rhs.rest

/-- No operator binds looser than `bound`, and operators of one strength associate to the left. -/
def Grouped (bound : Nat) : Chain → Prop
  | .operand _ => True
  | .combined operator lhs rhs =>
    bound ≤ operator.precedence ∧ lhs.Grouped operator.precedence ∧
      rhs.Grouped (operator.precedence + 1)

/-- Puts a combination and an operator before a combination: the operator takes from its left end
what is not held by an operator that binds as tight. -/
def graft (operator : Operator) (before : Chain) : Chain → Chain
  | .operand expr => .combined operator before (.operand expr)
  | .combined other lhs rhs =>
    if other.precedence = operator.precedence then
      .combined other (graft operator before lhs) rhs
    else .combined operator before (.combined other lhs rhs)

/-- A combination that stands in parentheses, if need be, is one operand. -/
def enclosed (wrapped : Bool) (chain : Chain) : Chain :=
  if wrapped then .operand chain.toExpr else chain

@[simp] theorem toExpr_enclosed (wrapped : Bool) (chain : Chain) :
    (chain.enclosed wrapped).toExpr = chain.toExpr := by
  cases wrapped <;> rfl

section Graft

variable {operator : Operator} {before chain : Chain}

@[simp] theorem first_graft : (graft operator before chain).first = before.first := by
  induction chain with
  | operand expr => rfl
  | combined other lhs rhs left right =>
    unfold graft
    split
    · exact left
    · rfl

@[simp] theorem rest_graft :
    (graft operator before chain).rest = before.rest ++ (operator, chain.first) :: chain.rest := by
  induction chain with
  | operand expr => rfl
  | combined other lhs rhs left right =>
    unfold graft
    split
    · rw [rest, left]
      simp [rest, first]
    · rfl

end Graft

namespace Grouped

variable {bound : Nat} {chain : Chain}

theorem mono {lower : Nat} (grouped : chain.Grouped bound) (below : lower ≤ bound) :
    chain.Grouped lower := by
  cases chain with
  | operand expr => trivial
  | combined operator lhs rhs =>
    obtain ⟨tight, inside⟩ := grouped
    exact ⟨by omega, inside⟩

theorem graft {operator : Operator} {before : Chain} (left : before.Grouped operator.precedence)
    (right : chain.Grouped operator.precedence) :
    (graft operator before chain).Grouped operator.precedence := by
  induction chain with
  | operand expr => exact ⟨Nat.le_refl _, left, trivial⟩
  | combined other lhs rhs ihLeft ihRight =>
    obtain ⟨tight, leftmost, rightmost⟩ := right
    unfold Chain.graft
    split
    · next same => exact ⟨tight, same ▸ ihLeft (same ▸ leftmost), rightmost⟩
    · next other => exact ⟨Nat.le_refl _, left, by omega, leftmost, rightmost⟩

theorem enclosed (wrapped : Bool) (grouped : wrapped = false → chain.Grouped bound) :
    (chain.enclosed wrapped).Grouped bound := by
  cases wrapped with
  | true => trivial
  | false => exact grouped rfl

/-- No operator inside binds looser than the bound. -/
theorem le_of_mem_rest (grouped : chain.Grouped bound) {next : Operator × Expr}
    (member : next ∈ chain.rest) : bound ≤ next.1.precedence := by
  induction chain generalizing bound with
  | operand expr => cases member
  | combined operator lhs rhs left right =>
    obtain ⟨tight, leftmost, rightmost⟩ := grouped
    rw [rest, List.mem_append, List.mem_cons] at member
    rcases member with inside | rfl | inside
    · exact Nat.le_trans tight (left leftmost inside)
    · exact tight
    · have tighter := right rightmost inside
      omega

end Grouped

/-- What binds tighter than an operator is not taken apart by it. -/
theorem graft_of_grouped {operator : Operator} {before chain : Chain}
    (grouped : chain.Grouped (operator.precedence + 1)) :
    graft operator before chain = .combined operator before chain := by
  cases chain with
  | operand expr => rfl
  | combined other lhs rhs =>
    obtain ⟨tighter, -⟩ := grouped
    unfold graft
    rw [if_neg (by omega)]

/-- An operator that binds no tighter than all before takes the whole of it. -/
theorem extend_of_grouped {operator : Operator} {chain : Chain}
    (grouped : chain.Grouped operator.precedence) (operand : Expr) :
    chain.extend operator operand = .combined operator chain (.operand operand) := by
  cases chain with
  | operand expr => rfl
  | combined other lhs rhs =>
    obtain ⟨tight, -⟩ := grouped
    unfold extend
    rw [if_neg (by omega)]

theorem extendAll_append (chain : Chain) (before behind : List (Operator × Expr)) :
    chain.extendAll (before ++ behind) = (chain.extendAll before).extendAll behind :=
  List.foldl_append

/-- Operators that bind tighter than the one at the root go to its right operand. -/
theorem extendAll_combined {operator : Operator} {behind : List (Operator × Expr)}
    (tighter : ∀ next ∈ behind, operator.precedence < next.1.precedence) (lhs rhs : Chain) :
    (combined operator lhs rhs).extendAll behind = .combined operator lhs (rhs.extendAll behind) := by
  induction behind generalizing rhs with
  | nil => rfl
  | cons next behind ih =>
    have taken : (combined operator lhs rhs).extend next.1 next.2 =
        .combined operator lhs (rhs.extend next.1 next.2) := by
      rw [extend, if_pos (tighter next (List.mem_cons_self ..))]
    change ((combined operator lhs rhs).extend next.1 next.2).extendAll behind = _
    rw [taken, ih fun next member => tighter next (List.mem_cons_of_mem _ member)]
    rfl

/-- A grouped combination is read from its operands and operators. -/
theorem extendAll_rest {bound : Nat} {chain : Chain} (grouped : chain.Grouped bound) :
    (operand chain.first).extendAll chain.rest = chain := by
  induction chain generalizing bound with
  | operand expr => rfl
  | combined operator lhs rhs left right =>
    obtain ⟨-, leftmost, rightmost⟩ := grouped
    calc (operand lhs.first).extendAll (lhs.rest ++ (operator, rhs.first) :: rhs.rest)
        = (((operand lhs.first).extendAll lhs.rest).extend operator rhs.first).extendAll rhs.rest :=
          extendAll_append ..
      _ = (combined operator lhs (.operand rhs.first)).extendAll rhs.rest := by
          rw [left leftmost, extend_of_grouped leftmost]
      _ = .combined operator lhs ((operand rhs.first).extendAll rhs.rest) :=
          extendAll_combined (fun next member => rightmost.le_of_mem_rest member) ..
      _ = .combined operator lhs rhs := by rw [right rightmost]

end Chain

namespace Place

/-- The combination as it is with another one read behind it. -/
def put (place : Place) (chain : Chain) : Chain :=
  (place.fill chain.first).extendAll chain.rest

theorem put_start {bound : Nat} {chain : Chain} (grouped : chain.Grouped bound) :
    start.put chain = chain :=
  Chain.extendAll_rest grouped

/-- What is grafted is read after the operator. -/
theorem put_graft (place : Place) (operator : Operator) (before chain : Chain) :
    place.put (Chain.graft operator before chain) =
      put ⟨some (place.put before, operator), 0⟩ chain := by
  unfold put
  rw [Chain.first_graft, Chain.rest_graft, Chain.extendAll_append]
  rfl

end Place

end Reader

namespace Expr

open Reader (Chain Place)

mutual

/-- The combination that the tokens of an expression are read as. -/
def opened : Expr → Chain
  | .field name => .operand (.field name)
  | .literal value => .operand (.literal value)
  | .combined operator lhs rhs =>
    .graft operator (lhs.opened.enclosed (needsParentheses lhs operator false))
      (rhs.opened.enclosed (needsParentheses rhs operator true))
  | .negated operand => .operand (.negated operand.opened.toExpr)
  | .call name arguments => .operand (.call name (regroupedList arguments))

/-- The expressions that the tokens of arguments are read as. -/
def regroupedList : List Expr → List Expr
  | [] => []
  | argument :: rest => argument.opened.toExpr :: regroupedList rest

end

/-- The expression that the tokens of an expression are read as. -/
def regrouped (expr : Expr) : Expr :=
  expr.opened.toExpr

theorem regroupedList_eq (exprs : List Expr) : regroupedList exprs = exprs.map regrouped := by
  induction exprs with
  | nil => rfl
  | cons expr rest ih => rw [regroupedList, ih, List.map_cons, regrouped]

/-- What stands bare beside an operator binds at least as tight. -/
theorem precedence_le_of_bare {operand : Expr} {parent : Operator} {onRight : Bool}
    (bare : needsParentheses operand parent onRight = false) :
    parent.precedence ≤ operand.precedence := by
  unfold needsParentheses at bare
  split at bare
  · simpa using bare
  · next same => omega

/-- A right operand that stands bare beside an operator as strong as its own has the same one. -/
theorem eq_combined_of_bare {operand : Expr} {parent : Operator}
    (bare : needsParentheses operand parent true = false)
    (same : operand.precedence = parent.precedence) :
    parent.isAssociative = true ∧ ∃ lhs rhs, operand = .combined parent lhs rhs := by
  unfold needsParentheses at bare
  rw [if_neg (by omega)] at bare
  cases operand with
  | combined operator lhs rhs =>
    have kept : parent.isAssociative = true ∧ operator = parent := by simpa using bare
    obtain ⟨associative, rfl⟩ := kept
    exact ⟨associative, lhs, rhs, rfl⟩
  | field name => cases parent <;> cases same
  | literal value => cases parent <;> cases same
  | negated operand => cases parent <;> cases same
  | call name arguments => cases parent <;> cases same

/-- Nothing in the combination binds looser than the expression. -/
theorem opened_grouped (expr : Expr) {bound : Nat} (loose : bound ≤ expr.precedence) :
    expr.opened.Grouped bound := by
  induction expr generalizing bound with
  | combined operator lhs rhs left right =>
    have grouped : (opened (.combined operator lhs rhs)).Grouped operator.precedence := by
      unfold opened
      apply Chain.Grouped.graft
      · exact .enclosed _ fun bare => left (precedence_le_of_bare bare)
      · exact .enclosed _ fun bare => right (precedence_le_of_bare bare)
    exact grouped.mono loose
  | _ => unfold opened; trivial

/-- What binds tighter than every operator is one operand. -/
theorem opened_of_tight {expr : Expr} (tight : 4 ≤ expr.precedence) :
    expr.opened = .operand expr.regrouped := by
  cases expr with
  | combined operator lhs rhs =>
    have loose : operator.precedence ≤ 3 := by cases operator <;> decide
    exact absurd tight (by simp only [precedence]; omega)
  | _ => unfold regrouped opened; rfl

end Expr

end Hybrid
