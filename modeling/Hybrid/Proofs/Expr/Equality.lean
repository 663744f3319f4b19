import Hybrid.Proofs.Expr.Environment
import Hybrid.Proofs.Value.Equality
import Hybrid.Proofs.Walk.Places

/-! # Expressions that are equal

Equal expressions have the same nodes, literals being compared as values. So two literals that are
equal may be zeros of opposite signs. Evaluation carries such a pair along: each operation gives the
same error on both or results that are equal again, but for a concatenation, whose text shows the
sign. Equal expressions have equal outcomes on a row where no concatenation meets such a pair; where
one does, its two texts are different.
-/

namespace Hybrid

open Value (Agrees)

namespace Evaluated

variable {left left' right right' operand operand' : Evaluated} {arguments arguments' : List Evaluated}

/-- Outcomes that agree: the same error, no value, or values that agree. -/
abbrev Agree (first second : Evaluated) : Prop :=
  Matches (Option.Rel Agrees) first second

/-- Two concatenations of these operands show opposite zeros in one place. -/
def Clash (left left' right right' : Evaluated) : Prop :=
  ∃ a a' b b', left = .ok (some a) ∧ left' = .ok (some a') ∧ right = .ok (some b) ∧
    right' = .ok (some b') ∧ Value.Clash a a' b b'

namespace Agree

theorem combine {operator : Operator} (first : Agree left left') (second : Agree right right')
    (joined : operator = .concat → ¬ Clash left left' right right') :
    Agree (Evaluated.combine operator left right) (Evaluated.combine operator left' right') := by
  cases first with
  | error => exact .error _
  | ok first =>
    cases second with
    | error => exact .error _
    | ok second =>
      cases first with
      | none => exact .ok .none
      | @some a a' first =>
        cases second with
        | none => exact .ok .none
        | @some b b' second =>
          have applied : Matches Agrees (a.apply operator b) (a'.apply operator b') := by
            by_cases concat : operator = .concat
            · subst concat
              exact (first.apply_concat_iff second).mpr fun clash =>
                joined rfl ⟨a, a', b, b', rfl, rfl, rfl, rfl, clash⟩
            · exact first.apply concat second
          exact applied.map fun _ _ => .some

theorem negate (agree : Agree operand operand') :
    Agree (Evaluated.negate operand) (Evaluated.negate operand') := by
  refine agree.bind fun a? b? values => ?_
  cases values with
  | none => exact .ok .none
  | some agrees => exact agrees.negate.map fun _ _ => .some

theorem all (each : List.Forall₂ Agree arguments arguments') :
    Matches (Option.Rel (List.Forall₂ Agrees)) (Evaluated.all arguments)
      (Evaluated.all arguments') := by
  induction each with
  | nil => exact .ok (.some .nil)
  | cons first _ rest =>
    refine first.bind fun a? b? values => ?_
    cases values with
    | none => exact .ok .none
    | some agrees =>
      refine rest.bind fun as? bs? others => .ok ?_
      cases others with
      | none => exact .none
      | some others => exact .some (.cons agrees others)

theorem call {name : String} (each : List.Forall₂ Agree arguments arguments') :
    Agree (Evaluated.call name arguments) (Evaluated.call name arguments') := by
  refine (all each).bind fun values? values'? values => ?_
  cases values with
  | none => exact .ok .none
  | some values => exact .ok (Agrees.callValue? name values)

end Agree

end Evaluated

namespace Expr

/-- What the equality of two expressions says about their outermost nodes and their children. -/
inductive Equals : Expr → Expr → Prop
  | field (name : String) : Equals (.field name) (.field name)
  | literal {a b : Value} : (a == b) = true → Equals (.literal a) (.literal b)
  | combined {operator : Operator} {lhs rhs lhs' rhs' : Expr} : (lhs == lhs') = true →
    (rhs == rhs') = true → Equals (.combined operator lhs rhs) (.combined operator lhs' rhs')
  | negated {operand operand' : Expr} : (operand == operand') = true →
    Equals (.negated operand) (.negated operand')
  | call {name : String} {arguments arguments' : List Expr} :
    List.Forall₂ (fun argument other => (argument == other) = true) arguments arguments' →
    Equals (.call name arguments) (.call name arguments')

theorem beqList_iff {exprs others : List Expr} :
    beqList exprs others = true ↔
      List.Forall₂ (fun expr other => (expr == other) = true) exprs others := by
  induction exprs generalizing others with
  | nil => cases others <;> simp [beqList]
  | cons expr rest ih =>
    cases others with
    | nil => simp [beqList]
    | cons other others =>
      rw [List.forall₂_cons, ← ih]
      exact Bool.and_eq_true_iff

theorem beq_iff_equals {expr other : Expr} : (expr == other) = true ↔ Equals expr other := by
  constructor
  · intro equal
    cases expr <;> cases other <;> try cases equal
    · next a b =>
      have same : (a == b) = true := equal
      obtain rfl := eq_of_beq same
      exact .field a
    · exact .literal equal
    · next op lhs rhs op' lhs' rhs' =>
      have parts : ((op == op') && (lhs == lhs') && (rhs == rhs')) = true := equal
      simp only [Bool.and_eq_true, beq_iff_eq] at parts
      obtain ⟨⟨rfl, left⟩, right⟩ := parts
      exact .combined left right
    · exact .negated equal
    · next name arguments name' arguments' =>
      have parts : ((name == name') && beqList arguments arguments') = true := equal
      simp only [Bool.and_eq_true, beq_iff_eq, beqList_iff] at parts
      obtain ⟨rfl, each⟩ := parts
      exact .call each
  · intro equals
    cases equals with
    | field name => exact beq_self_eq_true name
    | literal equal => exact equal
    | @combined op lhs rhs lhs' rhs' left right =>
      change ((op == op) && (lhs == lhs') && (rhs == rhs')) = true
      rw [beq_self_eq_true, left, right]
      rfl
    | negated equal => exact equal
    | @call name arguments arguments' each =>
      change ((name == name) && beqList arguments arguments') = true
      rw [beq_self_eq_true, beqList_iff.mpr each]
      rfl

/-- On a row, no two concatenations at the same place of the expressions show opposite zeros. -/
def JoinAlike (row : Row) (expr other : Expr) : Prop :=
  ∀ place lhs rhs lhs' rhs',
    expr.at? place = some (.combined .concat lhs rhs) →
    other.at? place = some (.combined .concat lhs' rhs') →
      ¬ Evaluated.Clash (lhs.evaluate row) (lhs'.evaluate row) (rhs.evaluate row)
        (rhs'.evaluate row)

theorem JoinAlike.child {row : Row} {expr other child child' : Expr}
    (alike : JoinAlike row expr other) (number : Nat) (first : expr.children[number]? = some child)
    (second : other.children[number]? = some child') : JoinAlike row child child' := by
  intro place lhs rhs lhs' rhs' found found'
  refine alike (number :: place) lhs rhs lhs' rhs' ?_ ?_
  · rw [at?, first, Option.bind_some, found]
  · rw [at?, second, Option.bind_some, found']

/-- Equal expressions agree, node by node, if no concatenations of theirs clash. -/
theorem agree_evaluate {row : Row} {expr other : Expr} (equal : (expr == other) = true)
    (alike : JoinAlike row expr other) :
    Evaluated.Agree (expr.evaluate row) (other.evaluate row) := by
  induction expr generalizing other with
  | field name =>
    cases beq_iff_equals.mp equal
    exact .refl Agrees.rel_refl _
  | literal value =>
    cases beq_iff_equals.mp equal with
    | literal equal => exact .ok (.some (.inr equal))
  | combined operator lhs rhs left right =>
    cases beq_iff_equals.mp equal with
    | @combined _ _ _ lhs' rhs' equalLeft equalRight =>
      rw [evaluate_combined, evaluate_combined]
      have first := left equalLeft (alike.child 0 rfl rfl)
      have second := right equalRight (alike.child 1 rfl rfl)
      refine first.combine second ?_
      rintro rfl
      exact alike [] lhs rhs lhs' rhs' rfl rfl
  | negated operand ih =>
    cases beq_iff_equals.mp equal with
    | negated equal =>
      rw [evaluate_negated, evaluate_negated]
      exact (ih equal (alike.child 0 rfl rfl)).negate
  | call name arguments ih =>
    cases beq_iff_equals.mp equal with
    | @call _ _ arguments' each =>
      rw [evaluate_call, evaluate_call]
      refine .call (List.forall₂_map_left_iff.mpr (List.forall₂_map_right_iff.mpr ?_))
      refine List.forall₂_iff_get.mpr ⟨each.length_eq, fun number bound bound' => ?_⟩
      refine ih _ (List.get_mem ..) (each.get bound bound') ?_
      exact alike.child number (List.getElem?_eq_getElem bound) (List.getElem?_eq_getElem bound')

/-- An expression equals itself if none of its literals is a NaN. -/
theorem beq_self {expr : Expr}
    (numbers : ∀ x, Within (.literal (.float x)) expr → x.isNaN = false) :
    (expr == expr) = true := by
  rw [beq_iff_equals]
  induction expr with
  | field name => exact .field name
  | literal value =>
    refine .literal (Value.beq_self ?_)
    rintro x rfl
    exact numbers x .self
  | combined operator lhs rhs left right =>
    exact .combined (beq_iff_equals.mpr (left fun x within => numbers x (by simp [within])))
      (beq_iff_equals.mpr (right fun x within => numbers x (by simp [within])))
  | negated operand ih =>
    exact .negated (beq_iff_equals.mpr (ih fun x within => numbers x (by simp [within])))
  | call name arguments ih =>
    refine .call (List.forall₂_same.mpr fun argument member => ?_)
    exact beq_iff_equals.mpr (ih argument member fun x within => numbers x (.child member within))

/-- Equal expressions have equal outcomes on every row where no concatenation of theirs shows zeros of
opposite signs, and an expression without a NaN among its literals is equal to a copy of itself. -/
theorem equal_interchangeable :
    (∀ (expr other : Expr) (row : Row), (expr == other) = true → JoinAlike row expr other →
        Evaluated.Agree (expr.evaluate row) (other.evaluate row)) ∧
      ∀ expr : Expr, (∀ x, Within (.literal (.float x)) expr → x.isNaN = false) →
        (expr == expr) = true :=
  ⟨fun _ _ _ equal alike => agree_evaluate equal alike, fun _ numbers => beq_self numbers⟩

end Expr

/-! ## Labels

The text of a price with what is added to it, which may be a zero of either sign.
-/

namespace Label

open Hybrid.Expr

/-- The row of a price. -/
def row : Row
  | "price" => some (.float 1.5)
  | _ => none

def label (extra : Float) : Expr :=
  .combined .concat (.combined .add (.literal (.float extra)) (.field "price"))
    (.literal (.text " each"))

/-- The text of what is added alone. -/
def bare (extra : Float) : Expr :=
  .combined .concat (.literal (.float extra)) (.literal (.text ""))

/-- The only concatenation joins the sum, which is no zero. -/
theorem joinAlike_label : JoinAlike row (label 0.0) (label (-0.0)) := by
  intro place lhs rhs lhs' rhs' found found'
  -- No place but the root is one of a concatenation.
  rcases place with _ | ⟨_ | _ | _, _ | ⟨_ | _ | _, _ | _⟩⟩
  case nil =>
    cases found
    cases found'
    rintro ⟨_, _, _, _, sum, -, unit, -, -, -, opposite⟩
    cases sum
    cases unit
    rcases opposite with (⟨zero, -⟩ | ⟨zero, -⟩) | ⟨zero, -⟩ | ⟨zero, -⟩
    · exact absurd (Value.float.inj zero) (by decide)
    · exact absurd (Value.float.inj zero) (by decide)
    · cases zero
    · cases zero
  all_goals cases found

theorem evaluate_label :
    (label 0.0 == label (-0.0)) = true ∧ JoinAlike row (label 0.0) (label (-0.0)) ∧
      Evaluated.Agree ((label 0.0).evaluate row) ((label (-0.0)).evaluate row) ∧
      (label 0.0).evaluate row = .ok (some (.text "1.5 each")) ∧
      (label 0.0 == label 0.0) = true := by
  have equal : (label 0.0 == label (-0.0)) = true := rfl
  have numbers : ∀ x, Within (.literal (.float x)) (label 0.0) → x.isNaN = false := by
    intro x within
    simp only [label, within_combined, within_literal, within_field, reduceCtorEq, false_or,
      or_false, literal.injEq, Value.float.injEq] at within
    rw [within]
    rfl
  exact ⟨equal, joinAlike_label, equal_interchangeable.1 _ _ _ equal joinAlike_label, rfl,
    equal_interchangeable.2 _ numbers⟩

/-- Alone, the zeros are equal and their texts are not; and a NaN does not equal its copy. -/
theorem bare_not_interchangeable :
    (bare 0.0 == bare (-0.0)) = true ∧
      (bare 0.0).evaluate row = .ok (some (.text "0.0")) ∧
      (bare (-0.0)).evaluate row = .ok (some (.text "-0.0")) ∧
      ¬ Evaluated.Agree ((bare 0.0).evaluate row) ((bare (-0.0)).evaluate row) ∧
      (bare (0.0 / 0.0) == bare (0.0 / 0.0)) = false := by
  have positive : (bare 0.0).evaluate row = .ok (some (.text "0.0")) := rfl
  have negative : (bare (-0.0)).evaluate row = .ok (some (.text "-0.0")) := rfl
  refine ⟨rfl, positive, negative, ?_, rfl⟩
  rw [positive, negative]
  rintro (_ | ⟨⟨same | equal⟩⟩)
  · simp at same
  · cases equal

end Label

end Hybrid
