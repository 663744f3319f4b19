import Mathlib.Data.List.Forall2
import Hybrid.Proofs.Action
import Hybrid.Proofs.Term.Folding

/-! # What terms say about evaluation

A function that is run on an instance ends with a value, with an expression where a call could not
be computed, or with an error. `Faithful` says what evaluating the expression of the class must
give in each case. Operations on terms and on outcomes of evaluation go together.
-/

namespace Hybrid

/-- The outcome of a reading on an instance agrees with an evaluation: a value is the value, an
expression means that there is none, and where arithmetic fails there is no value either. -/
def Faithful : Except HybridError Term → Evaluated → Prop
  | .ok (.native value), evaluated => evaluated = .ok (some value)
  | .ok (.symbolic _), evaluated => evaluated = .ok none
  | .error (.arithmetic _), evaluated => ∀ value, evaluated ≠ .ok (some value)
  | .error _, _ => True

namespace Faithful

variable {operator : Operator} {lhs rhs operand : Term} {name : String} {error : HybridError}
variable {left right evaluated whole : Evaluated}

/-- An error stays faithful as long as no values turn up. -/
theorem error_mono (faithful : Faithful (.error error) evaluated)
    (fewer : ∀ value, whole = .ok (some value) → ∃ value, evaluated = .ok (some value)) :
    Faithful (.error error) whole := by
  cases error with
  | arithmetic cause =>
    intro value same
    obtain ⟨value, absurd⟩ := fewer value same
    exact faithful value absurd
  | _ => exact trivial

theorem combine (first : Faithful (.ok lhs) left) (second : Faithful (.ok rhs) right) :
    Faithful (Action.arithmeticOutcome (lhs.combine operator rhs))
      (.combine operator left right) := by
  rcases lhs with a | leftExpr <;> rcases rhs with b | rightExpr <;> cases first <;> cases second
  · have computed : Evaluated.combine operator (.ok (some a)) (.ok (some b)) =
        (a.apply operator b).map some := rfl
    rw [computed, Term.combine]
    cases a.apply operator b with
    | error cause => exact nofun
    | ok value => rfl
  all_goals rfl

theorem combineLeft (first : Faithful (.error error) left) :
    Faithful (.error error) (.combine operator left right) :=
  first.error_mono fun _ same => by
    obtain ⟨a, -, left, -⟩ := Evaluated.of_combine_eq_some same
    exact ⟨a, left⟩

theorem combineRight (second : Faithful (.error error) right) :
    Faithful (.error error) (.combine operator left right) :=
  second.error_mono fun _ same => by
    obtain ⟨-, b, -, right, -⟩ := Evaluated.of_combine_eq_some same
    exact ⟨b, right⟩

theorem negate (faithful : Faithful (.ok operand) evaluated) :
    Faithful (Action.arithmeticOutcome operand.negate) (.negate evaluated) := by
  rcases operand with a | expr <;> cases faithful
  · have computed : Evaluated.negate (.ok (some a)) = a.negate.map some := rfl
    rw [computed, Term.negate]
    cases a.negate with
    | error cause => exact nofun
    | ok value => rfl
  · rfl

theorem negateError (faithful : Faithful (.error error) evaluated) :
    Faithful (.error error) (.negate evaluated) :=
  faithful.error_mono fun _ same => by
    obtain ⟨a, present, -⟩ := Evaluated.of_negate_eq_some same
    exact ⟨a, present⟩

/-- Arguments are values with these values, or one of them is left as an expression. -/
private theorem all_cases {terms : List Term} {outcomes : List Evaluated}
    (each : List.Forall₂ (fun term outcome => Faithful (.ok term) outcome) terms outcomes) :
    (∃ values : List Value, terms = values.map .native ∧
        Evaluated.all outcomes = .ok (some values)) ∨
      terms.all (·.asValue?.isSome) = false ∧ Evaluated.all outcomes = .ok none := by
  induction each with
  | nil => exact .inl ⟨[], rfl, rfl⟩
  | @cons term outcome terms outcomes first _ ih =>
    rcases term with a | expr <;> cases first
    · rcases ih with ⟨values, rfl, all⟩ | ⟨left, all⟩
      · refine .inl ⟨a :: values, rfl, ?_⟩
        rw [Evaluated.all, all]
        rfl
      · refine .inr ⟨by rw [List.all_cons, left, Bool.and_false], ?_⟩
        rw [Evaluated.all, all]
        rfl
    · exact .inr ⟨rfl, rfl⟩

theorem call {terms : List Term} {outcomes : List Evaluated}
    (each : List.Forall₂ (fun term outcome => Faithful (.ok term) outcome) terms outcomes) :
    Faithful (Action.arithmeticOutcome (Term.call name terms))
      (.call (Term.calledName name) outcomes) := by
  rcases all_cases each with ⟨values, rfl, all⟩ | ⟨left, all⟩
  · rw [Term.call_values, Evaluated.call, all]
    cases called : Expr.callValue? (Term.calledName name) values with
    | some value => exact congrArg Except.ok called
    | none => exact congrArg Except.ok called
  · rw [Term.call, if_neg (by simp [left]), Evaluated.call, all]
    rfl

/-- An argument that fails makes the call fail. -/
theorem callError {outcomes : List Evaluated} (member : evaluated ∈ outcomes)
    (faithful : Faithful (.error error) evaluated) :
    Faithful (.error error) (.call name outcomes) :=
  faithful.error_mono fun _ same => by
    obtain ⟨values, each, -⟩ := Evaluated.of_call_eq_some same
    exact Evaluated.exists_value_of_mem each member

end Faithful

end Hybrid
