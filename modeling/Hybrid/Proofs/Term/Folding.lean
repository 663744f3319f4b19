import Hybrid.Proofs.Expr.Environment
import Hybrid.Term

/-! # Folding operations on terms

An operation on terms gives the node that it stands for, or the value of that node if its operands
are values. Either way the result has the value of the node in every environment, and refers to the
fields that the operands refer to.
-/

namespace Hybrid.Term

variable {operator : Operator} {lhs rhs operand result : Term} {arguments : List Term}
variable {name : String} {environment : Environment}

/-- The names of the fields that a term refers to, one for each reference. -/
def occurrences (term : Term) : List String :=
  term.toExpr.occurrences

@[simp] theorem occurrences_native (value : Value) : (native value).occurrences = [] := rfl

@[simp] theorem occurrences_symbolic (expr : Expr) :
    (symbolic expr).occurrences = expr.occurrences := rfl

theorem mem_fieldReferences {term : Term} {name : String} :
    name ∈ term.fieldReferences ↔ name ∈ term.occurrences := by
  cases term with
  | native value => rfl
  | symbolic expr => exact Expr.mem_fieldReferences

theorem nodup_fieldReferences (term : Term) : term.fieldReferences.Nodup := by
  cases term with
  | native value => exact List.nodup_nil
  | symbolic expr => exact expr.nodup_fieldReferences

/-- The name that a call of that name is left under. -/
def calledName (name : String) : String :=
  String.ofList (name.toList.map Char.toUpper)

/-- Combining computes two values and leaves anything else as a combination. -/
theorem combine_cases (combined : lhs.combine operator rhs = .ok result) :
    (∃ a b value, lhs = .native a ∧ rhs = .native b ∧ a.apply operator b = .ok value ∧
        result = .native value) ∨
      result = .symbolic (.combined operator lhs.toExpr rhs.toExpr) := by
  rcases lhs with a | left <;> rcases rhs with b | right
  · obtain ⟨value, computed, rfl⟩ := Evaluated.of_map_eq_ok combined
    exact .inl ⟨a, b, value, rfl, rfl, computed, rfl⟩
  all_goals exact .inr (Except.ok.inj combined).symm

theorem negate_cases (negated : operand.negate = .ok result) :
    (∃ a value, operand = .native a ∧ a.negate = .ok value ∧ result = .native value) ∨
      result = .symbolic (.negated operand.toExpr) := by
  rcases operand with a | expr
  · obtain ⟨value, computed, rfl⟩ := Evaluated.of_map_eq_ok negated
    exact .inl ⟨a, value, rfl, computed, rfl⟩
  · exact .inr (Except.ok.inj negated).symm

/-- Values as terms, if all of them are values. -/
private theorem exists_values (all : arguments.all (·.asValue?.isSome) = true) :
    ∃ values : List Value, arguments = values.map native := by
  induction arguments with
  | nil => exact ⟨[], rfl⟩
  | cons argument rest ih =>
    rw [List.all_cons, Bool.and_eq_true] at all
    obtain ⟨values, rfl⟩ := ih all.2
    rcases argument with value | expr
    · exact ⟨value :: values, rfl⟩
    · cases all.1

private theorem valuesIn_literals (values : List Value) :
    Expr.valuesIn environment ((values.map native).map toExpr) =
      values.map fun value => .ok (some value) := by
  rw [Expr.valuesIn_eq]
  simp [toExpr, Expr.valueIn]

theorem all_values (values : List Value) :
    Evaluated.all (values.map fun value => .ok (some value)) = .ok (some values) :=
  Evaluated.all_of_forall₂ (List.forall₂_map_left_iff.mpr (List.forall₂_same.mpr fun _ _ => rfl))

/-- A call of a function on values gives what the function is on them. -/
theorem call_values (values : List Value) :
    call name (values.map native) =
      .ok (match Expr.callValue? (calledName name) values with
        | some value => .native value
        | none => .symbolic (.function name ((values.map native).map toExpr))) := by
  have literals : (values.map native).all (·.asValue?.isSome) = true := by
    simp [asValue?]
  have called : (Expr.function name ((values.map native).map toExpr)).evaluate (fun _ => none) =
      .ok (Expr.callValue? (calledName name) values) := by
    rw [Expr.evaluate_eq, Expr.function, Expr.valueIn, valuesIn_literals, Evaluated.call, all_values]
    rfl
  unfold call
  rw [if_pos literals, called]
  rfl

/-- Calling computes known functions of values and leaves anything else as a call. -/
theorem call_cases (called : call name arguments = .ok result) :
    (∃ values value, arguments = values.map native ∧
        Expr.callValue? (calledName name) values = some value ∧ result = .native value) ∨
      result = .symbolic (.function name (arguments.map toExpr)) := by
  by_cases literals : arguments.all (·.asValue?.isSome) = true
  · obtain ⟨values, rfl⟩ := exists_values literals
    rw [call_values] at called
    cases known : Expr.callValue? (calledName name) values with
    | some value =>
      rw [known] at called
      exact .inl ⟨values, value, rfl, known, (Except.ok.inj called).symm⟩
    | none =>
      rw [known] at called
      exact .inr (Except.ok.inj called).symm
  · right
    unfold call at called
    rw [if_neg literals] at called
    exact (Except.ok.inj called).symm

/-- A call is computed or left as it is, but never fails. -/
theorem exists_call (name : String) (arguments : List Term) :
    ∃ result, call name arguments = .ok result := by
  by_cases literals : arguments.all (·.asValue?.isSome) = true
  · obtain ⟨values, rfl⟩ := exists_values literals
    exact ⟨_, call_values values⟩
  · exact ⟨_, if_neg literals⟩

theorem valueIn_combine (combined : lhs.combine operator rhs = .ok result) :
    result.toExpr.valueIn environment =
      .combine operator (lhs.toExpr.valueIn environment) (rhs.toExpr.valueIn environment) := by
  rcases combine_cases combined with ⟨a, b, value, rfl, rfl, computed, rfl⟩ | rfl
  · simp only [toExpr, Expr.valueIn]
    exact (congrArg (Except.map some) computed).symm
  · rfl

theorem valueIn_negate (negated : operand.negate = .ok result) :
    result.toExpr.valueIn environment = .negate (operand.toExpr.valueIn environment) := by
  rcases negate_cases negated with ⟨a, value, rfl, computed, rfl⟩ | rfl
  · simp only [toExpr, Expr.valueIn]
    exact (congrArg (Except.map some) computed).symm
  · rfl

theorem valueIn_call (called : call name arguments = .ok result) :
    result.toExpr.valueIn environment =
      .call (calledName name) (arguments.map fun argument => argument.toExpr.valueIn environment) := by
  rcases call_cases called with ⟨values, value, rfl, known, rfl⟩ | rfl
  · have literals : (values.map native).map (fun argument => argument.toExpr.valueIn environment) =
        values.map fun value => .ok (some value) := by
      simp [toExpr, Expr.valueIn]
    rw [literals, Evaluated.call, all_values]
    exact congrArg Except.ok known.symm
  · rw [toExpr, Expr.function, Expr.valueIn, Expr.valuesIn_eq, List.map_map]
    rfl

private theorem of_map_eq_error {α β : Type} {f : α → β} {outcome : Except ArithmeticError α}
    {error : ArithmeticError} (mapped : outcome.map f = .error error) : outcome = .error error := by
  cases outcome with
  | error cause => exact congrArg Except.error (Except.error.inj mapped)
  | ok value => cases mapped

/-- A combination that fails is one of values, and fails in every environment. -/
theorem valueIn_combine_error {error : ArithmeticError}
    (failed : lhs.combine operator rhs = .error error) :
    Evaluated.combine operator (lhs.toExpr.valueIn environment) (rhs.toExpr.valueIn environment) =
      .error error := by
  rcases lhs with a | left <;> rcases rhs with b | right
  · have applied := of_map_eq_error failed
    change (a.apply operator b).map some = _
    rw [applied]
    rfl
  all_goals cases failed

theorem valueIn_negate_error {error : ArithmeticError} (failed : operand.negate = .error error) :
    Evaluated.negate (operand.toExpr.valueIn environment) = .error error := by
  rcases operand with a | expr
  · have negated := of_map_eq_error failed
    change a.negate.map some = _
    rw [negated]
    rfl
  · cases failed

theorem occurrences_combine (combined : lhs.combine operator rhs = .ok result) :
    result.occurrences = lhs.occurrences ++ rhs.occurrences := by
  rcases combine_cases combined with ⟨a, b, value, rfl, rfl, -, rfl⟩ | rfl
  · rfl
  · rfl

theorem occurrences_negate (negated : operand.negate = .ok result) :
    result.occurrences = operand.occurrences := by
  rcases negate_cases negated with ⟨a, value, rfl, -, rfl⟩ | rfl
  · rfl
  · rfl

theorem occurrences_call (called : call name arguments = .ok result) :
    result.occurrences = arguments.flatMap occurrences := by
  rcases call_cases called with ⟨values, value, rfl, -, rfl⟩ | rfl
  · simp
  · rw [occurrences_symbolic, Expr.function, Expr.occurrences, Expr.occurrencesList_eq,
      List.flatMap_map]
    rfl

end Hybrid.Term
