import Mathlib.Data.List.Forall2
import Hybrid.Expr.Evaluation
import Hybrid.Proofs.Expr.Replacement

/-! # Evaluation in an environment

Evaluating an expression by recursion on its structure, with names that stand for any outcome of an
evaluation. A row is the environment in which no name is an error. Substituting in an expression is
the same as changing the environment that it is evaluated in.
-/

namespace Hybrid

/-- What evaluating an expression gives: a value if it has one, or an error. -/
abbrev Evaluated := Except ArithmeticError (Option Value)

/-- What the names of an expression stand for. -/
abbrev Environment := String → Evaluated

/-- The names that a row answers stand for values. -/
def Environment.ofRow (row : Row) : Environment :=
  fun name => .ok (row name)

namespace Evaluated

/-- Applies an operator if both operands have a value. -/
def combine (operator : Operator) (left right : Evaluated) : Evaluated := do
  let left ← left
  let right ← right
  match left, right with
  | some a, some b => (a.apply operator b).map some
  | _, _ => .ok none

def negate (operand : Evaluated) : Evaluated := do
  match ← operand with
  | some value => value.negate.map some
  | none => .ok none

/-- The values of all, as far as the first that is an error or has none. -/
def all : List Evaluated → Except ArithmeticError (Option (List Value))
  | [] => .ok (some [])
  | first :: rest => do
    match ← first with
    | some value => return (← all rest).map (value :: ·)
    | none => .ok none

/-- Calls a function if all arguments have values. -/
def call (name : String) (arguments : List Evaluated) : Evaluated := do
  match ← all arguments with
  | some values => .ok (Expr.callValue? name values)
  | none => .ok none

section Inversion

variable {operator : Operator} {left right operand : Evaluated} {name : String} {value : Value}
variable {arguments : List Evaluated}

theorem of_map_eq_ok {α β : Type} {f : α → β} {outcome : Except ArithmeticError α} {image : β}
    (mapped : outcome.map f = .ok image) : ∃ value, outcome = .ok value ∧ f value = image := by
  cases outcome with
  | error error => cases mapped
  | ok value => exact ⟨value, rfl, Except.ok.inj mapped⟩

/-- A combination has a value only if both operands have one. -/
theorem of_combine_eq_some (whole : combine operator left right = .ok (some value)) :
    ∃ a b, left = .ok (some a) ∧ right = .ok (some b) ∧ a.apply operator b = .ok value := by
  rcases left with error | _ | a
  · cases whole
  · rcases right with error | _ | b <;> cases whole
  · rcases right with error | _ | b
    · cases whole
    · cases whole
    · change (a.apply operator b).map some = _ at whole
      obtain ⟨result, applied, same⟩ := of_map_eq_ok whole
      exact ⟨a, b, rfl, rfl, Option.some.inj same ▸ applied⟩

theorem of_negate_eq_some (whole : negate operand = .ok (some value)) :
    ∃ a, operand = .ok (some a) ∧ a.negate = .ok value := by
  rcases operand with error | _ | a
  · cases whole
  · cases whole
  · change a.negate.map some = _ at whole
    obtain ⟨result, negated, same⟩ := of_map_eq_ok whole
    exact ⟨a, rfl, Option.some.inj same ▸ negated⟩

theorem of_all_eq_some {values : List Value} (whole : all arguments = .ok (some values)) :
    List.Forall₂ (fun argument value => argument = .ok (some value)) arguments values := by
  induction arguments generalizing values with
  | nil =>
    obtain rfl := Option.some.inj (Except.ok.inj whole)
    exact .nil
  | cons argument rest ih =>
    rw [all] at whole
    rcases argument with error | _ | a
    · cases whole
    · cases whole
    · cases others : all rest with
      | error error => rw [others] at whole; cases whole
      | ok values? =>
        cases values? with
        | none => rw [others] at whole; cases whole
        | some behind =>
          rw [others] at whole
          obtain rfl := Option.some.inj (Except.ok.inj whole)
          exact .cons rfl (ih others)

/-- A call has a value only if all its arguments have one. -/
theorem of_call_eq_some (whole : call name arguments = .ok (some value)) :
    ∃ values, List.Forall₂ (fun argument value => argument = .ok (some value)) arguments values ∧
      Expr.callValue? name values = some value := by
  unfold call at whole
  cases values : all arguments with
  | error error => rw [values] at whole; cases whole
  | ok values? =>
    cases values? with
    | none => rw [values] at whole; cases whole
    | some list =>
      rw [values] at whole
      exact ⟨list, of_all_eq_some values, Except.ok.inj whole⟩

/-- A combination has no value because an operand has none; the left one is no error. -/
theorem of_combine_eq_none (whole : combine operator left right = .ok none) :
    left = .ok none ∨ (∃ a, left = .ok (some a)) ∧ right = .ok none := by
  rcases left with error | _ | a
  · cases whole
  · exact .inl rfl
  · rcases right with error | _ | b
    · cases whole
    · exact .inr ⟨⟨a, rfl⟩, rfl⟩
    · change (a.apply operator b).map some = _ at whole
      obtain ⟨result, -, impossible⟩ := of_map_eq_ok whole
      cases impossible

theorem of_negate_eq_none (whole : negate operand = .ok none) : operand = .ok none := by
  rcases operand with error | _ | a
  · cases whole
  · rfl
  · change a.negate.map some = _ at whole
    obtain ⟨result, -, impossible⟩ := of_map_eq_ok whole
    cases impossible

/-- The first that is no value ends the list. -/
theorem of_all_eq_none (whole : all arguments = .ok none) :
    ∃ before after, arguments = before ++ .ok none :: after ∧
      ∀ earlier ∈ before, ∃ value, earlier = .ok (some value) := by
  induction arguments with
  | nil => cases whole
  | cons argument rest ih =>
    rw [all] at whole
    rcases argument with error | _ | a
    · cases whole
    · exact ⟨[], rest, rfl, nofun⟩
    · cases others : all rest with
      | error error => rw [others] at whole; cases whole
      | ok values? =>
        cases values? with
        | some values => rw [others] at whole; cases whole
        | none =>
          obtain ⟨before, after, rfl, valued⟩ := ih others
          exact ⟨.ok (some a) :: before, after, rfl, List.forall_mem_cons.mpr ⟨⟨a, rfl⟩, valued⟩⟩

/-- A call has no value because an argument has none or because it is not computed on their
values. -/
theorem of_call_eq_none (whole : call name arguments = .ok none) :
    (∃ before after, arguments = before ++ .ok none :: after ∧
        ∀ earlier ∈ before, ∃ value, earlier = .ok (some value)) ∨
      ∃ values, List.Forall₂ (fun argument value => argument = .ok (some value)) arguments values ∧
        Expr.callValue? name values = none := by
  unfold call at whole
  cases values : all arguments with
  | error error => rw [values] at whole; cases whole
  | ok values? =>
    cases values? with
    | none => exact .inl (of_all_eq_none values)
    | some list =>
      rw [values] at whole
      exact .inr ⟨list, of_all_eq_some values, Except.ok.inj whole⟩

theorem exists_value_of_mem {values : List Value}
    (each : List.Forall₂ (fun argument value => argument = .ok (some value)) arguments values)
    (member : operand ∈ arguments) : ∃ value, operand = .ok (some value) := by
  obtain ⟨index, bound, rfl⟩ := List.getElem_of_mem member
  exact ⟨_, each.get bound (each.length_eq ▸ bound)⟩

end Inversion

theorem all_of_forall₂ {arguments : List Evaluated} {values : List Value}
    (each : List.Forall₂ (fun argument value => argument = .ok (some value)) arguments values) :
    all arguments = .ok (some values) := by
  induction each with
  | nil => rfl
  | cons first _ ih => rw [all, first, ih]; rfl

end Evaluated

namespace Evaluation

variable {α β : Type}

@[simp] theorem outcome_pure (result : α) : (pure result : Evaluation α).outcome = .ok result := rfl

@[simp] theorem outcome_lift (outcome : Except ArithmeticError α) :
    (lift outcome).outcome = outcome := rfl

theorem bind_eq_andThen (first : Evaluation α) (second : α → Evaluation β) :
    first >>= second = first.andThen second := rfl

@[simp] theorem outcome_bind (first : Evaluation α) (second : α → Evaluation β) :
    (first >>= second).outcome = first.outcome >>= fun result => (second result).outcome := by
  rw [bind_eq_andThen, andThen]
  cases first.outcome <;> rfl

end Evaluation

namespace Expr

mutual

/-- The value of an expression in an environment. -/
def valueIn (environment : Environment) : Expr → Evaluated
  | .field name => environment name
  | .literal value => .ok (some value)
  | .combined operator lhs rhs =>
    .combine operator (valueIn environment lhs) (valueIn environment rhs)
  | .negated operand => .negate (valueIn environment operand)
  | .call name arguments => .call name (valuesIn environment arguments)

/-- The values of several expressions. -/
def valuesIn (environment : Environment) : List Expr → List Evaluated
  | [] => []
  | expr :: rest => valueIn environment expr :: valuesIn environment rest

end

variable {environment other : Environment}

theorem valuesIn_eq (exprs : List Expr) :
    valuesIn environment exprs = exprs.map (·.valueIn environment) := by
  induction exprs with
  | nil => rfl
  | cons expr rest ih => rw [valuesIn, ih, List.map_cons]

private theorem outcome_evaluationList {row : Row} {exprs : List Expr}
    (each : ∀ expr ∈ exprs, (expr.evaluation row).outcome = expr.valueIn (.ofRow row)) :
    (evaluationList row exprs).outcome = Evaluated.all (valuesIn (.ofRow row) exprs) := by
  induction exprs with
  | nil => rfl
  | cons expr rest ih =>
    rw [evaluationList, valuesIn, Evaluated.all, Evaluation.outcome_bind,
      each expr (List.mem_cons_self ..)]
    congr 1
    funext value?
    cases value? with
    | none => rfl
    | some value =>
      dsimp only
      rw [Evaluation.outcome_bind, ih fun other member => each other (List.mem_cons_of_mem _ member)]
      cases Evaluated.all (valuesIn (.ofRow row) rest) <;> rfl

/-- Evaluation on a row is evaluation in the environment of the row. -/
theorem evaluate_eq (expr : Expr) (row : Row) :
    expr.evaluate row = expr.valueIn (.ofRow row) := by
  unfold evaluate
  induction expr with
  | field name => rfl
  | literal value => rfl
  | combined operator lhs rhs left right =>
    rw [evaluation, valueIn, Evaluated.combine, Evaluation.outcome_bind, left]
    congr 1
    funext a?
    rw [Evaluation.outcome_bind, right]
    congr 1
    funext b?
    cases a? <;> cases b? <;> rfl
  | negated operand ih =>
    rw [evaluation, valueIn, Evaluated.negate, Evaluation.outcome_bind, ih]
    congr 1
    funext value?
    cases value? <;> rfl
  | call name arguments each =>
    rw [evaluation, valueIn, Evaluated.call, Evaluation.outcome_bind, outcome_evaluationList each]
    congr 1
    funext values?
    cases values? <;> rfl

section Equations

variable (row : Row)

theorem evaluate_field (name : String) : (field name).evaluate row = .ok (row name) := rfl

theorem evaluate_literal (value : Value) : (literal value).evaluate row = .ok (some value) := rfl

theorem evaluate_combined (operator : Operator) (lhs rhs : Expr) :
    (combined operator lhs rhs).evaluate row =
      Evaluated.combine operator (lhs.evaluate row) (rhs.evaluate row) := by
  rw [evaluate_eq, evaluate_eq, evaluate_eq, valueIn]

theorem evaluate_negated (operand : Expr) :
    (negated operand).evaluate row = Evaluated.negate (operand.evaluate row) := by
  rw [evaluate_eq, evaluate_eq, valueIn]

theorem evaluate_call (name : String) (arguments : List Expr) :
    (call name arguments).evaluate row =
      Evaluated.call name (arguments.map (·.evaluate row)) := by
  rw [evaluate_eq, valueIn, valuesIn_eq]
  congr 1
  exact List.map_congr_left fun argument _ => (evaluate_eq argument row).symm

end Equations

/-- Only what the fields that occur stand for matters. -/
theorem valueIn_congr {expr : Expr}
    (same : ∀ name ∈ expr.occurrences, environment name = other name) :
    expr.valueIn environment = expr.valueIn other := by
  induction expr with
  | field name => exact same name (List.mem_singleton_self name)
  | literal value => rfl
  | combined operator lhs rhs left right =>
    rw [occurrences, List.forall_mem_append] at same
    rw [valueIn, valueIn, left same.1, right same.2]
  | negated operand ih => rw [valueIn, valueIn, ih same]
  | call name arguments each =>
    rw [valueIn, valueIn, valuesIn_eq, valuesIn_eq]
    congr 1
    refine List.map_congr_left fun argument member => each argument member fun field occurs => ?_
    exact same field (mem_occurrencesList.mpr ⟨argument, member, occurs⟩)

/-- A replaced name stands for the value of its replacement. -/
theorem valueIn_substitute (expr : Expr) (replace : String → Option Expr) :
    (expr.substitute replace).valueIn environment =
      expr.valueIn fun name =>
        match replace name with
        | some replacement => replacement.valueIn environment
        | none => environment name := by
  induction expr with
  | field name =>
    rw [substitute_field, valueIn]
    cases replace name <;> rfl
  | literal value => rw [substitute_literal]; rfl
  | combined operator lhs rhs left right =>
    rw [substitute_combined, valueIn, valueIn, left, right]
  | negated operand ih => rw [substitute_negated, valueIn, valueIn, ih]
  | call name arguments each =>
    rw [substitute_call, valueIn, valueIn, valuesIn_eq, valuesIn_eq, List.map_map]
    congr 1
    exact List.map_congr_left each

end Expr

end Hybrid
