import Hybrid.Proofs.Expr.Environment

/-! # Rows that know more

Evaluation is settled if it ends with a value or an error; without a value it may still wait for a
field that the row does not have. `Evaluated.Settles` orders what evaluation gives: a value stays
that value, an error stays an error, and where there was neither there may be anything. Every
operation on outcomes keeps this order, whatever it leaves out when an operand or an argument has no
value, so evaluation on a row that knows more keeps what was settled. An error may become another
one: a field that was not there before can fail in the operand on the left of the one that fails.
-/

namespace Hybrid

/-- The other row answers every name that this one answers, with the same value. -/
def Row.ExtendedBy (row more : Row) : Prop :=
  ∀ name value, row name = some value → more name = some value

namespace Evaluated

variable {α β : Type}

/-- What is settled first is settled later: as the same value, or as some error. -/
inductive Settles : Except ArithmeticError (Option α) → Except ArithmeticError (Option α) → Prop
  | waiting {later : Except ArithmeticError (Option α)} : Settles (.ok none) later
  | value {value : α} : Settles (.ok (some value)) (.ok (some value))
  | error {first later : ArithmeticError} : Settles (.error first) (.error later)

namespace Settles

variable {first later : Except ArithmeticError (Option α)}
variable {left left' right right' operand operand' : Evaluated} {arguments arguments' : List Evaluated}

theorem refl (outcome : Except ArithmeticError (Option α)) : Settles outcome outcome := by
  rcases outcome with error | _ | value
  · exact .error
  · exact .waiting
  · exact .value

theorem eq_value {value : α} (settles : Settles (.ok (some value)) later) :
    later = .ok (some value) := by
  cases settles
  rfl

theorem exists_error {error : ArithmeticError} (settles : Settles (.error error) later) :
    ∃ error, later = .error error := by
  cases settles
  exact ⟨_, rfl⟩

/-- What goes on with a value, and ends without one, keeps what is settled. -/
theorem bind {next next' : Option α → Except ArithmeticError (Option β)} (settles : Settles first later)
    (ends : next none = .ok none) (each : ∀ value, Settles (next (some value)) (next' (some value))) :
    Settles (first >>= next) (later >>= next') := by
  cases settles with
  | waiting =>
    have waits : Except.ok none >>= next = .ok none := ends
    rw [waits]
    exact .waiting
  | value => exact each _
  | error => exact .error

/-- Both operands are evaluated, so that the right one fails where the left one has no value. -/
theorem combine {operator : Operator} (leftSettles : Settles left left')
    (rightSettles : Settles right right') :
    Settles (Evaluated.combine operator left right) (Evaluated.combine operator left' right') := by
  cases leftSettles with
  | value => exact rightSettles.bind rfl fun _ => .refl _
  | error => exact .error
  | waiting =>
    cases rightSettles with
    | waiting => exact .waiting
    | value => exact .waiting
    -- Whether the left one now has a value or fails itself, the whole fails.
    | error => cases left' <;> exact .error

theorem negate (settles : Settles operand operand') :
    Settles (Evaluated.negate operand) (Evaluated.negate operand') :=
  settles.bind rfl fun _ => .refl _

/-- The first argument without a value leaves out those behind it; then nothing is settled. -/
theorem all (each : List.Forall₂ Settles arguments arguments') :
    Settles (Evaluated.all arguments) (Evaluated.all arguments') := by
  induction each with
  | nil => exact .refl _
  | cons first _ rest => exact first.bind rfl fun _ => rest.bind rfl fun _ => .refl _

theorem call {name : String} (each : List.Forall₂ Settles arguments arguments') :
    Settles (Evaluated.call name arguments) (Evaluated.call name arguments') :=
  (all each).bind rfl fun _ => .refl _

end Settles

end Evaluated

namespace Expr

open Evaluated (Settles)

/-- An expression settles what the names in it settle. -/
theorem settles_valueIn {environment other : Environment}
    (each : ∀ name, Settles (environment name) (other name)) (expr : Expr) :
    Settles (expr.valueIn environment) (expr.valueIn other) := by
  induction expr with
  | field name => exact each name
  | literal value => exact .value
  | combined operator lhs rhs left right =>
    rw [valueIn, valueIn]
    exact left.combine right
  | negated operand ih =>
    rw [valueIn, valueIn]
    exact ih.negate
  | call name arguments ih =>
    rw [valueIn, valueIn, valuesIn_eq, valuesIn_eq]
    exact .call (List.forall₂_map_left_iff.mpr
      (List.forall₂_map_right_iff.mpr (List.forall₂_same.mpr ih)))

theorem settles_evaluate {row more : Row} (extended : row.ExtendedBy more) (expr : Expr) :
    Settles (expr.evaluate row) (expr.evaluate more) := by
  rw [evaluate_eq, evaluate_eq]
  refine settles_valueIn (fun name => ?_) expr
  unfold Environment.ofRow
  cases known : row name with
  | none => exact .waiting
  | some value => rw [extended name value known]; exact .value

/-- On a row that knows more, a value is the same and an error is still an error. -/
theorem evaluate_extendedBy {row more : Row} (extended : row.ExtendedBy more) (expr : Expr) :
    (∀ value, expr.evaluate row = .ok (some value) → expr.evaluate more = .ok (some value)) ∧
      ∀ error, expr.evaluate row = .error error → ∃ error, expr.evaluate more = .error error := by
  have settles := settles_evaluate extended expr
  constructor
  · intro value evaluated
    rw [evaluated] at settles
    exact settles.eq_value
  · intro error failed
    rw [failed] at settles
    exact settles.exists_error

end Expr

/-! ## Shares

An amount in equal parts, which is first known without the offset that the parts are weighed with.
-/

namespace Share

open Hybrid.Expr

/-- The row as long as the offset is not known. -/
def early : Row
  | "amount" => some (.int 3)
  | "parts" => some (.int 0)
  | _ => none

def late : Row
  | "offset" => some (.text "none")
  | name => early name

def weighed : Expr :=
  .combined .mul (.negated (.field "offset")) (.combined .div (.field "amount") (.field "parts"))

def sum : Expr :=
  .combined .add (.field "amount") (.field "parts")

private theorem extended : early.ExtendedBy late := by
  intro name value known
  by_cases offset : name = "offset"
  · subst offset
    cases known
  · simpa [late, offset] using known

/-- The division by zero is an error before the offset is known; then the offset is one. -/
theorem evaluate_shares :
    early.ExtendedBy late ∧
      weighed.evaluate early = .error .divisionByZero ∧
      weighed.evaluate late = .error (.notNegatable .text) ∧
      (∃ error, weighed.evaluate late = .error error) ∧
      sum.evaluate late = .ok (some (.int 3)) :=
  ⟨extended, rfl, rfl, (evaluate_extendedBy extended weighed).2 _ rfl,
    (evaluate_extendedBy extended sum).1 _ rfl⟩

end Share

end Hybrid
