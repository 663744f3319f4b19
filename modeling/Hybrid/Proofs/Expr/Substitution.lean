import Hybrid.Proofs.Expr.Environment

/-! # Substitution and evaluation

Putting expressions in the place of fields and evaluating the result is evaluating the expression
on a row that answers for the fields what was put in their place. A replacement without a value is
the same as a field that the row does not have; only errors must not come from a replacement, as a
row has none to give.
-/

namespace Hybrid

/-- The row that answers a replaced name with the value of its replacement, if that has one, and any
other name as before. -/
def Row.through (row : Row) (replace : String → Option Expr) : Row := fun name =>
  match replace name with
  | some replacement =>
    match replacement.evaluate row with
    | .ok value? => value?
    | .error _ => none
  | none => row name

namespace Expr

variable {expr : Expr} {replace : String → Option Expr} {row : Row}

/-- Substitution commutes with evaluation, where no replacement of a field that occurs is an error
on the row. -/
theorem evaluate_substitute
    (settled : ∀ name ∈ expr.occurrences, ∀ replacement, replace name = some replacement →
      ∃ value?, replacement.evaluate row = .ok value?) :
    (expr.substitute replace).evaluate row = expr.evaluate (row.through replace) := by
  rw [evaluate_eq, evaluate_eq, valueIn_substitute]
  apply valueIn_congr
  intro name occurs
  unfold Environment.ofRow Row.through
  cases replaced : replace name with
  | none => rfl
  | some replacement =>
    obtain ⟨value?, evaluated⟩ := settled name occurs replacement replaced
    dsimp only
    rw [evaluated, ← evaluated, evaluate_eq]
    rfl

end Expr

/-! ## Averages

A sum over a count, where what is counted and what is summed up are put in as expressions.
-/

namespace Average

open Hybrid.Expr

/-- The sum over the count, with the unit behind it. -/
def average : Expr :=
  .combined .concat (.combined .div (.field "sum") (.field "count")) (.field "unit")

/-- The total, or zero if it is null, over the number of the complete ones. -/
def parts : String → Option Expr
  | "sum" => some (.call "COALESCE" [.field "total", .literal (.int 0)])
  | "count" => some (.combined .sub (.field "count") (.field "incomplete"))
  | _ => none

def row : Row
  | "total" => some (.int 12)
  | "count" => some (.int 5)
  | "incomplete" => some (.int 2)
  | "unit" => some (.text "kg")
  | _ => none

private theorem settled (name : String) (occurs : name ∈ average.occurrences) (replacement : Expr)
    (replaced : parts name = some replacement) :
    ∃ value?, replacement.evaluate row = .ok value? := by
  have occurs : name ∈ ["sum", "count", "unit"] := occurs
  simp only [List.mem_cons, List.not_mem_nil, or_false] at occurs
  rcases occurs with rfl | rfl | rfl
  · obtain rfl := Option.some.inj replaced
    exact ⟨some (.int 12), rfl⟩
  · obtain rfl := Option.some.inj replaced
    exact ⟨some (.int 3), rfl⟩
  · cases replaced

/-- A field that is put in may have the name of the one that it replaces. -/
theorem evaluate_parts :
    (∀ name ∈ average.occurrences, ∀ replacement, parts name = some replacement →
        ∃ value?, replacement.evaluate row = .ok value?) ∧
      (average.substitute parts).evaluate row = average.evaluate (row.through parts) ∧
      average.evaluate (row.through parts) = .ok (some (.text "4kg")) :=
  ⟨settled, evaluate_substitute settled, rfl⟩

end Average

end Hybrid
