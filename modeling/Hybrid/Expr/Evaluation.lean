import Hybrid.Expr.Basic
import Hybrid.Text.Casing

/-! # Evaluation

Evaluating an expression asks a row for the fields that it meets, from left to right, and stops at
the first error. It has no result, rather than an error, where a field is not in the row or a call
cannot be computed here. `Expr.evaluation` records what was asked; `Expr.evaluate` is its outcome.
-/

namespace Hybrid

/-- What a row answers for the name of a field. -/
abbrev Row := String → Option Value

/-- A computation that asks a row for fields: the names asked, in order, and the outcome. -/
structure Evaluation (α : Type) where
  asked : List String
  outcome : Except ArithmeticError α

namespace Evaluation

variable {α β : Type}

/-- Asks the row for one field. -/
def ask (row : Row) (name : String) : Evaluation (Option Value) :=
  ⟨[name], .ok (row name)⟩

/-- A computation that asks for nothing. -/
def lift (outcome : Except ArithmeticError α) : Evaluation α :=
  ⟨[], outcome⟩

/-- The first computation, and the second on its result if there is one. -/
def andThen (first : Evaluation α) (second : α → Evaluation β) : Evaluation β :=
  match first.outcome with
  | .error error => ⟨first.asked, .error error⟩
  | .ok result => ⟨first.asked ++ (second result).asked, (second result).outcome⟩

instance : Monad Evaluation where
  pure result := lift (.ok result)
  bind := andThen

end Evaluation

/-- The functions that are computed on values. -/
inductive NativeFunction where
  | coalesce
  | lower
  | upper
  | length
  | abs
  deriving DecidableEq

namespace NativeFunction

/-- The function of that name. -/
def ofName? : String → Option NativeFunction
  | "COALESCE" => some .coalesce
  | "LOWER" => some .lower
  | "UPPER" => some .upper
  | "LENGTH" => some .length
  | "ABS" => some .abs
  | _ => none

/-- The value of a call, if the function is defined on these arguments. -/
def call? : NativeFunction → List Value → Option Value
  | .coalesce, arguments => some ((arguments.find? fun value => !value.isNull).getD .null)
  | _, [.null] => some .null
  | .lower, [.text content] => some (.text (Text.toLowercase content))
  | .upper, [.text content] => some (.text (Text.toUppercase content))
  | .length, [.text content] => some (.int (Int64.ofNat content.length))
  | .abs, [.int number] => Value.ofInt? number.toInt.natAbs
  | .abs, [.float number] => some (.float number.abs)
  | _, _ => none

end NativeFunction

namespace Expr

/-- The value of a call of that name, if it is computed here. -/
def callValue? (name : String) (arguments : List Value) : Option Value :=
  (NativeFunction.ofName? name).bind (·.call? arguments)

mutual

/-- The evaluation of an expression on a row. -/
def evaluation (row : Row) : Expr → Evaluation (Option Value)
  | .field name => .ask row name
  | .literal value => pure (some value)
  | .combined operator lhs rhs => do
    let left ← evaluation row lhs
    let right ← evaluation row rhs
    match left, right with
    | some a, some b => .lift ((a.apply operator b).map some)
    | _, _ => pure none
  | .negated operand => do
    match ← evaluation row operand with
    | some value => .lift (value.negate.map some)
    | none => pure none
  | .call name arguments => do
    match ← evaluationList row arguments with
    | some values => pure (callValue? name values)
    | none => pure none

/-- The evaluation of arguments from left to right, as far as the first without a value. -/
def evaluationList (row : Row) : List Expr → Evaluation (Option (List Value))
  | [] => pure (some [])
  | argument :: rest => do
    match ← evaluation row argument with
    | some value => return (← evaluationList row rest).map (value :: ·)
    | none => pure none

end

/-- The value of an expression on a row, if it has one. -/
def evaluate (expr : Expr) (row : Row) : Except ArithmeticError (Option Value) :=
  (expr.evaluation row).outcome

/-- The names that evaluation asks the row for, in order and with repeats. -/
def reads (expr : Expr) (row : Row) : List String :=
  (expr.evaluation row).asked

end Expr

end Hybrid
