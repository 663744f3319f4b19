import Hybrid.Operator
import Hybrid.Value.Text

/-! # Arithmetic on values

Null absorbs every operator, concatenation joins the texts of any two other values, whole numbers
are computed exactly or not at all, and a whole number beside a float is computed as a float.
-/

namespace Hybrid

/-- Why an operation on values has no result. -/
inductive ArithmeticError where
  | incompatibleOperands (operator : Operator) (lhs rhs : ValueKind)
  | notNegatable (kind : ValueKind)
  | divisionByZero
  | overflow (operator : Operator)
  deriving DecidableEq

def ArithmeticError.message : ArithmeticError → String
  | .incompatibleOperands operator lhs rhs =>
    "Operator `" ++ operator.symbol ++ "` is not defined between `" ++ lhs.name ++ "` and `" ++
      rhs.name ++ "` values."
  | .notNegatable kind => "Cannot negate a `" ++ kind.name ++ "` value."
  | .divisionByZero => "Division by zero."
  | .overflow operator => "Integer overflow while evaluating `" ++ operator.symbol ++ "`."

namespace Arithmetic

/-- The exact result on whole numbers: quotients are truncated toward zero and remainders have the
sign of the dividend. There is none for a divisor of zero. -/
def result? (op : Arithmetic) (a b : Int) : Option Int :=
  match op with
  | .add => some (a + b)
  | .sub => some (a - b)
  | .mul => some (a * b)
  | .div => if b = 0 then none else some (a.tdiv b)
  | .mod => if b = 0 then none else some (a.tmod b)

/-- Whether the operation divides. -/
def divides : Arithmetic → Bool
  | .div | .mod => true
  | .add | .sub | .mul => false

/-- The exact result, unless it leaves the range of sixty-four bits. The least number has no
remainder by minus one, as it has no such quotient. -/
def onInts (op : Arithmetic) (a b : Int64) : Except ArithmeticError Value :=
  match op.result? a.toInt b.toInt with
  | none => .error .divisionByZero
  | some result =>
    if op = .mod ∧ a = Int64.minValue ∧ b = -1 then .error (.overflow .mod)
    else
      match Value.ofInt? result with
      | some value => .ok value
      | none => .error (.overflow op.operator)

/-- The nearest float to the result; division by either zero is refused. -/
def onFloats (op : Arithmetic) (a b : Float) : Except ArithmeticError Value :=
  if op.divides && b == 0 then .error .divisionByZero
  else
    .ok <| .float <|
      match op with
      | .add => a + b
      | .sub => a - b
      | .mul => a * b
      | .div => a / b
      | .mod => Decimal.remainder a b

end Arithmetic

namespace Value

/-- The value of `lhs op rhs`. -/
def apply (op : Operator) (lhs rhs : Value) : Except ArithmeticError Value :=
  if lhs.isNull || rhs.isNull then .ok .null
  else
    match op.arithmetic? with
    | none => .ok (.text (lhs.plainText ++ rhs.plainText))
    | some arithmetic =>
      match lhs, rhs with
      | .int a, .int b => arithmetic.onInts a b
      | lhs, rhs =>
        match lhs.asFloat?, rhs.asFloat? with
        | some a, some b => arithmetic.onFloats a b
        | _, _ => .error (.incompatibleOperands op lhs.kind rhs.kind)

/-- The value of `-operand`. The least whole number has no opposite. -/
def negate : Value → Except ArithmeticError Value
  | .null => .ok .null
  | .int number =>
    match ofInt? (-number.toInt) with
    | some value => .ok value
    | none => .error (.overflow .sub)
  | .float number => .ok (.float (-number))
  | value => .error (.notNegatable value.kind)

end Value

end Hybrid
