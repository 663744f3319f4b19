/-! # Operators

The binary operators of expressions, how they are written and how tightly they bind.
-/

namespace Hybrid

/-- A binary operator. -/
inductive Operator where
  | add
  | sub
  | mul
  | div
  | mod
  | concat
  deriving DecidableEq

namespace Operator

/-- Every operator, in order of declaration. -/
def all : List Operator :=
  [.add, .sub, .mul, .div, .mod, .concat]

/-- The sign between the operands. -/
def symbol : Operator → String
  | .add => "+"
  | .sub => "-"
  | .mul => "*"
  | .div => "/"
  | .mod => "%"
  | .concat => "||"

/-- Binding strength; the greater binds the tighter. -/
def precedence : Operator → Nat
  | .concat => 1
  | .add | .sub => 2
  | .mul | .div | .mod => 3

/-- Whether a right operand with the same operator is written without parentheses. -/
def isAssociative : Operator → Bool
  | .add | .mul | .concat => true
  | .sub | .div | .mod => false

end Operator

/-- An operator on numbers. -/
inductive Arithmetic where
  | add
  | sub
  | mul
  | div
  | mod
  deriving DecidableEq

/-- An operator on numbers as an operator of expressions. -/
def Arithmetic.operator : Arithmetic → Operator
  | .add => .add
  | .sub => .sub
  | .mul => .mul
  | .div => .div
  | .mod => .mod

/-- The operation on numbers that an operator stands for; concatenation stands for none. -/
def Operator.arithmetic? : Operator → Option Arithmetic
  | .add => some .add
  | .sub => some .sub
  | .mul => some .mul
  | .div => some .div
  | .mod => some .mod
  | .concat => none

end Hybrid
