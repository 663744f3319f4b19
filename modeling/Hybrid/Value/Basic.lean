/-! # Values

What a field of an instance holds, and what a literal of an expression stands for.
-/

namespace Hybrid

/-- A plain value. -/
inductive Value where
  | null
  | bool (truth : Bool)
  | int (number : Int64)
  | float (number : Float)
  | text (content : String)

/-- The type of a value. -/
inductive ValueKind where
  | null
  | bool
  | int
  | float
  | text
  deriving DecidableEq

/-- The name of a type of values in messages. -/
def ValueKind.name : ValueKind → String
  | .null => "null"
  | .bool => "bool"
  | .int => "int"
  | .float => "float"
  | .text => "text"

/-- Every type of values, in order of declaration. -/
def ValueKind.all : List ValueKind :=
  [.null, .bool, .int, .float, .text]

namespace Value

def kind : Value → ValueKind
  | .null => .null
  | .bool _ => .bool
  | .int _ => .int
  | .float _ => .float
  | .text _ => .text

/-- Equality by content. Floats are equal as numbers, so no NaN equals itself and the two zeros
are equal. -/
def beq : Value → Value → Bool
  | .null, .null => true
  | .bool a, .bool b => a == b
  | .int a, .int b => a == b
  | .float a, .float b => a == b
  | .text a, .text b => a == b
  | _, _ => false

instance : BEq Value := ⟨beq⟩

def isNull : Value → Bool
  | .null => true
  | _ => false

def asInt? : Value → Option Int64
  | .int number => some number
  | _ => none

/-- A number as a float; whole numbers are rounded to the nearest one. -/
def asFloat? : Value → Option Float
  | .float number => some number
  | .int number => some number.toFloat
  | _ => none

def asText? : Value → Option String
  | .text content => some content
  | _ => none

def asBool? : Value → Option Bool
  | .bool truth => some truth
  | _ => none

/-- A whole number as a value, if it fits in sixty-four bits. -/
def ofInt? (number : Int) : Option Value :=
  if Int64.minValue.toInt ≤ number ∧ number ≤ Int64.maxValue.toInt then
    some (.int (Int64.ofInt number))
  else none

end Value

end Hybrid
