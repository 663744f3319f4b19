import Hybrid.Expr.Basic
import Hybrid.Json

/-! # Expressions as structured data

Each choice among constructors is written as a tag: alone if it has no content, else as the name of
the one member of an object. Reading asks for exactly that form, but it finds the parts of a
combination or a call in any order and passes over other members. JSON has no number for a float
that is not finite, so such a literal is written as null and does not read back.
-/

namespace Hybrid

/-- The tag of an operator. -/
def Operator.tag : Operator → String
  | .add => "Add"
  | .sub => "Sub"
  | .mul => "Mul"
  | .div => "Div"
  | .mod => "Mod"
  | .concat => "Concat"

/-- The tag of a type of values. -/
def ValueKind.tag : ValueKind → String
  | .null => "Null"
  | .bool => "Bool"
  | .int => "Int"
  | .float => "Float"
  | .text => "Text"

/-- The choice whose tag stands there. -/
def choose? {α : Type} (choices : List α) (tag : α → String) (json : Json) : Option α :=
  json.bareTag?.bind fun name => choices.find? (tag · = name)

def Operator.toJson (operator : Operator) : Json :=
  .text operator.tag

def Operator.ofJson? : Json → Option Operator :=
  choose? all tag

def ValueKind.toJson (kind : ValueKind) : Json :=
  .text kind.tag

def ValueKind.ofJson? : Json → Option ValueKind :=
  choose? all tag

def ExprKind.toJson (kind : ExprKind) : Json :=
  .text kind.name

def ExprKind.ofJson? : Json → Option ExprKind :=
  choose? all name

/-- The float nearest to a whole number. -/
def nearestFloat (number : Int) : Float :=
  let magnitude := Float.ofScientific number.natAbs false 0
  if number < 0 then -magnitude else magnitude

namespace Value

def toJson : Value → Json
  | .null => .text "Null"
  | .bool truth => .tagged "Bool" (.bool truth)
  | .int number => .tagged "Int" (.int number.toInt)
  | .float number => .tagged "Float" (if number.isFinite then .float number else .null)
  | .text content => .tagged "Text" (.text content)

/-- Reads a value. Whole numbers are floats too, but floats are not whole numbers. -/
def ofJson? : Json → Option Value
  | .text "Null" => some .null
  | .object [("Null", .null)] => some .null
  | .object [("Bool", .bool truth)] => some (.bool truth)
  | .object [("Int", .int number)] => ofInt? number
  | .object [("Float", .float number)] => some (.float number)
  | .object [("Float", .int number)] => some (.float (nearestFloat number))
  | .object [("Text", .text content)] => some (.text content)
  | _ => none

end Value

namespace Expr

mutual

def toJson : Expr → Json
  | .field name => .tagged "Field" (.text name)
  | .literal value => .tagged "Literal" value.toJson
  | .combined operator lhs rhs =>
    .tagged "Combined"
      (.object [("op", operator.toJson), ("lhs", toJson lhs), ("rhs", toJson rhs)])
  | .negated operand => .tagged "Negate" (toJson operand)
  | .call name arguments =>
    .tagged "Func" (.object [("name", .text name), ("args", .list (toJsonList arguments))])

def toJsonList : List Expr → List Json
  | [] => []
  | expr :: rest => toJson expr :: toJsonList rest

end

mutual

/-- Reads an expression. -/
def ofJson? : Json → Option Expr
  | .object [("Field", .text name)] => some (.field name)
  | .object [("Literal", value)] => (Value.ofJson? value).map .literal
  | .object [("Combined", .object members)] => do
    let operator ← (members.lookup "op").bind Operator.ofJson?
    let lhs ← memberOfJson? "lhs" members
    let rhs ← memberOfJson? "rhs" members
    return .combined operator lhs rhs
  | .object [("Negate", operand)] => (ofJson? operand).map .negated
  | .object [("Func", .object members)] =>
    match members.lookup "name" with
    | some (.text name) => (argumentsOfJson? members).map (.call name)
    | _ => none
  | _ => none

/-- Reads the expression that is the member of that name. -/
def memberOfJson? (name : String) : List (String × Json) → Option Expr
  | [] => none
  | (other, json) :: rest => if other = name then ofJson? json else memberOfJson? name rest

/-- Reads the list of expressions that is the member for arguments. -/
def argumentsOfJson? : List (String × Json) → Option (List Expr)
  | [] => none
  | (other, .list items) :: rest =>
    if other = "args" then listOfJson? items else argumentsOfJson? rest
  | (other, _) :: rest => if other = "args" then none else argumentsOfJson? rest

/-- Reads a list of expressions. -/
def listOfJson? : List Json → Option (List Expr)
  | [] => some []
  | json :: rest => do
    let expr ← ofJson? json
    return expr :: (← listOfJson? rest)

end

end Expr

end Hybrid
