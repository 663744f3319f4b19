import Hybrid.Decimal.Notation
import Hybrid.Text.Quoted
import Hybrid.Value.Basic

/-! # The text of a value

`Value.display` is the literal that stands for a value in an expression. `Value.plainText` is what
concatenation joins: the same, but a text stands for itself.
-/

namespace Hybrid

/-- Floats are written in plain notation from `0.0001` up to, but not including, ten quadrillion,
always with a fraction, and in scientific notation elsewhere. -/
def Value.floatStyle : Decimal.Style where
  least := -4
  greatest := 15
  wholeMark := ".0"
  exponentMark := "e"
  nan := "NaN"
  infinity := "inf"

namespace Value

/-- The literal of a value. -/
def display : Value → String
  | .null => "NULL"
  | .bool true => "true"
  | .bool false => "false"
  | .int number => Decimal.wholeText number.toInt
  | .float number => floatStyle.write number
  | .text content => Text.Quoted.literal content

/-- The text of a value without quotes. -/
def plainText : Value → String
  | .text content => content
  | value => value.display

end Value

end Hybrid
