import Hybrid.Decimal.Shortest

/-! # Writing a double

A `Style` holds the decisions of a number format; `Style.write` carries them out on the shortest
digits that read back.
-/

namespace Hybrid.Decimal

/-- How doubles are spelled: which magnitudes are written positionally, and the marks around the
digits. -/
structure Style where
  /-- The least power of ten, of the leading digit, that is written positionally. -/
  least : Int
  /-- The greatest power of ten, of the leading digit, that is written positionally. -/
  greatest : Int
  /-- What follows a positional number without a fraction. -/
  wholeMark : String
  exponentMark : String
  nan : String
  infinity : String

/-- The decimal digits of a number. -/
def digitText (digits : Nat) : String :=
  toString digits

/-- The decimal digits of a whole number, with a sign if it is negative. -/
def wholeText (number : Int) : String :=
  if number < 0 then "-" ++ digitText number.natAbs else digitText number.natAbs

/-- A text of zeros. -/
def zeros (count : Nat) : String :=
  String.ofList (List.replicate count '0')

/-- Plain notation: the digits with the point in its place and zeros as far as it. -/
def Style.positional (style : Style) (number : Scientific) : String :=
  let digits := digitText number.digits
  if 0 ≤ number.exponent then digits ++ zeros number.exponent.toNat ++ style.wholeMark
  else
    let places := (-number.exponent).toNat
    let padded := zeros (places + 1 - digits.length) ++ digits
    let whole := padded.toList.take (padded.length - places)
    let fraction := padded.toList.drop (padded.length - places)
    String.ofList whole ++ "." ++ String.ofList fraction

/-- Scientific notation: one digit before the point, and the power of ten without padding. -/
def Style.scientific (style : Style) (number : Scientific) (power : Int) : String :=
  match (digitText number.digits).toList with
  | [] => ""
  | [digit] => digit.toString ++ style.exponentMark ++ wholeText power
  | digit :: fraction =>
    digit.toString ++ "." ++ String.ofList fraction ++ style.exponentMark ++ wholeText power

/-- The text of a number greater than zero. -/
def Style.writeDigits (style : Style) (number : Scientific) : String :=
  let power := number.exponent + (digitText number.digits).length - 1
  if style.least ≤ power ∧ power ≤ style.greatest then style.positional number
  else style.scientific number power

/-- The text of a double: the sign, also of a zero, and the fewest digits that read back. -/
def Style.write (style : Style) (x : Float) : String :=
  match Binary64.ofFloat x with
  | .nan => style.nan
  | .infinite negative => (if negative then "-" else "") ++ style.infinity
  | .finite negative mantissa exponent =>
    (if negative then "-" else "") ++
      if mantissa = 0 then "0" ++ style.wholeMark
      else style.writeDigits (shortest mantissa exponent)

end Hybrid.Decimal
