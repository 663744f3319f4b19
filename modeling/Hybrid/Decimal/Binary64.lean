/-! # Doubles as exact numbers

A finite double is a whole number times a power of two. `Binary64.ofFloat` takes the bit pattern
apart, so that the digits of a number and the remainder of a division are computed in exact
arithmetic on natural numbers.
-/

namespace Hybrid.Decimal

/-- A double taken apart: `finite negative m q` is `m * 2 ^ q` with its sign. -/
inductive Binary64 where
  | nan
  | infinite (negative : Bool)
  | finite (negative : Bool) (mantissa : Nat) (exponent : Int)

/-- The parts of a double: one sign bit, eleven exponent bits, fifty-two bits of fraction. -/
def Binary64.ofFloat (x : Float) : Binary64 :=
  let bits := x.toBits.toNat
  let negative := bits / Nat.pow 2 63 == 1
  let exponentField : Nat := bits / Nat.pow 2 52 % Nat.pow 2 11
  let fraction := bits % Nat.pow 2 52
  if exponentField = Nat.pow 2 11 - 1 then
    if fraction = 0 then .infinite negative else .nan
  else if exponentField = 0 then .finite negative fraction (-1074)
  else .finite negative (Nat.pow 2 52 + fraction) ((exponentField : Int) - 1075)

/-- The double `m * 2 ^ q`, for a product that is exactly a double. -/
def ofScaled (negative : Bool) (mantissa : Nat) (exponent : Int) : Float :=
  let magnitude := (Float.ofNat mantissa).scaleB exponent
  if negative then -magnitude else magnitude

/-- The remainder of a division truncated toward zero: exact, and with the sign of the dividend. A
zero is its own remainder. -/
def remainder (dividend divisor : Float) : Float :=
  match Binary64.ofFloat dividend, Binary64.ofFloat divisor with
  | .finite _ _ _, .infinite _ => dividend
  | .finite negative m p, .finite _ n q =>
    if n = 0 then 0.0 / 0.0
    else if m = 0 then dividend
    else
      let unit := min p q
      ofScaled negative
        (m * Nat.pow 2 (p - unit).toNat % (n * Nat.pow 2 (q - unit).toNat)) unit
  | _, _ => 0.0 / 0.0

end Hybrid.Decimal
