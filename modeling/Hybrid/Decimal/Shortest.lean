import Hybrid.Decimal.Binary64

/-! # The shortest decimal that reads back

Every real number between the midpoints to its two neighbours rounds to a given double, the
midpoints included when its mantissa is even. `shortest` looks for a decimal in that interval on
coarser grids before finer ones: a grid that meets the interval meets it at one of the two grid
points next to the double, so only these two are tried, and of two hits the nearer is taken.
-/

namespace Hybrid.Decimal

/-- The number `digits * 10 ^ exponent`. -/
structure Scientific where
  digits : Nat
  exponent : Int
  deriving DecidableEq

/-- The power `base ^ exponent` as a fraction of two natural numbers. -/
def powerRatio (base : Nat) (exponent : Int) : Nat × Nat :=
  (Nat.pow base exponent.toNat, Nat.pow base (-exponent).toNat)

/-- The greatest `k` with `10 ^ k ≤ m * 2 ^ q`, for `m` greater than zero. -/
def decimalMagnitude (mantissa : Nat) (exponent : Int) : Int :=
  let guess := ((mantissa.log2 + exponent) * 1233).fdiv 4096
  let (two, halves) := powerRatio 2 exponent
  let (ten, tenths) := powerRatio 10 (guess + 1)
  if ten * halves ≤ mantissa * two * tenths then guess + 1 else guess

/-- The multiple of `10 ^ step` in the rounding interval of `m * 2 ^ q`, if there is one; the
nearer of two, and the greater of two that are equally near. -/
def nearestOnGrid? (mantissa : Nat) (exponent step : Int) : Option Nat :=
  let (two, halves) := powerRatio 2 exponent
  let (ten, tenths) := powerRatio 10 step
  let value := mantissa * two * tenths
  let unit := halves * ten
  let half := two * tenths
  let below := value / unit
  let closed := mantissa % 2 = 0
  let lowerGap := if mantissa = Nat.pow 2 52 ∧ -1074 < exponent then half else 2 * half
  let reachesDown := 4 * (value - below * unit)
  let reachesUp := 4 * ((below + 1) * unit - value)
  let down := reachesDown < lowerGap ∨ closed ∧ reachesDown = lowerGap
  let up := reachesUp < 2 * half ∨ closed ∧ reachesUp = 2 * half
  if down ∧ (¬ up ∨ reachesDown < reachesUp) then some below
  else if up then some (below + 1)
  else none

/-- Moves trailing zeros of the digits into the exponent, at most `fuel` of them. -/
def Scientific.normalize : Nat → Scientific → Scientific
  | 0, number => number
  | fuel + 1, number =>
    if number.digits % 10 = 0 then normalize fuel ⟨number.digits / 10, number.exponent + 1⟩
    else number

/-- The shortest decimal in the rounding interval of `m * 2 ^ q`, for `m` greater than zero: the
first of the grids of 1, 2, … 17 digits that meets the interval. -/
def shortest (mantissa : Nat) (exponent : Int) : Scientific :=
  let magnitude := decimalMagnitude mantissa exponent
  let hit := (List.range 17).findSome? fun (more : Nat) =>
    (nearestOnGrid? mantissa exponent (magnitude - more)).map
      fun digits => Scientific.normalize 17 ⟨digits, magnitude - more⟩
  hit.getD ⟨0, 0⟩

end Hybrid.Decimal
