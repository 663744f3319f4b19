/-! # Classes of characters

A character class is a finite union of ranges of code points, the form in which the properties of
Unicode are published.
-/

namespace Hybrid.Text

/-- A class of characters, given by the inclusive ranges of its code points in ascending order. -/
structure CharClass where
  ranges : List (Nat × Nat)

/-- Whether the class holds `c`. -/
def CharClass.contains (cls : CharClass) (c : Char) : Bool :=
  cls.ranges.any fun range => range.1 ≤ c.toNat && c.toNat ≤ range.2

end Hybrid.Text
