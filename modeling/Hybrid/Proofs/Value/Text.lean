import Hybrid.Value.Text

/-! # Texts of values

No value is written as an empty text, neither in an expression nor inside a number.
-/

namespace Hybrid

namespace Decimal

theorem digitText_ne_empty (digits : Nat) : digitText digits ≠ "" :=
  Nat.repr_ne_empty

theorem wholeText_ne_empty (number : Int) : wholeText number ≠ "" := by
  unfold wholeText
  split
  · simp
  · exact digitText_ne_empty _

private theorem append_ne_empty {first second : String} (full : second ≠ "") :
    first ++ second ≠ "" := by
  simpa using fun _ => full

/-- A double is written with some characters in every style that has them. -/
theorem write_ne_empty (style : Style) (nan : style.nan ≠ "") (infinity : style.infinity ≠ "")
    (wholeMark : style.wholeMark ≠ "") (number : Float) : style.write number ≠ "" := by
  have positional (digits : Scientific) : style.positional digits ≠ "" := by
    unfold Style.positional
    dsimp only
    split
    · exact append_ne_empty wholeMark
    · simp
  have scientific (digits : Scientific) (power : Int) : style.scientific digits power ≠ "" := by
    unfold Style.scientific
    split
    · next empty =>
      have full := digitText_ne_empty digits.digits
      exact absurd (by simpa using empty) full
    · exact append_ne_empty (wholeText_ne_empty power)
    · exact append_ne_empty (wholeText_ne_empty power)
  unfold Style.write
  split
  · exact nan
  · exact append_ne_empty infinity
  · refine append_ne_empty ?_
    split
    · exact append_ne_empty wholeMark
    · unfold Style.writeDigits
      dsimp only
      split
      · exact positional _
      · exact scientific _ _

end Decimal

namespace Value

theorem display_ne_empty (value : Value) : value.display ≠ "" := by
  cases value with
  | null => decide
  | bool truth => cases truth <;> decide
  | int number => exact Decimal.wholeText_ne_empty _
  | text content =>
    unfold display Text.Quoted.literal
    simp
  | float number => exact Decimal.write_ne_empty floatStyle (by decide) (by decide) (by decide) number

end Value

end Hybrid
