import Mathlib
import Hybrid.Decimal.Binary64

/-! # Floats of the same number

The comparison of floats goes by their numbers, so it cannot tell a zero from its opposite. It can
tell all others apart: a float is what it unpacks into. Arithmetic unpacks its operands and packs
its result, so on floats that are told apart by the sign of a zero alone its results are told apart
by that sign alone. Division by a zero, whose sign becomes that of an infinity, is the one exception.
-/

namespace Hybrid.Decimal

open Float.Model (UnpackedFloat pack)
open Float.Model.UnpackedFloat

section Bits

variable {a b : BitVec Float.Model.Format.binary64.numBits}

/-- The sign, the exponent and the fraction make up a bit pattern. -/
theorem bits_eq (sign : unpackSign a = unpackSign b)
    (exponent : unpackExponent a = unpackExponent b)
    (fraction : unpackMantissa a = unpackMantissa b) : a = b := by
  have bound : a.toNat < 2 ^ 64 := a.isLt
  have bound' : b.toNat < 2 ^ 64 := b.isLt
  simp only [unpackSign, unpackExponent, unpackMantissa, BitVec.cast_eq, ← BitVec.toNat_inj,
    BitVec.extractLsb_toNat, Nat.shiftRight_eq_div_pow] at sign exponent fraction
  rw [← BitVec.toNat_inj]
  omega

theorem ofBitVec_injective : Function.Injective Sign.ofBitVec := by
  intro a b same
  unfold Sign.ofBitVec at same
  split_ifs at same with zero zero' zero'
  · exact zero.trans zero'.symm
  · bv_omega

theorem toNat_one_append {width : Nat} (bits : BitVec width) :
    (1#1 ++ bits).toNat = 2 ^ width + bits.toNat := by
  rw [BitVec.toNat_append, ← Nat.shiftLeft_add_eq_or_of_lt bits.isLt]
  simp [Nat.shiftLeft_eq]

/-- A bit pattern is what it unpacks into, if it is no NaN other than the one that arithmetic
gives. -/
theorem bits_eq_of_unpack (valid : Float.Model.Format.binary64.Valid a)
    (valid' : Float.Model.Format.binary64.Valid b)
    (same : unpack .binary64 a = unpack .binary64 b) : a = b := by
  have small := (unpackMantissa a).isLt
  have small' := (unpackMantissa b).isLt
  unfold unpack at same
  dsimp only at same
  split_ifs at same
  -- Infinities, the NaN, zeros, and then finite numbers without and with a leading one.
  · next full whole full' whole' =>
    exact bits_eq (ofBitVec_injective (infinity.inj same)) (full.trans full'.symm)
      (whole.trans whole'.symm)
  · next full part full' part' =>
    exact (valid.eq_packedNaN full part).trans (valid'.eq_packedNaN full' part').symm
  · next least whole _ least' whole' =>
    exact bits_eq (ofBitVec_injective (zero.inj same)) (least.trans least'.symm)
      (whole.trans whole'.symm)
  · next least _ _ least' _ =>
    obtain ⟨sign, fraction, -⟩ := finite.inj same
    exact bits_eq (ofBitVec_injective sign) (least.trans least'.symm)
      (BitVec.eq_of_toNat_eq fraction)
  -- A number without the leading one has fewer digits than any with it.
  · obtain ⟨-, fraction, -⟩ := finite.inj same
    rw [toNat_one_append] at fraction
    omega
  · obtain ⟨-, fraction, -⟩ := finite.inj same
    rw [toNat_one_append] at fraction
    omega
  · obtain ⟨sign, fraction, exponent⟩ := finite.inj same
    rw [toNat_one_append, toNat_one_append] at fraction
    exact bits_eq (ofBitVec_injective sign) (BitVec.eq_of_toNat_eq (by omega))
      (BitVec.eq_of_toNat_eq (by omega))

end Bits

/-- The parts of a float: its sign, and its digits if it is finite. -/
def parts (x : Float) : UnpackedFloat :=
  x.toModel.unpack

theorem parts_injective : Function.Injective parts := by
  rintro ⟨⟨⟨a⟩, valid⟩⟩ ⟨⟨⟨b⟩, valid'⟩⟩ same
  obtain rfl := bits_eq_of_unpack valid valid' same
  rfl

/-! ## Parts -/

theorem sub_eq_add_opposite (format : Float.Model.Format) (a b : UnpackedFloat) :
    a.sub format b = a.add format b.neg := by
  cases a with
  | finite s m e =>
    cases b with
    | finite t n f =>
      have opposite : (-t).apply = fun size => -t.apply size := by
        funext size
        cases t
        · exact (neg_neg _).symm
        · rfl
      simp only [UnpackedFloat.sub, UnpackedFloat.add, UnpackedFloat.neg, opposite, sub_eq_add_neg]
    | _ => rfl
  | _ => cases b <;> rfl

/-- The parts of equal numbers: the same ones, or two zeros. -/
inductive SameNumber : UnpackedFloat → UnpackedFloat → Prop
  | same (number : UnpackedFloat) : SameNumber number number
  | zeros (sign other : Sign) : SameNumber (.zero sign) (.zero other)

namespace SameNumber

variable {format : Float.Model.Format} {a a' b b' : UnpackedFloat}

theorem trans {c : UnpackedFloat} (first : SameNumber a b) (second : SameNumber b c) :
    SameNumber a c := by
  cases first with
  | same => exact second
  | zeros => cases second <;> exact .zeros _ _

theorem neg (operand : SameNumber a a') : SameNumber a.neg a'.neg := by
  cases operand with
  | same => exact .same _
  | zeros => exact .zeros _ _

theorem abs (operand : SameNumber a a') : SameNumber a.abs a'.abs := by
  cases operand <;> exact .same _

/-- An operation goes by the numbers if it does so in each of its operands. -/
theorem both {op : UnpackedFloat → UnpackedFloat → UnpackedFloat}
    (lhs : ∀ s t b, SameNumber (op (.zero s) b) (op (.zero t) b))
    (rhs : ∀ s t a, SameNumber (op a (.zero s)) (op a (.zero t)))
    (first : SameNumber a a') (second : SameNumber b b') : SameNumber (op a b) (op a' b') := by
  have left : SameNumber (op a b) (op a' b) := by
    cases first with
    | same => exact .same _
    | zeros s t => exact lhs s t b
  have right : SameNumber (op a' b) (op a' b') := by
    cases second with
    | same => exact .same _
    | zeros s t => exact rhs s t a'
  exact left.trans right

theorem add (first : SameNumber a a') (second : SameNumber b b') :
    SameNumber (a.add format b) (a'.add format b') := by
  refine both (fun s t b => ?_) (fun s t a => ?_) first second
  · cases b with
    | zero sign => cases s <;> cases t <;> cases sign <;> exact .zeros _ _
    | _ => exact .same _
  · cases a with
    | zero sign => cases s <;> cases t <;> cases sign <;> exact .zeros _ _
    | _ => exact .same _

theorem sub (first : SameNumber a a') (second : SameNumber b b') :
    SameNumber (a.sub format b) (a'.sub format b') := by
  rw [sub_eq_add_opposite, sub_eq_add_opposite]
  exact first.add second.neg

theorem mul (first : SameNumber a a') (second : SameNumber b b') :
    SameNumber (a.mul format b) (a'.mul format b') := by
  refine both (fun s t b => ?_) (fun s t a => ?_) first second
  · cases b <;> first | exact .same _ | exact .zeros _ _
  · cases a <;> first | exact .same _ | exact .zeros _ _

/-- A quotient goes by the number that is divided. A zero that divides shows its sign in it. -/
theorem div (first : SameNumber a a') : SameNumber (a.div format b) (a'.div format b) := by
  cases first with
  | same => exact .same _
  | zeros => cases b <;> first | exact .same _ | exact .zeros _ _

end SameNumber

theorem sameNumber_iff {a b : UnpackedFloat} :
    SameNumber a b ↔ a = b ∨ (∃ s, a = .zero s) ∧ ∃ t, b = .zero t := by
  constructor
  · rintro (_ | ⟨s, t⟩)
    · exact .inl rfl
    · exact .inr ⟨⟨s, rfl⟩, t, rfl⟩
  · rintro (rfl | ⟨⟨s, rfl⟩, t, rfl⟩)
    · exact .same a
    · exact .zeros s t

theorem sameNumber_zero_iff {a : UnpackedFloat} {t : Sign} :
    SameNumber a (.zero t) ↔ ∃ s, a = .zero s := by
  constructor
  · rintro (_ | ⟨s⟩)
    · exact ⟨t, rfl⟩
    · exact ⟨s, rfl⟩
  · rintro ⟨s, rfl⟩
    exact .zeros s t

section Comparison

variable {a b : UnpackedFloat} {s t : Sign} {m n : Nat} {e f : Int} {hm : 0 < m} {hn : 0 < n}

theorem beq_infinity : (infinity s).beq (infinity t) = true ↔ s = t := by
  constructor
  · intro equal
    cases s <;> cases t <;> first | rfl | cases equal
  · rintro rfl
    cases s <;> rfl

theorem beq_finite :
    (finite s m e hm).beq (finite t n f hn) = true ↔ finite s m e hm = finite t n f hn := by
  cases s <;> cases t <;> simp [UnpackedFloat.beq, UnpackedFloat.compare, and_comm]

/-- Parts are of equal numbers if the comparison says so, no NaN being equal to any. -/
theorem beq_iff : a.beq b = true ↔ SameNumber a b ∧ a ≠ .notANumber := by
  constructor
  · intro equal
    cases a with
    | notANumber => cases equal
    | infinity s =>
      cases b with
      | infinity t =>
        obtain rfl := beq_infinity.mp equal
        exact ⟨.same _, nofun⟩
      | _ => cases s <;> cases equal
    | zero s =>
      cases b with
      | zero t => exact ⟨.zeros s t, nofun⟩
      | notANumber => cases equal
      | infinity t => cases t <;> cases equal
      | finite t => cases t <;> cases equal
    | finite s =>
      cases b with
      | finite t => exact ⟨beq_finite.mp equal ▸ .same _, nofun⟩
      | notANumber => cases equal
      | infinity t => cases s <;> cases t <;> cases equal
      | zero t => cases s <;> cases equal
  · rintro ⟨same | _, number⟩
    · cases a with
      | notANumber => exact absurd rfl number
      | infinity s => exact beq_infinity.mpr rfl
      | zero s => rfl
      | finite s => exact beq_finite.mpr rfl
    · rfl

end Comparison

/-! ## Floats -/

/-- Floats of the same number: the same float, or two zeros. -/
def Alike (x y : Float) : Prop :=
  SameNumber (parts x) (parts y)

section Comparison

variable {x y : Float}

theorem eq_zero_iff : (x == 0) = true ↔ ∃ sign, parts x = .zero sign := by
  have zero : (x == 0) = true ↔ SameNumber (parts x) (.zero .positive) ∧ parts x ≠ .notANumber :=
    beq_iff
  rw [zero, sameNumber_zero_iff]
  constructor
  · exact And.left
  · rintro ⟨sign, whole⟩
    exact ⟨⟨sign, whole⟩, by rw [whole]; nofun⟩

/-- Floats of the same number are told apart only if they are zeros. -/
theorem alike_iff : Alike x y ↔ x = y ∨ (x == 0) = true ∧ (y == 0) = true := by
  rw [eq_zero_iff, eq_zero_iff, Alike, sameNumber_iff, parts_injective.eq_iff]

/-- The comparison of floats goes by their numbers, and no NaN is equal to any. -/
theorem beq_float_iff : (x == y) = true ↔ Alike x y ∧ x.isNaN = false := by
  have number : x.isNaN = false ↔ parts x ≠ .notANumber := by
    change (parts x).isNaN = false ↔ _
    cases parts x <;> simp [UnpackedFloat.isNaN]
  rw [number]
  exact beq_iff

end Comparison

theorem SameNumber.alike {u v : UnpackedFloat} (same : SameNumber u v) :
    Alike (.ofModel (pack u)) (.ofModel (pack v)) := by
  cases same with
  | same => exact .same _
  | zeros s t => cases s <;> cases t <;> exact .zeros _ _

theorem eq_of_eq_zero {x : Float} (zero : (x == 0) = true) : x = 0.0 ∨ x = -0.0 := by
  obtain ⟨sign, zero⟩ := eq_zero_iff.mp zero
  have same : x = .ofModel (pack (.zero sign)) :=
    parts_injective (zero.trans (by cases sign <;> rfl))
  rw [same]
  cases sign
  · exact .inr rfl
  · exact .inl rfl

theorem ofFloat_zero {x : Float} (zero : (x == 0) = true) :
    ∃ negative, Binary64.ofFloat x = .finite negative 0 (-1074) := by
  rcases eq_of_eq_zero zero with rfl | rfl
  · exact ⟨false, rfl⟩
  · exact ⟨true, rfl⟩

namespace Alike

variable {x x' y y' : Float}

theorem refl (x : Float) : Alike x x :=
  .same _

theorem neg (operand : Alike x x') : Alike (-x) (-x') :=
  (SameNumber.neg operand).alike

theorem abs (operand : Alike x x') : Alike x.abs x'.abs :=
  (SameNumber.abs operand).alike

theorem add (first : Alike x x') (second : Alike y y') : Alike (x + y) (x' + y') :=
  (SameNumber.add first second).alike

theorem sub (first : Alike x x') (second : Alike y y') : Alike (x - y) (x' - y') :=
  (SameNumber.sub first second).alike

theorem mul (first : Alike x x') (second : Alike y y') : Alike (x * y) (x' * y') :=
  (SameNumber.mul first second).alike

theorem div (first : Alike x x') : Alike (x / y) (x' / y) :=
  (SameNumber.div first).alike

theorem remainder (first : Alike x x') : Alike (remainder x y) (remainder x' y) := by
  rcases alike_iff.mp first with rfl | ⟨zero, zero'⟩
  · exact .refl _
  · obtain ⟨negative, dividend⟩ := ofFloat_zero zero
    obtain ⟨negative', dividend'⟩ := ofFloat_zero zero'
    unfold Decimal.remainder
    rw [dividend, dividend']
    cases Binary64.ofFloat y with
    | nan => exact .refl _
    | infinite => exact first
    | finite _ n =>
      dsimp only
      split
      · exact .refl _
      · rw [if_pos rfl, if_pos rfl]
        exact first

end Alike

end Hybrid.Decimal
