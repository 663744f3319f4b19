import Hybrid.Proofs.Value.Exact

/-! # Whole numbers and overflow

The exact result of an operator is said by equations alone: a quotient and a remainder make up the
dividend, with a remainder smaller than the divisor and no further from zero than the dividend is. An
operator on whole numbers gives that result where it fits into sixty-four bits, and reports an
overflow where it does not. It reports one too often: the remainder of the least number by minus one
is zero.
-/

namespace Hybrid

/-- A division toward zero: the remainder is smaller than the divisor and has the sign of the
dividend. -/
structure IsDivision (dividend divisor quotient remainder : Int) : Prop where
  sum : dividend = divisor * quotient + remainder
  small : remainder.natAbs < divisor.natAbs
  nonneg : 0 ≤ dividend → 0 ≤ remainder
  nonpos : dividend ≤ 0 → remainder ≤ 0

namespace IsDivision

variable {a b quotient remainder other rest : Int}

theorem divisor_ne_zero (division : IsDivision a b quotient remainder) : b ≠ 0 := by
  rintro rfl
  exact Nat.not_lt_zero _ division.small

/-- Truncation gives a division. -/
theorem of_ne_zero (nonzero : b ≠ 0) : IsDivision a b (a.tdiv b) (a.tmod b) where
  sum := (Int.mul_tdiv_add_tmod a b).symm
  small := by
    rw [Int.natAbs_tmod]
    exact Nat.mod_lt _ (Int.natAbs_pos.mpr nonzero)
  nonneg := Int.tmod_nonneg b
  nonpos := by
    intro nonpos
    have opposite : 0 ≤ (-a).tmod b := Int.tmod_nonneg b (by omega)
    rw [Int.neg_tmod] at opposite
    omega

/-- There is one division at most. -/
theorem unique (first : IsDivision a b quotient remainder) (second : IsDivision a b other rest) :
    quotient = other ∧ remainder = rest := by
  have difference : b * (quotient - other) = rest - remainder := by
    have sums := first.sum.symm.trans second.sum
    rw [Int.mul_sub]
    omega
  -- two remainders on one side of zero are closer than the divisor
  have close : (rest - remainder).natAbs < b.natAbs := by
    have small := first.small
    have small' := second.small
    rcases Int.le_total 0 a with side | side
    · have := first.nonneg side
      have := second.nonneg side
      omega
    · have := first.nonpos side
      have := second.nonpos side
      omega
  have same : rest - remainder = 0 :=
    Int.eq_zero_of_dvd_of_natAbs_lt_natAbs ⟨_, difference.symm⟩ close
  rw [same] at difference
  have equal := (Int.mul_eq_zero.mp difference).resolve_left first.divisor_ne_zero
  omega

theorem quotient_eq (division : IsDivision a b quotient remainder) : a.tdiv b = quotient :=
  ((of_ne_zero division.divisor_ne_zero).unique division).1

theorem remainder_eq (division : IsDivision a b quotient remainder) : a.tmod b = remainder :=
  ((of_ne_zero division.divisor_ne_zero).unique division).2

end IsDivision

namespace Value

/-- A whole number within sixty-four bits, of which one tells the sign. -/
def Fits (number : Int) : Prop :=
  -9223372036854775808 ≤ number ∧ number ≤ 9223372036854775807

instance : DecidablePred Fits := fun number =>
  inferInstanceAs (Decidable (-9223372036854775808 ≤ number ∧ number ≤ 9223372036854775807))

theorem ofInt?_of_fits {number : Int} (fits : Fits number) :
    ∃ word : Int64, ofInt? number = some (.int word) ∧ word.toInt = number := by
  obtain ⟨least, greatest⟩ := fits
  exact ⟨_, if_pos ⟨least, greatest⟩,
    Int64.toInt_ofInt_of_le least (Int.lt_of_le_sub_one greatest)⟩

theorem ofInt?_of_not_fits {number : Int} (outside : ¬ Fits number) : ofInt? number = none :=
  if_neg outside

end Value

namespace Arithmetic

open Value (Fits)

/-- The exact result of an operator on whole numbers. -/
def IsResult (op : Arithmetic) (a b result : Int) : Prop :=
  match op with
  | .add => result = a + b
  | .sub => result = a - b
  | .mul => result = a * b
  | .div => ∃ remainder, IsDivision a b result remainder
  | .mod => ∃ quotient, IsDivision a b quotient result

theorem result?_eq_some_iff {op : Arithmetic} {a b result : Int} :
    op.result? a b = some result ↔ op.IsResult a b result := by
  cases op with
  | add => simp only [result?, IsResult, Option.some.injEq, eq_comm]
  | sub => simp only [result?, IsResult, Option.some.injEq, eq_comm]
  | mul => simp only [result?, IsResult, Option.some.injEq, eq_comm]
  | div =>
    simp only [result?, IsResult, Option.ite_none_left_eq_some, Option.some.injEq]
    constructor
    · rintro ⟨nonzero, rfl⟩
      exact ⟨_, .of_ne_zero nonzero⟩
    · rintro ⟨remainder, division⟩
      exact ⟨division.divisor_ne_zero, division.quotient_eq⟩
  | mod =>
    simp only [result?, IsResult, Option.ite_none_left_eq_some, Option.some.injEq]
    constructor
    · rintro ⟨nonzero, rfl⟩
      exact ⟨_, .of_ne_zero nonzero⟩
    · rintro ⟨quotient, division⟩
      exact ⟨division.divisor_ne_zero, division.remainder_eq⟩

theorem result?_eq_none_iff {op : Arithmetic} {a b : Int} :
    op.result? a b = none ↔ op.divides = true ∧ b = 0 := by
  cases op <;> simp [result?, divides]

/-- There is one exact result, except of a division by zero. -/
theorem existsUnique_isResult_iff {op : Arithmetic} {a b : Int} :
    (∃! result, op.IsResult a b result) ↔ ¬ (op.divides = true ∧ b = 0) := by
  rw [← result?_eq_none_iff, ← ne_eq, Option.ne_none_iff_exists']
  simp only [← result?_eq_some_iff]
  refine ⟨fun ⟨result, here, _⟩ => ⟨result, here⟩, fun ⟨result, here⟩ => ⟨result, here, ?_⟩⟩
  intro other there
  exact Option.some.inj (there.symm.trans here)

/-- The remainder of the least number by minus one, which is refused with the quotient. -/
def IsRefused (op : Arithmetic) (a b : Int64) : Prop :=
  op = .mod ∧ a = Int64.minValue ∧ b = -1

instance (op : Arithmetic) (a b : Int64) : Decidable (op.IsRefused a b) :=
  inferInstanceAs (Decidable (op = .mod ∧ a = Int64.minValue ∧ b = -1))

/-- On whole numbers an operator of expressions is the operator on numbers. -/
theorem apply_operator (op : Arithmetic) (a b : Int64) :
    Value.apply op.operator (.int a) (.int b) = op.onInts a b := by
  cases op <;> rfl

variable {op : Arithmetic} {a b : Int64} {result : Int}

theorem onInts_of_isResult (calculated : op.IsResult a.toInt b.toInt result) :
    op.onInts a b =
      if op.IsRefused a b then .error (.overflow .mod)
      else (Value.ofInt? result).elim (.error (.overflow op.operator)) .ok := by
  unfold onInts
  rw [result?_eq_some_iff.mpr calculated]
  dsimp only
  cases Value.ofInt? result <;> rfl

/-- An exact result that fits is given. -/
theorem onInts_of_fits (calculated : op.IsResult a.toInt b.toInt result) (fits : Fits result)
    (given : ¬ op.IsRefused a b) : ∃ word, op.onInts a b = .ok (.int word) ∧ word.toInt = result := by
  obtain ⟨word, value, same⟩ := Value.ofInt?_of_fits fits
  refine ⟨word, ?_, same⟩
  rw [onInts_of_isResult calculated, if_neg given, value]
  rfl

/-- An exact result that does not fit is an overflow, and so is the one that is refused. -/
theorem onInts_of_overflow (calculated : op.IsResult a.toInt b.toInt result)
    (outside : ¬ Fits result ∨ op.IsRefused a b) :
    op.onInts a b = .error (.overflow op.operator) := by
  rw [onInts_of_isResult calculated]
  split
  · next refused => rw [refused.1]; rfl
  · next given =>
    rw [Value.ofInt?_of_not_fits (outside.resolve_right given)]
    rfl

theorem onInts_eq_divisionByZero_iff :
    op.onInts a b = .error .divisionByZero ↔ op.divides = true ∧ b = 0 := by
  have zero : b = 0 ↔ b.toInt = 0 := Int64.toInt_inj.symm
  rw [zero, ← result?_eq_none_iff (a := a.toInt)]
  cases number : op.result? a.toInt b.toInt with
  | none => simp [onInts, number]
  | some result =>
    rw [onInts_of_isResult (result?_eq_some_iff.mp number)]
    cases Value.ofInt? result <;> simp [ite_eq_iff]

/-- Arithmetic on whole numbers is exact or reports an overflow. A division by zero, and nothing
else, is reported as such. Otherwise there is one exact result, and it is given if it fits into
sixty-four bits and the operation is not the one that is refused; in all other cases the operator
overflows. -/
theorem exact_or_overflow (op : Arithmetic) (a b : Int64) :
    (Value.apply op.operator (.int a) (.int b) = .error .divisionByZero ↔
        op.divides = true ∧ b = 0) ∧
      ((∃! result, op.IsResult a.toInt b.toInt result) ↔ ¬ (op.divides = true ∧ b = 0)) ∧
      ∀ result, op.IsResult a.toInt b.toInt result →
        ((∃ word, Value.apply op.operator (.int a) (.int b) = .ok (.int word) ∧
            word.toInt = result) ↔ Fits result ∧ ¬ op.IsRefused a b) ∧
          (Value.apply op.operator (.int a) (.int b) = .error (.overflow op.operator) ↔
            ¬ Fits result ∨ op.IsRefused a b) := by
  have zero : b = 0 ↔ b.toInt = 0 := Int64.toInt_inj.symm
  rw [apply_operator]
  refine ⟨onInts_eq_divisionByZero_iff, ?_, fun result calculated => ?_⟩
  · rw [zero]
    exact existsUnique_isResult_iff
  by_cases given : Fits result ∧ ¬ op.IsRefused a b
  · obtain ⟨word, value, same⟩ := onInts_of_fits calculated given.1 given.2
    have inside : ¬ (¬ Fits result ∨ op.IsRefused a b) := by tauto
    rw [value]
    exact ⟨iff_of_true ⟨word, rfl, same⟩ given, iff_of_false nofun inside⟩
  · have outside : ¬ Fits result ∨ op.IsRefused a b := by tauto
    rw [onInts_of_overflow calculated outside]
    exact ⟨iff_of_false (fun ⟨_, impossible, _⟩ => nomatch impossible) given,
      iff_of_true rfl outside⟩

/-- The least number has the remainder zero by minus one, which fits, but an overflow is reported. -/
theorem least_remainder_overflows :
    Arithmetic.IsResult .mod Int64.minValue.toInt (-1 : Int64).toInt 0 ∧ Fits 0 ∧
      Value.apply .mod (.int Int64.minValue) (.int (-1)) = .error (.overflow .mod) := by
  have remainder : Arithmetic.IsResult .mod Int64.minValue.toInt (-1 : Int64).toInt 0 :=
    ⟨2 ^ 63, by decide, by decide, by decide, by decide⟩
  have overflow := onInts_of_overflow remainder (.inr ⟨rfl, rfl, rfl⟩)
  exact ⟨remainder, by decide, overflow⟩

end Arithmetic

end Hybrid
