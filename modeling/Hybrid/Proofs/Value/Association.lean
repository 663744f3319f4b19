import Hybrid.Proofs.Value.Overflow

/-! # Association

An operator that counts as associative can be applied to three operands in two groupings. Whichever
of them has a value has the exact one, so two values are equal. But a grouping fails with its
partial result: where only one of the two partial results fits into sixty-four bits, and where null
stands beside an operation that has no value, one grouping has a value and the other an error.
-/

namespace Hybrid

theorem Operator.eq_concat_or (op : Operator) :
    op = .concat ∨ ∃ arithmetic : Arithmetic, op = arithmetic.operator := by
  cases op with
  | add => exact .inr ⟨.add, rfl⟩
  | sub => exact .inr ⟨.sub, rfl⟩
  | mul => exact .inr ⟨.mul, rfl⟩
  | div => exact .inr ⟨.div, rfl⟩
  | mod => exact .inr ⟨.mod, rfl⟩
  | concat => exact .inl rfl

namespace Value

/-- `a op (b op c)`. -/
def groupedRight (op : Operator) (a b c : Value) : Except ArithmeticError Value := do
  a.apply op (← b.apply op c)

/-- `(a op b) op c`. -/
def groupedLeft (op : Operator) (a b c : Value) : Except ArithmeticError Value := do
  (← a.apply op b).apply op c

/-- The same value, or an error in both. -/
def SameOutcome : Except ArithmeticError Value → Except ArithmeticError Value → Prop
  | .ok x, .ok y => x = y
  | .error _, .error _ => True
  | .ok _, .error _ | .error _, .ok _ => False

theorem sameOutcome_iff {x y : Except ArithmeticError Value} :
    SameOutcome x y ↔ x.toOption = y.toOption := by
  cases x <;> cases y <;> simp [SameOutcome, Except.toOption]

theorem toOption_isSome_iff {x : Except ArithmeticError Value} :
    x.toOption.isSome = true ↔ ∃ value, x = .ok value := by
  cases x <;> simp [Except.toOption]

theorem exists_apply_concat (a b : Value) : ∃ value, a.apply .concat b = .ok value := by
  unfold apply
  split
  · exact ⟨_, rfl⟩
  · exact ⟨_, rfl⟩

end Value

namespace Exact

open Value (Fits)

theorem isSome_int_iff {number : Int} : (int number).value?.isSome = true ↔ Fits number := by
  by_cases fits : Fits number
  · obtain ⟨word, value, -⟩ := Value.ofInt?_of_fits fits
    simp [value?, value, fits]
  · simp [value?, Value.ofInt?_of_not_fits fits, fits]

section Numbers

variable {op : Arithmetic} {a b : Exact} {m n result : Int}

theorem apply_operator_int (calculated : op.IsResult m n result) :
    apply op.operator (.int m) (.int n) = .int result := by
  have same : apply op.operator (.int m) (.int n) = calculate op (.int m) (.int n) := by
    cases op <;> rfl
  rw [same, calculate]
  simp [toInt?, Arithmetic.result?_eq_some_iff.mpr calculated]

/-- Beside null only whole numbers have a result that is defined. -/
theorem exists_int_of_defined (left : a ≠ .null) (right : b ≠ .null)
    (defined : apply op.operator a b ≠ .undefined) :
    ∃ m n result, a = .int m ∧ b = .int n ∧ op.IsResult m n result := by
  have same : apply op.operator a b = a.calculate op b := by
    rw [apply_eq_operate _ left right]
    cases op <;> rfl
  rw [same] at defined
  cases a with
  | int m =>
    cases b with
    | int n =>
      cases calculated : op.result? m n with
      | some result => exact ⟨m, n, result, rfl, rfl, Arithmetic.result?_eq_some_iff.mp calculated⟩
      | none => exact absurd (by simp [calculate, toInt?, calculated]) defined
    | _ => exact absurd rfl defined
  | _ => exact absurd rfl defined

end Numbers

theorem ofValue_eq_null_iff {value : Value} : ofValue value = .null ↔ value = .null := by
  cases value <;> simp [ofValue]

theorem toInt_of_ofValue_eq {value : Value} {number : Int} (same : ofValue value = .int number) :
    ∃ word : Int64, value = .int word ∧ word.toInt = number := by
  cases value with
  | int word => exact ⟨word, rfl, Exact.int.inj same⟩
  | _ => cases same

@[simp] theorem ofValue_null : ofValue .null = .null := rfl

@[simp] theorem value?_null : value? .null = some .null := rfl

theorem defined_of_isSome {a : Exact} (some : a.value?.isSome = true) : a ≠ .undefined := by
  rintro rfl
  cases some

theorem value?_calculate_eq (op : Arithmetic) (quotient : op ≠ .mod) (m n : Int64) :
    (calculate op (.int m.toInt) (.int n.toInt)).value? = (op.onInts m n).toOption := by
  cases result : op.result? m.toInt n.toInt with
  | none => simp [calculate, toInt?, value?, Arithmetic.onInts, result, Except.toOption]
  | some number =>
    have given : ¬ op.IsRefused m n := fun refused => quotient refused.1
    rw [Arithmetic.onInts_of_isResult (Arithmetic.result?_eq_some_iff.mp result), if_neg given]
    simp only [calculate, toInt?, Option.bind_some, result, Option.elim_some, value?]
    cases Value.ofInt? number <;> rfl

variable {op : Operator} {a b c : Value}

/-- An operator that leaves no remainder has a value exactly where the exact result is one. -/
theorem value?_apply_eq (left : ¬ a.IsFloat) (right : ¬ b.IsFloat) (quotient : op ≠ .mod) :
    (apply op (ofValue a) (ofValue b)).value? = (a.apply op b).toOption := by
  cases applied : a.apply op b with
  | ok value => exact value?_apply (value?_ofValue left) (value?_ofValue right) applied
  | error error =>
    rw [← applied]
    cases a <;> cases b
    case int.int m n =>
      cases op with
      | mod => exact absurd rfl quotient
      | concat => rfl
      | add => exact value?_calculate_eq .add nofun m n
      | sub => exact value?_calculate_eq .sub nofun m n
      | mul => exact value?_calculate_eq .mul nofun m n
      | div => exact value?_calculate_eq .div nofun m n
    all_goals
      first
        | exact absurd trivial left
        | exact absurd trivial right
        | cases op <;> rfl

/-- A grouping to the right gives the exact result, if its partial result is a value. -/
theorem toOption_groupedRight (exactA : ¬ a.IsFloat) (exactB : ¬ b.IsFloat) (exactC : ¬ c.IsFloat)
    (quotient : op ≠ .mod) :
    (Value.groupedRight op a b c).toOption =
      (apply op (ofValue b) (ofValue c)).value?.bind fun _ =>
        (apply op (ofValue a) (apply op (ofValue b) (ofValue c))).value? := by
  have part := value?_apply_eq exactB exactC quotient
  unfold Value.groupedRight
  cases inner : b.apply op c with
  | error error =>
    rw [part, inner]
    rfl
  | ok value =>
    rw [inner] at part
    have exact : ¬ value.IsFloat := not_isFloat part
    rw [part, eq_ofValue part]
    exact (value?_apply_eq exactA exact quotient).symm

/-- A grouping to the left gives the exact result, if its partial result is a value. -/
theorem toOption_groupedLeft (exactA : ¬ a.IsFloat) (exactB : ¬ b.IsFloat) (exactC : ¬ c.IsFloat)
    (quotient : op ≠ .mod) :
    (Value.groupedLeft op a b c).toOption =
      (apply op (ofValue a) (ofValue b)).value?.bind fun _ =>
        (apply op (apply op (ofValue a) (ofValue b)) (ofValue c)).value? := by
  have part := value?_apply_eq exactA exactB quotient
  unfold Value.groupedLeft
  cases inner : a.apply op b with
  | error error =>
    rw [part, inner]
    rfl
  | ok value =>
    rw [inner] at part
    have exact : ¬ value.IsFloat := not_isFloat part
    rw [part, eq_ofValue part]
    exact (value?_apply_eq exact exactC quotient).symm

end Exact

namespace Value

/-- Both groupings of three operands have a value or none has: what stands beside a null at the end
has a value, and whole numbers with a total that fits have two partial results that fit or two that
do not. -/
structure Regroups (op : Operator) (a b c : Value) : Prop where
  nullLeft : a = .null → ∃ value, b.apply op c = .ok value
  nullRight : c = .null → ∃ value, a.apply op b = .ok value
  numbers : ∀ (arithmetic : Arithmetic) (l m n : Int64) (first last total : Int),
    op = arithmetic.operator → a = .int l → b = .int m → c = .int n →
    arithmetic.IsResult l.toInt m.toInt first → arithmetic.IsResult m.toInt n.toInt last →
    arithmetic.IsResult l.toInt last total → Fits total → (Fits first ↔ Fits last)

section Grouping

variable {op : Operator} {a b c : Value}

/-- Where no operand is null, both partial results of a total that fits are values or none is. -/
theorem Regroups.isSome_iff {arithmetic : Arithmetic}
    (regroups : Regroups arithmetic.operator a b c) (whole : arithmetic.divides = false)
    (left : a ≠ .null) (middle : b ≠ .null) (right : c ≠ .null)
    (total : (Exact.apply arithmetic.operator (.ofValue a)
      (Exact.apply arithmetic.operator (.ofValue b) (.ofValue c))).value?.isSome = true) :
    (Exact.apply arithmetic.operator (.ofValue a) (.ofValue b)).value?.isSome = true ↔
      (Exact.apply arithmetic.operator (.ofValue b) (.ofValue c)).value?.isSome = true := by
  have present {value : Value} (other : value ≠ .null) : Exact.ofValue value ≠ .null :=
    mt Exact.ofValue_eq_null_iff.mp other
  have part : Exact.apply arithmetic.operator (.ofValue b) (.ofValue c) ≠ .null := by
    rw [Exact.apply_eq_operate _ (present middle) (present right)]
    exact Exact.operate_ne_null _
  obtain ⟨_, _, result, isA, isPart, isTotal⟩ :=
    Exact.exists_int_of_defined (present left) part (Exact.defined_of_isSome total)
  obtain ⟨_, _, last, isB, isC, isLast⟩ :=
    Exact.exists_int_of_defined (present middle) (present right) (by rw [isPart]; nofun)
  obtain ⟨l, rfl, rfl⟩ := Exact.toInt_of_ofValue_eq isA
  obtain ⟨m, rfl, rfl⟩ := Exact.toInt_of_ofValue_eq isB
  obtain ⟨n, rfl, rfl⟩ := Exact.toInt_of_ofValue_eq isC
  rw [isB, isC, Exact.apply_operator_int isLast] at isPart
  obtain rfl := Exact.int.inj isPart
  obtain ⟨first, isFirst, -⟩ : ∃! first, arithmetic.IsResult l.toInt m.toInt first :=
    Arithmetic.existsUnique_isResult_iff.mpr (by simp [whole])
  rw [isA, isB, isC, Exact.apply_operator_int isLast, Exact.apply_operator_int isTotal,
    Exact.isSome_int_iff] at total
  rw [isA, isB, isC, Exact.apply_operator_int isFirst, Exact.apply_operator_int isLast,
    Exact.isSome_int_iff, Exact.isSome_int_iff]
  exact regroups.numbers arithmetic l m n first last result rfl rfl rfl rfl isFirst isLast isTotal
    total

variable (associative : op.isAssociative = true) (exactA : ¬ a.IsFloat) (exactB : ¬ b.IsFloat)
  (exactC : ¬ c.IsFloat)

include associative exactA exactB exactC

theorem regroups_iff :
    Regroups op a b c ↔
      ((Exact.apply op (.ofValue a)
          (Exact.apply op (.ofValue b) (.ofValue c))).value?.isSome = true →
        ((Exact.apply op (.ofValue a) (.ofValue b)).value?.isSome = true ↔
          (Exact.apply op (.ofValue b) (.ofValue c)).value?.isSome = true)) := by
  have quotient : op ≠ .mod := by rintro rfl; cases associative
  have first := Exact.value?_apply_eq exactA exactB quotient
  have last := Exact.value?_apply_eq exactB exactC quotient
  constructor
  · intro regroups total
    rcases op.eq_concat_or with rfl | ⟨arithmetic, rfl⟩
    · rw [first, last, toOption_isSome_iff, toOption_isSome_iff]
      exact iff_of_true (exists_apply_concat a b) (exists_apply_concat b c)
    by_cases left : a = .null
    · subst left
      rw [last, toOption_isSome_iff]
      exact iff_of_true rfl (regroups.nullLeft rfl)
    by_cases right : c = .null
    · subst right
      rw [first, toOption_isSome_iff]
      exact iff_of_true (regroups.nullRight rfl) (by simp)
    by_cases middle : b = .null
    · subst middle
      simp
    exact regroups.isSome_iff (by cases arithmetic <;> trivial) left middle right total
  · intro together
    refine ⟨?_, ?_, ?_⟩
    · rintro rfl
      rw [← toOption_isSome_iff, ← last]
      exact (together rfl).mp rfl
    · rintro rfl
      rw [← toOption_isSome_iff, ← first]
      exact (together (by simp)).mpr (by simp)
    · rintro arithmetic l m n first last total rfl rfl rfl rfl isFirst isLast isTotal fits
      simp only [Exact.ofValue, Exact.apply_operator_int isFirst, Exact.apply_operator_int isLast,
        Exact.apply_operator_int isTotal, Exact.isSome_int_iff] at together
      exact together fits

/-- Two groupings of three values do not differ in a value, and texts are concatenated in either.
They have the same outcome exactly if their partial results have values together, as far as it
matters: what stands beside a null at the end has a value, and of two partial sums or products with
a total that fits none leaves the range alone. -/
theorem grouping_cases :
    (∀ x y, groupedRight op a b c = .ok x → groupedLeft op a b c = .ok y → x = y) ∧
      (op = .concat →
        ∃ value, groupedRight op a b c = .ok value ∧ groupedLeft op a b c = .ok value) ∧
      (SameOutcome (groupedRight op a b c) (groupedLeft op a b c) ↔ Regroups op a b c) := by
  have quotient : op ≠ .mod := by rintro rfl; cases associative
  have right := Exact.toOption_groupedRight exactA exactB exactC quotient
  have left := Exact.toOption_groupedLeft exactA exactB exactC quotient
  rw [← Exact.apply_regroup ⟨associative, id⟩ rfl] at left
  have agree : ∀ x y, groupedRight op a b c = .ok x → groupedLeft op a b c = .ok y → x = y := by
    intro x y isRight isLeft
    rw [isRight] at right
    rw [isLeft] at left
    obtain ⟨_, -, exactRight⟩ := Option.bind_eq_some_iff.mp right.symm
    obtain ⟨_, -, exactLeft⟩ := Option.bind_eq_some_iff.mp left.symm
    exact Option.some.inj (exactRight.symm.trans exactLeft)
  refine ⟨agree, ?_, ?_⟩
  · rintro rfl
    obtain ⟨last, isLast⟩ := exists_apply_concat b c
    obtain ⟨first, isFirst⟩ := exists_apply_concat a b
    obtain ⟨x, isX⟩ := exists_apply_concat a last
    obtain ⟨y, isY⟩ := exists_apply_concat first c
    have isRight : groupedRight .concat a b c = .ok x := by
      rw [groupedRight, isLast]
      exact isX
    have isLeft : groupedLeft .concat a b c = .ok y := by
      rw [groupedLeft, isFirst]
      exact isY
    exact ⟨x, isRight, agree x y isRight isLeft ▸ isLeft⟩
  · rw [sameOutcome_iff, right, left, regroups_iff associative exactA exactB exactC]
    cases (Exact.apply op (.ofValue a) (Exact.apply op (.ofValue b) (.ofValue c))).value? <;>
      cases (Exact.apply op (.ofValue a) (.ofValue b)).value? <;>
      cases (Exact.apply op (.ofValue b) (.ofValue c)).value? <;> simp

end Grouping

/-- The sum of the greatest number, one and minus one has a value in one grouping only. -/
theorem greatest_sum_not_sameOutcome :
    Operator.isAssociative .add = true ∧
      ¬ SameOutcome (groupedRight .add (.int Int64.maxValue) (.int 1) (.int (-1)))
        (groupedLeft .add (.int Int64.maxValue) (.int 1) (.int (-1))) :=
  ⟨rfl, id⟩

theorem greatest_sum_not_regroups :
    Operator.isAssociative .add = true ∧ ¬ (Value.int Int64.maxValue).IsFloat ∧
      ¬ (Value.int 1).IsFloat ∧ ¬ (Value.int (-1)).IsFloat ∧
      ¬ Regroups .add (.int Int64.maxValue) (.int 1) (.int (-1)) :=
  ⟨rfl, id, id, id, fun regroups => (grouping_cases rfl id id id).2.2.mpr regroups⟩

/-- Null absorbs what is left of it, but not a partial result that has no value. -/
example :
    ¬ SameOutcome (groupedRight .add .null (.text "a") (.int 1))
      (groupedLeft .add .null (.text "a") (.int 1)) :=
  id

end Value

end Hybrid
