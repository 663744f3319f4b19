import Mathlib.Data.List.Forall2
import Hybrid.Expr.Evaluation

/-! # Exact values

The values other than floats with whole numbers of any size, and one more for what is not defined.
Null absorbs every operator here too, even beside what is not defined. Where an operation on values
has a result, the exact operation has the same one; but the exact operations never fail, so that
operators of one strength obey laws of association.
-/

namespace Hybrid

namespace Value

def IsFloat : Value → Prop
  | .float _ => True
  | .null | .bool _ | .int _ | .text _ => False

theorem ofInt?_toInt (number : Int64) : ofInt? number.toInt = some (.int number) := by
  unfold ofInt?
  rw [if_pos ⟨Int64.minValue_le_toInt number, Int64.toInt_le number⟩, Int64.ofInt_toInt]

/-- A whole number as a value is that number in sixty-four bits. -/
theorem ofInt?_eq_some {number : Int} {value : Value} (fits : ofInt? number = some value) :
    ∃ word : Int64, value = .int word ∧ word.toInt = number := by
  unfold ofInt? at fits
  split at fits
  · next range =>
    obtain rfl := Option.some.inj fits
    obtain ⟨least, greatest⟩ := range
    exact ⟨_, rfl, Int64.toInt_ofInt_of_le least (Int.lt_of_le_sub_one greatest)⟩
  · cases fits

end Value

/-- A value other than a float with a whole number of any size, or nothing that is defined. -/
inductive Exact where
  | null
  | bool (truth : Bool)
  | int (number : Int)
  | text (content : String)
  | undefined
  deriving DecidableEq

namespace Exact

def ofValue : Value → Exact
  | .null => .null
  | .bool truth => .bool truth
  | .int number => .int number.toInt
  | .text content => .text content
  | .float _ => .undefined

/-- The value itself, if its number fits in sixty-four bits. -/
def value? : Exact → Option Value
  | .null => some .null
  | .bool truth => some (.bool truth)
  | .int number => Value.ofInt? number
  | .text content => some (.text content)
  | .undefined => none

def toInt? : Exact → Option Int
  | .int number => some number
  | .null | .bool _ | .text _ | .undefined => none

/-- What concatenation joins. -/
def plainText? : Exact → Option String
  | .bool truth => some (Value.bool truth).display
  | .int number => some (Decimal.wholeText number)
  | .text content => some content
  | .null | .undefined => none

/-- The result on two numbers. -/
def calculate (op : Arithmetic) (a b : Exact) : Exact :=
  (a.toInt?.bind fun m => b.toInt?.bind fun n => op.result? m n).elim .undefined .int

/-- Two texts behind one another. -/
def join (a b : Exact) : Exact :=
  (a.plainText?.bind fun first => b.plainText?.map fun second => first ++ second).elim .undefined .text

/-- The result on two operands that are not null. -/
def operate (operator : Operator) (a b : Exact) : Exact :=
  match operator.arithmetic? with
  | some op => a.calculate op b
  | none => a.join b

def apply (operator : Operator) (a b : Exact) : Exact :=
  if a = .null ∨ b = .null then .null else a.operate operator b

def negate : Exact → Exact
  | .null => .null
  | .int number => .int (-number)
  | .bool _ | .text _ | .undefined => .undefined

/-- The result of a call on arguments that are values. -/
def call (name : String) (arguments : List Exact) : Exact :=
  ((arguments.mapM value?).bind (Expr.callValue? name)).elim .undefined ofValue

section Value

variable {a b : Exact} {x y value : Value}

theorem value?_ofValue (exact : ¬ x.IsFloat) : (ofValue x).value? = some x := by
  cases x with
  | int number => exact Value.ofInt?_toInt number
  | float number => exact absurd trivial exact
  | _ => rfl

theorem not_isFloat (same : a.value? = some x) : ¬ x.IsFloat := by
  cases a with
  | int number =>
    obtain ⟨word, rfl, -⟩ := Value.ofInt?_eq_some same
    exact id
  | undefined => cases same
  | _ => obtain rfl := Option.some.inj same; exact id

theorem eq_ofValue (same : a.value? = some x) : a = ofValue x := by
  cases a with
  | int number =>
    obtain ⟨word, rfl, rfl⟩ := Value.ofInt?_eq_some same
    rfl
  | undefined => cases same
  | _ => obtain rfl := Option.some.inj same; rfl

theorem plainText?_ofValue (present : x.isNull = false) (exact : ¬ x.IsFloat) :
    (ofValue x).plainText? = some x.plainText := by
  cases x with
  | null => cases present
  | float number => exact absurd trivial exact
  | _ => rfl

end Value

section Laws

variable {a b x y : Exact}

@[simp] theorem toInt?_calculate (op : Arithmetic) :
    (a.calculate op b).toInt? = a.toInt?.bind fun m => b.toInt?.bind fun n => op.result? m n := by
  unfold calculate
  cases a.toInt?.bind fun m => b.toInt?.bind fun n => op.result? m n <;> rfl

@[simp] theorem plainText?_join :
    (a.join b).plainText? =
      a.plainText?.bind fun first => b.plainText?.map fun second => first ++ second := by
  unfold join
  cases a.plainText?.bind fun first => b.plainText?.map fun second => first ++ second <;> rfl

theorem operate_ne_null (operator : Operator) : a.operate operator b ≠ .null := by
  unfold operate
  split
  · unfold calculate
    cases a.toInt?.bind fun m => b.toInt?.bind fun n => _ <;> simp
  · unfold join
    cases a.plainText?.bind fun first => b.plainText?.map fun second => first ++ second <;> simp

@[simp] theorem apply_null_left (operator : Operator) : apply operator .null b = .null := rfl

@[simp] theorem apply_null_right (operator : Operator) : apply operator a .null = .null :=
  if_pos (.inr rfl)

theorem apply_eq_operate (operator : Operator) (left : a ≠ .null) (right : b ≠ .null) :
    apply operator a b = a.operate operator b :=
  if_neg (by simp [left, right])

theorem calculate_regroup {op other : Arithmetic}
    (law : ∀ m n k : Int, (other.result? n k).bind (op.result? m) =
      (op.result? m n).bind fun sum => other.result? sum k) :
    a.calculate op (x.calculate other y) = (a.calculate op x).calculate other y := by
  rw [calculate, toInt?_calculate, calculate, toInt?_calculate]
  cases a.toInt? with
  | none => rfl
  | some m =>
    cases x.toInt? with
    | none => rfl
    | some n =>
      cases y.toInt? with
      | none => simp
      | some k =>
        exact congrArg (fun result => Option.elim result Exact.undefined Exact.int) (law m n k)

theorem join_assoc : a.join (x.join y) = (a.join x).join y := by
  rw [join, plainText?_join, join, plainText?_join]
  cases a.plainText? with
  | none => rfl
  | some first =>
    cases x.plainText? with
    | none => rfl
    | some second => cases y.plainText? <;> simp [String.append_assoc]

end Laws

end Exact

/-- An operator may go from behind its left operand to the left end of its right operand, past
another operator that binds as tight. -/
def Operator.Passes (operator other : Operator) : Prop :=
  operator.isAssociative = true ∧ (operator = .mul → other = .mul)

namespace Exact

theorem operate_regroup {operator other : Operator} (passes : operator.Passes other)
    (same : other.precedence = operator.precedence) (a x y : Exact) :
    a.operate operator (x.operate other y) = (a.operate operator x).operate other y := by
  obtain ⟨associative, product⟩ := passes
  cases operator with
  | add =>
    cases other with
    | add => exact calculate_regroup fun m n k => congrArg some (by omega)
    | sub => exact calculate_regroup fun m n k => congrArg some (by omega)
    | _ => cases same
  | mul =>
    obtain rfl := product rfl
    exact calculate_regroup fun m n k => congrArg some (Int.mul_assoc m n k).symm
  | concat =>
    cases other with
    | concat => exact join_assoc
    | _ => cases same
  | _ => cases associative

theorem apply_regroup {operator other : Operator} (passes : operator.Passes other)
    (same : other.precedence = operator.precedence) (a x y : Exact) :
    apply operator a (apply other x y) = apply other (apply operator a x) y := by
  by_cases left : a = .null
  · subst left
    simp
  by_cases middle : x = .null
  · subst middle
    simp
  by_cases right : y = .null
  · subst right
    simp
  rw [apply_eq_operate other middle right, apply_eq_operate operator left middle,
    apply_eq_operate operator left (operate_ne_null other),
    apply_eq_operate other (operate_ne_null operator) right]
  exact operate_regroup passes same a x y

section Value

variable {a b : Exact} {x y value : Value}

theorem isNull_iff (same : a.value? = some x) : x.isNull = true ↔ a = .null := by
  obtain rfl := eq_ofValue same
  cases x <;> simp [ofValue, Value.isNull]

private theorem value?_calculate {op : Arithmetic} {m n : Int64}
    (calculated : op.onInts m n = .ok value) :
    (calculate op (.int m.toInt) (.int n.toInt)).value? = some value := by
  unfold Arithmetic.onInts at calculated
  cases result : op.result? m.toInt n.toInt with
  | none => rw [result] at calculated; cases calculated
  | some number =>
    rw [result] at calculated
    dsimp only at calculated
    split at calculated
    · cases calculated
    · cases fits : Value.ofInt? number with
      | none => rw [fits] at calculated; cases calculated
      | some word =>
        rw [fits] at calculated
        obtain rfl := Except.ok.inj calculated
        have exact : calculate op (.int m.toInt) (.int n.toInt) = .int number := by
          simp [calculate, toInt?, result]
        rw [exact]
        exact fits

/-- Where an operator has a result, it is the exact one. -/
theorem value?_apply {operator : Operator} (left : a.value? = some x) (right : b.value? = some y)
    (applied : x.apply operator y = .ok value) : (apply operator a b).value? = some value := by
  unfold Value.apply at applied
  by_cases nulls : (x.isNull || y.isNull) = true
  · rw [if_pos nulls] at applied
    obtain rfl := Except.ok.inj applied
    have absorbed : apply operator a b = .null :=
      if_pos (by simpa [isNull_iff left, isNull_iff right] using nulls)
    rw [absorbed]
    rfl
  rw [if_neg nulls] at applied
  have present : a ≠ .null ∧ b ≠ .null := by
    simpa [isNull_iff left, isNull_iff right] using nulls
  rw [apply_eq_operate operator present.1 present.2, operate]
  cases arithmetic : operator.arithmetic? with
  | none =>
    rw [arithmetic] at applied
    obtain rfl := Except.ok.inj applied
    have texts : x.isNull = false ∧ y.isNull = false := by simpa using nulls
    have first : a.plainText? = some x.plainText :=
      eq_ofValue left ▸ plainText?_ofValue texts.1 (not_isFloat left)
    have second : b.plainText? = some y.plainText :=
      eq_ofValue right ▸ plainText?_ofValue texts.2 (not_isFloat right)
    simp [join, first, second, value?]
  | some op =>
    rw [arithmetic] at applied
    have exactLeft := not_isFloat left
    have exactRight := not_isFloat right
    obtain rfl := eq_ofValue left
    obtain rfl := eq_ofValue right
    -- only two whole numbers, or a float and another number, have a result
    cases x <;> cases y
    case int.int m n => exact value?_calculate applied
    case float.float => exact absurd trivial exactLeft
    case float.int => exact absurd trivial exactLeft
    case int.float => exact absurd trivial exactRight
    all_goals cases applied

theorem value?_negate (same : a.value? = some x) (negated : x.negate = .ok value) :
    a.negate.value? = some value := by
  obtain exact' := not_isFloat same
  obtain rfl := eq_ofValue same
  cases x with
  | null => exact congrArg some (Except.ok.inj negated)
  | int number =>
    rw [Value.negate] at negated
    cases fits : Value.ofInt? (-number.toInt) with
    | none => rw [fits] at negated; cases negated
    | some word =>
      rw [fits] at negated
      obtain rfl := Except.ok.inj negated
      exact fits
  | float number => exact absurd trivial exact'
  | _ => cases negated

/-- No function makes a float from other values. -/
theorem not_isFloat_call {name : String} {arguments : List Value}
    (exact : ∀ argument ∈ arguments, ¬ argument.IsFloat)
    (called : Expr.callValue? name arguments = some value) : ¬ value.IsFloat := by
  unfold Expr.callValue? at called
  obtain ⟨function, -, called⟩ := Option.bind_eq_some_iff.mp called
  unfold NativeFunction.call? at called
  split at called
  · obtain rfl := Option.some.inj called
    cases found : arguments.find? fun value => !value.isNull with
    | none => exact id
    | some first => exact exact first (List.mem_of_find?_eq_some found)
  · obtain rfl := Option.some.inj called; exact id
  · obtain rfl := Option.some.inj called; exact id
  · obtain rfl := Option.some.inj called; exact id
  · obtain rfl := Option.some.inj called; exact id
  · obtain ⟨word, rfl, -⟩ := Value.ofInt?_eq_some called; exact id
  · exact absurd trivial (exact _ (List.mem_singleton_self _))
  · cases called

theorem value?_call {name : String} {arguments : List Exact} {values : List Value}
    (same : List.Forall₂ (fun argument value => argument.value? = some value) arguments values)
    (called : Expr.callValue? name values = some value) :
    (call name arguments).value? = some value := by
  have read : arguments.mapM value? = some values ∧ ∀ value ∈ values, ¬ value.IsFloat := by
    clear called
    induction same with
    | nil => exact ⟨rfl, fun value member => nomatch member⟩
    | cons first rest ih =>
      obtain ⟨others, exact⟩ := ih
      exact ⟨by simp [List.mapM_cons, first, others],
        List.forall_mem_cons.mpr ⟨not_isFloat first, exact⟩⟩
  obtain ⟨whole, exact⟩ := read
  unfold call
  rw [whole, Option.bind_some, called]
  exact value?_ofValue (not_isFloat_call exact called)

end Value

end Exact

end Hybrid
