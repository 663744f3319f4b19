import Hybrid.Expr.Evaluation
import Hybrid.Proofs.Value.Zeros

/-! # Values that are equal

Equal values are the same value, or they are zeros of floats. An operation on values that agree in
this way gives the same error or results that agree again: arithmetic goes by the numbers, and what
is decided by the kind of a value does not see a sign. Only a text does, so concatenation asks for
operands that are not zeros of opposite signs.
-/

namespace Hybrid

open Decimal (Alike)

/-- The same error, or results that are related. -/
inductive Matches {α β : Type} (related : α → β → Prop) :
    Except ArithmeticError α → Except ArithmeticError β → Prop
  | error (error : ArithmeticError) : Matches related (.error error) (.error error)
  | ok {a : α} {b : β} : related a b → Matches related (.ok a) (.ok b)

namespace Matches

variable {α β γ δ : Type} {related : α → β → Prop} {reached : γ → δ → Prop}
variable {first : Except ArithmeticError α} {second : Except ArithmeticError β}

theorem bind {next : α → Except ArithmeticError γ} {next' : β → Except ArithmeticError δ}
    (results : Matches related first second)
    (each : ∀ a b, related a b → Matches reached (next a) (next' b)) :
    Matches reached (first >>= next) (second >>= next') := by
  cases results with
  | error => exact .error _
  | ok whole => exact each _ _ whole

theorem map {f : α → γ} {g : β → δ} (results : Matches related first second)
    (each : ∀ a b, related a b → reached (f a) (g b)) :
    Matches reached (first.map f) (second.map g) := by
  cases results with
  | error => exact .error _
  | ok whole => exact .ok (each _ _ whole)

theorem refl {related : α → α → Prop} (each : ∀ a, related a a) (outcome : Except ArithmeticError α) :
    Matches related outcome outcome := by
  cases outcome with
  | error => exact .error _
  | ok a => exact .ok (each a)

end Matches

/-- Every function but one takes one argument. -/
theorem NativeFunction.call?_of_two {function : NativeFunction} (other : function ≠ .coalesce)
    {first second : Value} {rest : List Value} :
    function.call? (first :: second :: rest) = none := by
  cases function <;> first | exact absurd rfl other | cases first <;> rfl

namespace Value

variable {a a' b b' : Value} {x y : Float}

/-- The same value or an equal one. A NaN is the same as itself though it is equal to nothing. -/
def Agrees (value other : Value) : Prop :=
  value = other ∨ (value == other) = true

/-- Zeros of opposite signs. -/
def Opposite (value other : Value) : Prop :=
  value = .float 0.0 ∧ other = .float (-0.0) ∨ value = .float (-0.0) ∧ other = .float 0.0

/-- Opposite zeros are on the same side of two concatenations. A null hides what it is joined to. -/
def Clash (a a' b b' : Value) : Prop :=
  a.isNull = false ∧ b.isNull = false ∧ (Opposite a a' ∨ Opposite b b')

theorem apply_of_null {op : Operator} (null : (a.isNull || b.isNull) = true) :
    a.apply op b = .ok .null :=
  if_pos null

theorem apply_concat (left : a.isNull = false) (right : b.isNull = false) :
    a.apply .concat b = .ok (.text (a.plainText ++ b.plainText)) := by
  simp [apply, left, right, Operator.arithmetic?]

theorem Opposite.plainText (opposite : Opposite a b) :
    a.plainText = "0.0" ∧ b.plainText = "-0.0" ∨ a.plainText = "-0.0" ∧ b.plainText = "0.0" := by
  rcases opposite with ⟨rfl, rfl⟩ | ⟨rfl, rfl⟩
  · exact .inl ⟨rfl, rfl⟩
  · exact .inr ⟨rfl, rfl⟩

theorem beq_self (number : ∀ x, a = .float x → x.isNaN = false) : (a == a) = true := by
  cases a with
  | null => rfl
  | bool truth => exact beq_self_eq_true truth
  | int whole => exact beq_self_eq_true whole
  | float x => exact Decimal.beq_float_iff.mpr ⟨.refl x, number x rfl⟩
  | text content => exact beq_self_eq_true content

namespace Agrees

theorem refl (value : Value) : Agrees value value :=
  .inl rfl

theorem float (alike : Alike x y) : Agrees (.float x) (.float y) := by
  rcases Decimal.alike_iff.mp alike with rfl | ⟨zero, -⟩
  · exact .inl rfl
  · exact .inr (Decimal.beq_float_iff.mpr ⟨alike, (Decimal.beq_float_iff.mp zero).2⟩)

/-- Values that agree are the same, or floats of the same number. -/
theorem cases (agrees : Agrees a b) :
    a = b ∨ ∃ x y, a = .float x ∧ b = .float y ∧ Alike x y := by
  rcases agrees with same | equal
  · exact .inl same
  · cases a <;> cases b <;> try cases equal
    · exact .inl rfl
    · exact .inl (congrArg Value.bool (eq_of_beq equal))
    · exact .inl (congrArg Value.int (eq_of_beq equal))
    · exact .inr ⟨_, _, rfl, rfl, (Decimal.beq_float_iff.mp equal).1⟩
    · exact .inl (congrArg Value.text (eq_of_beq equal))

theorem eq_of_not_opposite (agrees : Agrees a b) (opposite : ¬ Opposite a b) : a = b := by
  rcases agrees.cases with same | ⟨x, y, rfl, rfl, alike⟩
  · exact same
  · rcases Decimal.alike_iff.mp alike with same | ⟨zero, zero'⟩
    · exact congrArg Value.float same
    · rcases Decimal.eq_of_eq_zero zero with rfl | rfl <;>
        rcases Decimal.eq_of_eq_zero zero' with rfl | rfl
      · rfl
      · exact absurd (.inl ⟨rfl, rfl⟩) opposite
      · exact absurd (.inr ⟨rfl, rfl⟩) opposite
      · rfl

theorem isNull_eq (agrees : Agrees a b) : a.isNull = b.isNull := by
  rcases agrees.cases with rfl | ⟨x, y, rfl, rfl, -⟩ <;> rfl

/-- Arithmetic goes by the numbers: a zero of either sign is refused as a divisor. -/
theorem onFloats {x' y' : Float} (op : Arithmetic) (first : Alike x x') (second : Alike y y') :
    Matches Agrees (op.onFloats x y) (op.onFloats x' y') := by
  rcases Decimal.alike_iff.mp second with rfl | ⟨zero, zero'⟩
  · unfold Arithmetic.onFloats
    split
    · exact .error _
    · refine .ok (.float ?_)
      cases op with
      | add => exact first.add second
      | sub => exact first.sub second
      | mul => exact first.mul second
      | div => exact first.div
      | mod => exact first.remainder
  · unfold Arithmetic.onFloats
    rw [zero, zero']
    cases op with
    | add => exact .ok (.float (first.add second))
    | sub => exact .ok (.float (first.sub second))
    | mul => exact .ok (.float (first.mul second))
    | div => exact .error _
    | mod => exact .error _

theorem apply {op : Operator} (arithmetic : op ≠ .concat) (first : Agrees a a')
    (second : Agrees b b') : Matches Agrees (a.apply op b) (a'.apply op b') := by
  cases number : op.arithmetic? with
  | none => cases op <;> first | exact absurd rfl arithmetic | cases number
  | some op' =>
    rcases first.cases with rfl | ⟨x, x', rfl, rfl, alike⟩
    · rcases second.cases with rfl | ⟨y, y', rfl, rfl, alike'⟩
      · exact .refl .refl _
      · simp only [Value.apply, number]
        cases a with
        | null => exact .ok (.refl _)
        | bool | text => exact .error _
        | int | float => exact onFloats op' (.refl _) alike'
    · simp only [Value.apply, number]
      rcases second.cases with rfl | ⟨y, y', rfl, rfl, alike'⟩
      · cases b with
        | null => exact .ok (.refl _)
        | bool | text => exact .error _
        | int | float => exact onFloats op' alike (.refl _)
      · exact onFloats op' alike alike'

theorem eq_of_text {text other : String} (agrees : Agrees (.text text) (.text other)) :
    text = other := by
  rcases agrees.cases with same | ⟨x, y, impossible, -⟩
  · exact Value.text.inj same
  · cases impossible

/-- The texts of opposite zeros are different, and are told apart whatever they are joined to. -/
theorem apply_concat_iff (first : Agrees a a') (second : Agrees b b') :
    Matches Agrees (a.apply .concat b) (a'.apply .concat b') ↔ ¬ Clash a a' b b' := by
  constructor
  · rintro results ⟨left, right, opposite⟩
    rw [apply_concat left right,
      apply_concat (first.isNull_eq ▸ left) (second.isNull_eq ▸ right)] at results
    cases results with
    | ok agrees =>
      have same := eq_of_text agrees
      by_cases before : Opposite a a'
      · have heads := congrArg (fun text => text.toList.head?) same
        rcases before.plainText with ⟨zero, zero'⟩ | ⟨zero, zero'⟩ <;>
          simp [zero, zero'] at heads
      · obtain rfl := first.eq_of_not_opposite before
        have behind := (String.append_right_inj _).mp same
        rcases (opposite.resolve_left before).plainText with ⟨zero, zero'⟩ | ⟨zero, zero'⟩ <;>
          simp [zero, zero'] at behind
  · intro apart
    by_cases null : (a.isNull || b.isNull) = true
    · have null' : (a'.isNull || b'.isNull) = true := by
        rwa [← first.isNull_eq, ← second.isNull_eq]
      rw [apply_of_null null, apply_of_null null']
      exact .ok (.refl _)
    · obtain ⟨left, right⟩ : a.isNull = false ∧ b.isNull = false := by simpa using null
      have apart : ¬ Opposite a a' ∧ ¬ Opposite b b' :=
        not_or.mp fun opposite => apart ⟨left, right, opposite⟩
      obtain rfl := first.eq_of_not_opposite apart.1
      obtain rfl := second.eq_of_not_opposite apart.2
      exact .refl .refl _

theorem negate (operand : Agrees a a') : Matches Agrees a.negate a'.negate := by
  rcases operand.cases with rfl | ⟨x, x', rfl, rfl, alike⟩
  · exact .refl .refl _
  · exact .ok (.float alike.neg)

theorem find? {values values' : List Value} (each : List.Forall₂ Agrees values values') :
    Option.Rel Agrees (values.find? fun value => !value.isNull)
      (values'.find? fun value => !value.isNull) := by
  induction each with
  | nil => exact .none
  | @cons a b _ _ first _ ih =>
    rw [List.find?_cons, List.find?_cons, first.isNull_eq]
    cases b.isNull with
    | false => exact .some first
    | true => exact ih

theorem getD {value? value?' : Option Value} (found : Option.Rel Agrees value? value?') :
    Agrees (value?.getD .null) (value?'.getD .null) := by
  cases found with
  | some agrees => exact agrees
  | none => exact .refl _

theorem rel_refl (value? : Option Value) : Option.Rel Agrees value? value? := by
  cases value? with
  | none => exact .none
  | some value => exact .some (.refl value)

theorem call? (function : NativeFunction) {values values' : List Value}
    (each : List.Forall₂ Agrees values values') :
    Option.Rel Agrees (function.call? values) (function.call? values') := by
  by_cases coalesce : function = .coalesce
  · subst coalesce
    exact .some (getD (find? each))
  · cases each with
    | nil => cases function <;> first | exact .none | exact absurd rfl coalesce
    | cons first rest =>
      cases rest with
      | nil =>
        rcases first.cases with rfl | ⟨x, y, rfl, rfl, alike⟩
        · exact rel_refl _
        · cases function with
          | coalesce => exact absurd rfl coalesce
          | lower | upper | length => exact .none
          | abs => exact .some (.float alike.abs)
      | cons =>
        rw [NativeFunction.call?_of_two coalesce, NativeFunction.call?_of_two coalesce]
        exact .none

theorem callValue? (name : String) {values values' : List Value}
    (each : List.Forall₂ Agrees values values') :
    Option.Rel Agrees (Expr.callValue? name values) (Expr.callValue? name values') := by
  unfold Expr.callValue?
  cases NativeFunction.ofName? name with
  | none => exact .none
  | some function => exact call? function each

end Agrees

end Value

end Hybrid
