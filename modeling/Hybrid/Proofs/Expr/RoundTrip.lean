import Hybrid.Expr.Serial
import Hybrid.Proofs.Expr.Structure
import Hybrid.Proofs.Value.Exact

/-! # Reading structured data back

Every node of an expression is written as its own tag, so a node is read back if its parts are, and
it is lost with any of them. What alone cannot be read back is a float without a number in JSON. An
expression is therefore read back exactly if all of its float literals are finite.
-/

namespace Hybrid

theorem Operator.ofJson?_toJson (operator : Operator) :
    ofJson? operator.toJson = some operator := by
  cases operator <;> rfl

/-- A float that is not finite is no number or infinite. -/
theorem not_isFinite_iff (number : Float) :
    ¬ number.isFinite = true ↔ number.isNaN = true ∨ number.isInf = true := by
  unfold Float.isFinite Float.isNaN Float.isInf
  unfold Float.Model.isFinite Float.Model.isNaN Float.Model.isInf
  cases number.toModel.unpack with
  | infinity sign => exact iff_of_true nofun (.inr rfl)
  | notANumber => exact iff_of_true nofun (.inl rfl)
  | zero sign => exact iff_of_false (fun infinite => infinite rfl) (by rintro (_ | _) <;> contradiction)
  | finite sign mantissa exponent positive =>
    exact iff_of_false (fun infinite => infinite rfl) (by rintro (_ | _) <;> contradiction)

namespace Value

/-- A value that JSON has a form for; a float is finite. -/
def HasForm : Value → Prop
  | .float number => number.isFinite = true
  | .null | .bool _ | .int _ | .text _ => True

theorem ofJson?_toJson {value : Value} (form : value.HasForm) :
    ofJson? value.toJson = some value := by
  cases value with
  | null => rfl
  | bool truth => rfl
  | int number => exact ofInt?_toInt number
  | float number =>
    have finite : number.isFinite = true := form
    simp [toJson, finite, Json.tagged, ofJson?]
  | text content => rfl

/-- A float that is not finite is written as null, which is no float. -/
theorem ofJson?_toJson_eq_none {value : Value} (formless : ¬ value.HasForm) :
    ofJson? value.toJson = none := by
  cases value with
  | float number =>
    have infinite : ¬ number.isFinite = true := formless
    simp [toJson, infinite, Json.tagged, ofJson?]
  | _ => exact absurd trivial formless

end Value

namespace Expr

/-- The value of an expression that is a literal has a form. -/
def HasForm : Expr → Prop
  | .literal value => value.HasForm
  | .field _ | .combined _ _ _ | .negated _ | .call _ _ => True

/-- An expression is read back as itself. -/
def ReadsBack (expr : Expr) : Prop :=
  ofJson? expr.toJson = some expr

/-- Nothing is read where an expression was written. -/
def IsLost (expr : Expr) : Prop :=
  ofJson? expr.toJson = none

theorem ofJson?_toJson_combined (operator : Operator) (lhs rhs : Expr) :
    ofJson? (combined operator lhs rhs).toJson =
      (ofJson? lhs.toJson).bind fun lhs => (ofJson? rhs.toJson).map (combined operator lhs) := by
  have read : ofJson? (combined operator lhs rhs).toJson = do
      let operator ← Operator.ofJson? operator.toJson
      let lhs ← ofJson? lhs.toJson
      let rhs ← ofJson? rhs.toJson
      return combined operator lhs rhs := by
    simp [toJson, Json.tagged, ofJson?, memberOfJson?]
  rw [read, Operator.ofJson?_toJson]
  cases ofJson? lhs.toJson <;> cases ofJson? rhs.toJson <;> rfl

theorem ofJson?_toJson_negated (operand : Expr) :
    ofJson? (negated operand).toJson = (ofJson? operand.toJson).map negated := by
  simp [toJson, Json.tagged, ofJson?]

theorem ofJson?_toJson_call (name : String) (arguments : List Expr) :
    ofJson? (call name arguments).toJson =
      (listOfJson? (toJsonList arguments)).map (call name) := by
  simp [toJson, Json.tagged, ofJson?, argumentsOfJson?]

theorem listOfJson?_cons (first : Expr) (rest : List Expr) :
    listOfJson? (toJsonList (first :: rest)) =
      (ofJson? first.toJson).bind fun first => (listOfJson? (toJsonList rest)).map (first :: ·) := by
  rw [toJsonList, listOfJson?]
  cases ofJson? first.toJson <;> cases listOfJson? (toJsonList rest) <;> rfl

theorem listOfJson?_eq_some {exprs : List Expr} (each : ∀ expr ∈ exprs, ReadsBack expr) :
    listOfJson? (toJsonList exprs) = some exprs := by
  induction exprs with
  | nil => simp [toJsonList, listOfJson?]
  | cons first rest ih =>
    obtain ⟨here, others⟩ := List.forall_mem_cons.mp each
    have here : ofJson? first.toJson = some first := here
    rw [listOfJson?_cons, here, ih others]
    rfl

theorem listOfJson?_eq_none {exprs : List Expr} {lost : Expr} (member : lost ∈ exprs)
    (unread : lost.IsLost) : listOfJson? (toJsonList exprs) = none := by
  have unread : ofJson? lost.toJson = none := unread
  induction exprs with
  | nil => cases member
  | cons first rest ih =>
    rw [listOfJson?_cons]
    rcases List.mem_cons.mp member with rfl | later
    · rw [unread, Option.bind_none]
    · rw [ih later]
      cases ofJson? first.toJson <;> rfl

/-- A node whose children are read back is read back. -/
theorem ReadsBack.of_children {expr : Expr} (form : expr.HasForm)
    (each : ∀ child ∈ expr.children, ReadsBack child) : expr.ReadsBack := by
  unfold ReadsBack at *
  cases expr with
  | field name => simp [toJson, Json.tagged, ofJson?]
  | literal value => simp [toJson, Json.tagged, ofJson?, Value.ofJson?_toJson form]
  | combined operator lhs rhs =>
    rw [ofJson?_toJson_combined, each lhs (by simp [children]), each rhs (by simp [children])]
    rfl
  | negated operand =>
    rw [ofJson?_toJson_negated, each operand (by simp [children])]
    rfl
  | call name arguments =>
    have arguments : listOfJson? (toJsonList arguments) = some arguments := listOfJson?_eq_some each
    rw [ofJson?_toJson_call, arguments]
    rfl

/-- A node is lost with any of its children. -/
theorem IsLost.of_child {expr child : Expr} (member : child ∈ expr.children)
    (lost : child.IsLost) : expr.IsLost := by
  have unread : ofJson? child.toJson = none := lost
  unfold IsLost
  cases expr with
  | field name => simp [children] at member
  | literal value => simp [children] at member
  | combined operator lhs rhs =>
    simp only [children, List.mem_cons, List.not_mem_nil, or_false] at member
    rw [ofJson?_toJson_combined]
    rcases member with rfl | rfl
    · rw [unread, Option.bind_none]
    · rw [unread]
      cases ofJson? lhs.toJson <;> rfl
  | negated operand =>
    obtain rfl : child = operand := by simpa [children] using member
    rw [ofJson?_toJson_negated, unread, Option.map_none]
  | call name arguments =>
    have arguments : listOfJson? (toJsonList arguments) = none := listOfJson?_eq_none member lost
    rw [ofJson?_toJson_call, arguments, Option.map_none]

/-- An expression is read back if its literals have forms. -/
theorem Everywhere.readsBack {expr : Expr} (forms : expr.Everywhere HasForm) : expr.ReadsBack := by
  induction forms with
  | intro here _ ih => exact .of_children here ih

/-- An expression is lost with a literal that has no form, however deep inside. -/
theorem Within.isLost {inner expr : Expr} (within : Within inner expr)
    (formless : ¬ inner.HasForm) : expr.IsLost := by
  induction within with
  | self =>
    cases inner with
    | literal value =>
      have unread : Value.ofJson? value.toJson = none := Value.ofJson?_toJson_eq_none formless
      simp [IsLost, toJson, Json.tagged, ofJson?, unread]
    | _ => exact absurd trivial formless
  | child member _ ih => exact ih.of_child member

theorem isLost_iff {expr : Expr} : expr.IsLost ↔ ¬ expr.Everywhere HasForm := by
  refine ⟨fun lost forms => ?_, fun fails => ?_⟩
  · have back : ofJson? expr.toJson = some expr := forms.readsBack
    exact Option.some_ne_none expr (back.symm.trans lost)
  · obtain ⟨inner, within, formless⟩ := Everywhere.exists_of_not fails
    exact within.isLost formless

theorem readsBack_iff {expr : Expr} : expr.ReadsBack ↔ expr.Everywhere HasForm := by
  refine ⟨fun back => ?_, fun forms => forms.readsBack⟩
  by_contra fails
  exact Option.some_ne_none expr (back.symm.trans (isLost_iff.mpr fails))

/-- Only float literals can be without a form. -/
theorem everywhere_hasForm_iff {expr : Expr} :
    expr.Everywhere HasForm ↔
      ∀ number, Within (.literal (.float number)) expr → number.isFinite = true := by
  refine ⟨fun forms number within => ?_, fun finite => .of_within fun inner within => ?_⟩
  · by_contra infinite
    exact isLost_iff.mp (within.isLost infinite) forms
  · cases inner with
    | literal value =>
      cases value with
      | float number => exact finite number within
      | _ => trivial
    | _ => trivial

/-- An expression is read back from its JSON form, the same in every node and every bit, if all of
its float literals are finite; it is rejected if one of them is NaN or infinite. -/
theorem reads_back_iff (expr : Expr) :
    (ofJson? expr.toJson = some expr ↔
        ∀ number, Within (.literal (.float number)) expr → number.isFinite = true) ∧
      (ofJson? expr.toJson = none ↔
        ∃ number, Within (.literal (.float number)) expr ∧
          (number.isNaN = true ∨ number.isInf = true)) := by
  refine ⟨readsBack_iff.trans everywhere_hasForm_iff, isLost_iff.trans ?_⟩
  rw [everywhere_hasForm_iff]
  simp only [not_forall, exists_prop, not_isFinite_iff]

end Expr

end Hybrid
