import Mathlib.Logic.Relation
import Hybrid.Proofs.Expr.Environment
import Hybrid.Proofs.Value.Overflow

/-! # Where evaluation has no value

An evaluation may end with neither a value nor an error. `Expr.evaluate_eq_none_iff` says when: if
it comes to a field that the row does not have, or to a call that is not computed on the values of
its arguments. What it comes to is said by `Expr.Enters`, one step from a node to a child: the right
operand behind a left one without an error, and an argument behind arguments that have values.

From this follows what an expression has to offer so that evaluation can only end with a value or
an error. One call of a known function on a whole number is left over: the least one has no absolute
value, and that is not reported as an overflow.
-/

namespace Hybrid

namespace Expr

/-- The values of arguments on a row. -/
abbrev HaveValues (row : Row) : List Expr → List Value → Prop :=
  List.Forall₂ fun argument value => argument.evaluate row = .ok (some value)

/-- Evaluating a node on a row comes to a child of it. -/
inductive Enters (row : Row) : Expr → Expr → Prop
  | left {operator : Operator} {lhs rhs : Expr} : Enters row (.combined operator lhs rhs) lhs
  | right {operator : Operator} {lhs rhs : Expr} {value? : Option Value} :
    lhs.evaluate row = .ok value? → Enters row (.combined operator lhs rhs) rhs
  | operand {operand : Expr} : Enters row (.negated operand) operand
  | argument {name : String} {before after : List Expr} {argument : Expr} :
    (∀ earlier ∈ before, ∃ value, earlier.evaluate row = .ok (some value)) →
    Enters row (.call name (before ++ argument :: after)) argument

/-- Evaluating an expression on a row comes to something inside it, or to the whole of it. -/
abbrev Reaches (row : Row) : Expr → Expr → Prop :=
  Relation.ReflTransGen (Enters row)

/-- What has no value of itself: a field that the row does not have, and a call that is not computed
on the values of its arguments. -/
inductive Lacks (row : Row) : Expr → Prop
  | field {name : String} : row name = none → Lacks row (.field name)
  | call {name : String} {arguments : List Expr} {values : List Value} :
    HaveValues row arguments values → callValue? name values = none →
    Lacks row (.call name arguments)

section Sources

variable {row : Row} {expr inner : Expr} {value : Value}

theorem haveValues_singleton_iff {values : List Value} :
    HaveValues row [expr] values ↔
      ∃ value, expr.evaluate row = .ok (some value) ∧ values = [value] := by
  simp [HaveValues, List.forall₂_cons_left_iff]

/-- A value of a node comes from values of all the children that evaluation comes to. -/
theorem Enters.exists_value (enters : Enters row expr inner)
    (evaluated : expr.evaluate row = .ok (some value)) :
    ∃ part, inner.evaluate row = .ok (some part) := by
  cases enters with
  | left =>
    rw [evaluate_combined] at evaluated
    obtain ⟨a, -, left, -, -⟩ := Evaluated.of_combine_eq_some evaluated
    exact ⟨a, left⟩
  | right _ =>
    rw [evaluate_combined] at evaluated
    obtain ⟨-, b, -, right, -⟩ := Evaluated.of_combine_eq_some evaluated
    exact ⟨b, right⟩
  | operand =>
    rw [evaluate_negated] at evaluated
    obtain ⟨a, present, -⟩ := Evaluated.of_negate_eq_some evaluated
    exact ⟨a, present⟩
  | argument _ =>
    rw [evaluate_call] at evaluated
    obtain ⟨values, present, -⟩ := Evaluated.of_call_eq_some evaluated
    exact Evaluated.exists_value_of_mem present (List.mem_map_of_mem (by simp))

/-- Where an expression has a value, everything that evaluation comes to has one. -/
theorem Reaches.exists_value (reaches : Reaches row expr inner)
    (evaluated : expr.evaluate row = .ok (some value)) :
    ∃ part, inner.evaluate row = .ok (some part) := by
  induction reaches with
  | refl => exact ⟨value, evaluated⟩
  | tail _ enters ih =>
    obtain ⟨part, here⟩ := ih
    exact enters.exists_value here

theorem Lacks.evaluate (lacks : Lacks row expr) : expr.evaluate row = .ok none := by
  cases lacks with
  | field absent => exact congrArg Except.ok absent
  | call present uncomputed =>
    have all := Evaluated.all_of_forall₂ (List.forall₂_map_left_iff.mpr present)
    rw [evaluate_call, Evaluated.call, all]
    exact congrArg Except.ok uncomputed

/-- Where there is no value, evaluation has come to something that has none of itself. -/
theorem exists_lacks (undecided : expr.evaluate row = .ok none) :
    ∃ inner, Reaches row expr inner ∧ Lacks row inner := by
  induction expr with
  | field name => exact ⟨_, .refl, .field (Except.ok.inj undecided)⟩
  | literal value => cases undecided
  | combined operator lhs rhs left right =>
    rw [evaluate_combined] at undecided
    rcases Evaluated.of_combine_eq_none undecided with first | ⟨⟨a, first⟩, second⟩
    · obtain ⟨inner, reaches, lacks⟩ := left first
      exact ⟨inner, .head .left reaches, lacks⟩
    · obtain ⟨inner, reaches, lacks⟩ := right second
      exact ⟨inner, .head (.right first) reaches, lacks⟩
  | negated operand ih =>
    rw [evaluate_negated] at undecided
    obtain ⟨inner, reaches, lacks⟩ := ih (Evaluated.of_negate_eq_none undecided)
    exact ⟨inner, .head .operand reaches, lacks⟩
  | call name arguments each =>
    rw [evaluate_call] at undecided
    rcases Evaluated.of_call_eq_none undecided with
      ⟨before, after, split, valued⟩ | ⟨values, present, uncomputed⟩
    -- The first argument without a value is come to, as all before it have one.
    · obtain ⟨earlier, rest, rfl, rfl, tail⟩ := List.map_eq_append_iff.mp split
      obtain ⟨argument, later, rfl, first, -⟩ := List.map_eq_cons_iff.mp tail
      obtain ⟨inner, reaches, lacks⟩ := each argument (by simp) first
      have before : ∀ other ∈ earlier, ∃ value, other.evaluate row = .ok (some value) :=
        fun other member => valued _ (List.mem_map_of_mem member)
      exact ⟨inner, .head (.argument before) reaches, lacks⟩
    · rw [List.forall₂_map_left_iff] at present
      exact ⟨_, .refl, .call present uncomputed⟩

/-- Evaluation that ends without an error has no value exactly if it comes to something that has
none of itself. -/
theorem evaluate_eq_none_iff :
    expr.evaluate row = .ok none ↔
      (∃ value?, expr.evaluate row = .ok value?) ∧
        ∃ inner, Reaches row expr inner ∧ Lacks row inner := by
  constructor
  · intro undecided
    exact ⟨⟨none, undecided⟩, exists_lacks undecided⟩
  · rintro ⟨⟨value?, evaluated⟩, inner, reaches, lacks⟩
    cases value? with
    | none => exact evaluated
    | some value =>
      obtain ⟨part, present⟩ := reaches.exists_value evaluated
      rw [lacks.evaluate] at present
      cases present

end Sources

section Inside

variable {row : Row} {expr inner : Expr}

theorem Enters.mem_children (enters : Enters row expr inner) : inner ∈ expr.children := by
  cases enters <;> simp [children]

theorem Reaches.within (reaches : Reaches row expr inner) : Within inner expr := by
  induction reaches using Relation.ReflTransGen.head_induction_on with
  | refl => exact .self
  | head enters _ ih => exact .child enters.mem_children ih

/-- A field inside an expression occurs in it. -/
theorem Within.occurs {name : String} (within : Within (.field name) expr) :
    name ∈ expr.occurrences := by
  induction within with
  | self => exact List.mem_singleton_self name
  | @child outer child member _ ih =>
    have inside : outer.asField? = none := by
      cases outer with
      | field other => cases member
      | _ => rfl
    rw [occurrences_of_asField? inside]
    exact List.mem_flatMap.mpr ⟨child, member, ih⟩

end Inside

/-- The arguments that the functions are defined on: one text or null, one number or null, and
anything at all for the first that is not null. -/
inductive Accepts : String → List Value → Prop
  | text {name : String} {content : String} :
    name ∈ ["LOWER", "UPPER", "LENGTH"] → Accepts name [.text content]
  | int {number : Int64} : Accepts "ABS" [.int number]
  | float {number : Float} : Accepts "ABS" [.float number]
  | null {name : String} : name ∈ ["LOWER", "UPPER", "LENGTH", "ABS"] → Accepts name [.null]
  | any {values : List Value} : Accepts "COALESCE" values

/-- The least whole number alone has no absolute value. -/
theorem ofInt?_natAbs_eq_none_iff {number : Int64} :
    Value.ofInt? number.toInt.natAbs = none ↔ number = Int64.minValue := by
  have least : -9223372036854775808 ≤ number.toInt := Int64.minValue_le_toInt number
  have greatest : number.toInt ≤ 9223372036854775807 := Int64.toInt_le number
  have same : number = Int64.minValue ↔ number.toInt = -9223372036854775808 :=
    Int64.toInt_inj.symm
  rw [same]
  constructor
  · intro outside
    by_contra other
    have fits : Value.Fits number.toInt.natAbs := ⟨by omega, by omega⟩
    obtain ⟨word, value, -⟩ := Value.ofInt?_of_fits fits
    rw [outside] at value
    cases value
  · intro least
    apply Value.ofInt?_of_not_fits
    rintro ⟨-, bound⟩
    omega

/-- On the arguments that it is defined on, a function fails on the least whole number only. -/
theorem callValue?_eq_none_iff {name : String} {values : List Value}
    (accepts : Accepts name values) :
    callValue? name values = none ↔ name = "ABS" ∧ values = [.int Int64.minValue] := by
  cases accepts with
  | text known =>
    simp only [List.mem_cons, List.not_mem_nil, or_false] at known
    rcases known with rfl | rfl | rfl <;>
      simp [callValue?, NativeFunction.ofName?, NativeFunction.call?]
  | @int number =>
    have called : callValue? "ABS" [.int number] = Value.ofInt? number.toInt.natAbs := by
      simp [callValue?, NativeFunction.ofName?, NativeFunction.call?]
    rw [called, ofInt?_natAbs_eq_none_iff]
    simp
  | float => simp [callValue?, NativeFunction.ofName?, NativeFunction.call?]
  | null known =>
    simp only [List.mem_cons, List.not_mem_nil, or_false] at known
    rcases known with rfl | rfl | rfl | rfl <;>
      simp [callValue?, NativeFunction.ofName?, NativeFunction.call?]
  | any => simp [callValue?, NativeFunction.ofName?, NativeFunction.call?]

/-- What an expression offers on a row if every field in it is there, every call in it is of a known
function, and every call that evaluation comes to gets arguments that the function is defined on. -/
structure Provided (row : Row) (expr : Expr) : Prop where
  fields : ∀ name ∈ expr.occurrences, row name ≠ none
  functions : ∀ name arguments, Within (.call name arguments) expr →
    name ∈ ["LOWER", "UPPER", "LENGTH", "ABS", "COALESCE"]
  arguments : ∀ name arguments values, Reaches row expr (.call name arguments) →
    HaveValues row arguments values → Accepts name values

/-- Evaluation comes to the absolute value of the least whole number. -/
def MeetsLeast (row : Row) (expr : Expr) : Prop :=
  ∃ argument, Reaches row expr (.call "ABS" [argument]) ∧
    argument.evaluate row = .ok (some (.int Int64.minValue))

theorem MeetsLeast.lacks {row : Row} {expr : Expr} (meets : expr.MeetsLeast row) :
    ∃ inner, Reaches row expr inner ∧ Lacks row inner := by
  obtain ⟨argument, reaches, least⟩ := meets
  have uncomputed : callValue? "ABS" [.int Int64.minValue] = none :=
    (callValue?_eq_none_iff .int).mpr ⟨rfl, rfl⟩
  exact ⟨_, reaches, .call (.cons least .nil) uncomputed⟩

theorem Provided.meetsLeast {row : Row} {expr inner : Expr} (provided : expr.Provided row)
    (reaches : Reaches row expr inner) (lacks : Lacks row inner) : expr.MeetsLeast row := by
  cases lacks with
  | field absent => exact absurd absent (provided.fields _ reaches.within.occurs)
  | @call name arguments values present uncomputed =>
    have accepts := provided.arguments name arguments values reaches present
    obtain ⟨rfl, rfl⟩ := (callValue?_eq_none_iff accepts).mp uncomputed
    obtain ⟨argument, rest, least, none, rfl⟩ := List.forall₂_cons_right_iff.mp present
    obtain rfl := List.forall₂_nil_right_iff.mp none
    exact ⟨argument, reaches, least⟩

/-- Evaluation of an expression that offers everything ends with a value or an error, unless it
comes to the absolute value of the least whole number; if it does, it has no value. -/
theorem value_or_error {row : Row} {expr : Expr} (provided : expr.Provided row) :
    (¬ expr.MeetsLeast row →
        (∃ value, expr.evaluate row = .ok (some value)) ∨
          ∃ error, expr.evaluate row = .error error) ∧
      (expr.MeetsLeast row → ∀ value, expr.evaluate row ≠ .ok (some value)) := by
  constructor
  · intro never
    rcases outcome : expr.evaluate row with error | _ | value
    · exact .inr ⟨error, rfl⟩
    · obtain ⟨inner, reaches, lacks⟩ := exists_lacks outcome
      exact absurd (provided.meetsLeast reaches lacks) never
    · exact .inl ⟨value, rfl⟩
  · intro meets value evaluated
    obtain ⟨inner, reaches, lacks⟩ := meets.lacks
    have none := evaluate_eq_none_iff.mpr ⟨⟨_, evaluated⟩, inner, reaches, lacks⟩
    rw [evaluated] at none
    cases none

end Expr

/-! ## Distances

The absolute value of a reading, and of its difference from a target that may be null.
-/

namespace Distance

open Hybrid.Expr

/-- The row of a reading without a target. -/
def untargeted (reading : Int64) : Row
  | "reading" => some (.int reading)
  | "target" => some .null
  | _ => none

def magnitude : Expr :=
  .call "ABS" [.field "reading"]

/-- The difference from the target, or from zero if it is null. -/
def difference : Expr :=
  .combined .sub (.field "reading") (.call "COALESCE" [.field "target", .literal (.int 0)])

def distance : Expr :=
  .call "ABS" [difference]

variable {name : String} {arguments : List Expr}

private theorem calls_distance (within : Within (.call name arguments) distance) :
    name = "ABS" ∧ arguments = [difference] ∨ name = "COALESCE" := by
  simp [distance, difference] at within ⊢
  tauto

theorem provided_distance : distance.Provided (untargeted 3) where
  fields := by simp [distance, difference, occurrences, occurrencesList, untargeted]
  functions name arguments within := by
    obtain ⟨rfl, -⟩ | rfl := calls_distance within
    · simp
    · simp
  arguments name arguments values reaches present := by
    obtain ⟨rfl, rfl⟩ | rfl := calls_distance reaches.within
    · obtain ⟨value, read, rfl⟩ := haveValues_singleton_iff.mp present
      obtain rfl := Option.some.inj (Except.ok.inj read)
      exact .int
    · exact .any

private theorem not_meetsLeast : ¬ distance.MeetsLeast (untargeted 3) := by
  rintro ⟨argument, reaches, least⟩
  obtain ⟨-, same⟩ | impossible := calls_distance reaches.within
  · obtain rfl := (List.cons.inj same).1
    have three : difference.evaluate (untargeted 3) = .ok (some (.int 3)) := rfl
    rw [three] at least
    exact absurd (Value.int.inj (Option.some.inj (Except.ok.inj least))) (by decide)
  · exact absurd impossible (by decide)

/-- The distance of three from nothing is a value or an error. -/
theorem distance_decided :
    distance.Provided (untargeted 3) ∧ ¬ distance.MeetsLeast (untargeted 3) ∧
      ((∃ value, distance.evaluate (untargeted 3) = .ok (some value)) ∨
        ∃ error, distance.evaluate (untargeted 3) = .error error) :=
  ⟨provided_distance, not_meetsLeast, (value_or_error provided_distance).1 not_meetsLeast⟩

theorem provided_magnitude : magnitude.Provided (untargeted Int64.minValue) where
  fields := by simp [magnitude, occurrences, occurrencesList, untargeted]
  functions name arguments within := by
    obtain ⟨rfl, -⟩ : name = "ABS" ∧ _ := by simpa [magnitude] using within
    simp
  arguments name arguments values reaches present := by
    obtain ⟨rfl, rfl⟩ : name = "ABS" ∧ arguments = [.field "reading"] := by
      simpa [magnitude] using reaches.within
    obtain ⟨value, read, rfl⟩ := haveValues_singleton_iff.mp present
    obtain rfl := Option.some.inj (Except.ok.inj read)
    exact .int

/-- The least reading has no absolute value, although it is a whole number. -/
theorem magnitude_undecided :
    magnitude.Provided (untargeted Int64.minValue) ∧
      magnitude.evaluate (untargeted Int64.minValue) = .ok none :=
  ⟨provided_magnitude, rfl⟩

end Distance

end Hybrid
