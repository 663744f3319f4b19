import Hybrid.Proofs.Printing.Literal
import Hybrid.Proofs.Printing.Preservation
import Hybrid.Proofs.Printing.Readback

/-! # What the text of an expression computes

The text of an expression is read as its regrouping, which computes the same as long as no product is
moved past a quotient or a remainder. Where one is, the operands decide; and whatever operators the
right factor begins with, some operands make a difference.
-/

namespace Hybrid

open Layout (Segment)

namespace Expr

/-- At every width the text is read as an expression that has the same value on every row without
floats, wherever both have one. -/
def TextAgrees (expr : Expr) : Prop :=
  ∀ width, ∃ other,
    Reader.read Value.ofDisplay? ((expr.segments width).filterMap Segment.styled?) = some other ∧
      ∀ row : Row, row.Floatless → ∀ value otherValue, expr.evaluate row = .ok (some value) →
        other.evaluate row = .ok (some otherValue) → value = otherValue

theorem legible_of_floatless {expr : Expr} (floatless : expr.Floatless) :
    expr.Everywhere (Legible Value.ofDisplay?) := by
  refine floatless.mono fun expr exact => ?_
  cases expr with
  | literal value => exact Value.ofDisplay?_display exact
  | _ => trivial

/-- At every width the text of an expression is read as its regrouping. -/
theorem read_segments {expr : Expr} (named : expr.Named) (floatless : expr.Floatless) (width : Nat) :
    Reader.read Value.ofDisplay? ((expr.segments width).filterMap Segment.styled?) =
      some expr.regrouped := by
  rw [named.segments_styled]
  exact Reader.read_tokens (legible_of_floatless floatless) 0

/-- An operand and others behind it, from left to right. -/
def product (first : Expr) (rest : List (Operator × Int64)) : Expr :=
  rest.foldl (fun lhs next => .combined next.1 lhs (.literal (.int next.2))) first

end Expr

/-- The value of operands that follow a value from left to right. -/
def Evaluated.behind (value : Evaluated) (rest : List (Operator × Int64)) : Evaluated :=
  rest.foldl (fun value next => .combine next.1 value (.ok (some (.int next.2)))) value

namespace Reader.Chain

def product (first : Chain) (rest : List (Operator × Int64)) : Chain :=
  rest.foldl (fun lhs next => .combined next.1 lhs (.operand (.literal (.int next.2)))) first

variable {rest : List (Operator × Int64)}

theorem toExpr_product (first : Chain) : (product first rest).toExpr = first.toExpr.product rest := by
  induction rest generalizing first with
  | nil => rfl
  | cons next rest ih => exact ih _

/-- A factor goes to the left end of a product. -/
theorem graft_product (before first : Chain) (level : ∀ next ∈ rest, next.1.precedence = 3) :
    graft .mul before (product first rest) = product (graft .mul before first) rest := by
  induction rest generalizing first with
  | nil => rfl
  | cons next rest ih =>
    have inside := ih (.combined next.1 first (.operand (.literal (.int next.2))))
      fun other member => level other (List.mem_cons_of_mem _ member)
    have same : next.1.precedence = Operator.mul.precedence := level next (List.mem_cons_self ..)
    rw [graft, if_pos same] at inside
    exact inside

end Reader.Chain

namespace Expr

open Reader (Chain)

section Product

variable {rest : List (Operator × Int64)}

theorem everywhere_product {holds : Expr → Prop} {first : Expr}
    (combined : ∀ operator lhs rhs, holds (.combined operator lhs rhs))
    (whole : ∀ number, (literal (.int number)).Everywhere holds) (here : first.Everywhere holds) :
    (first.product rest).Everywhere holds := by
  induction rest generalizing first with
  | nil => exact here
  | cons next rest ih => exact ih (.combined (combined ..) here (whole next.2))

/-- Products of literals are read from left to right. -/
theorem opened_product (first : Expr) (tight : 3 ≤ first.precedence)
    (level : ∀ next ∈ rest, next.1.precedence = 3) :
    (first.product rest).opened = .product first.opened rest := by
  induction rest generalizing first with
  | nil => rfl
  | cons next rest ih =>
    have same : next.1.precedence = 3 := level next (List.mem_cons_self ..)
    have bareLeft : needsParentheses first next.1 false = false := by
      unfold needsParentheses
      split
      · simp [same, tight]
      · cases first <;> rfl
    have bareRight : needsParentheses (.literal (.int next.2)) next.1 true = false := by
      simp [needsParentheses, precedence, same]
    have opened : (combined next.1 first (.literal (.int next.2))).opened =
        .combined next.1 first.opened (.operand (.literal (.int next.2))) := by
      rw [Expr.opened, bareLeft, bareRight, Expr.opened]
      rfl
    have inside := ih (.combined next.1 first (.literal (.int next.2))) (by simp [precedence, same])
      fun other member => level other (List.mem_cons_of_mem _ member)
    rw [opened] at inside
    exact inside

theorem valueIn_product (environment : Environment) (first : Expr) :
    (first.product rest).valueIn environment = (first.valueIn environment).behind rest := by
  induction rest generalizing first with
  | nil => rfl
  | cons next rest ih => exact ih _

end Product

end Expr

/-- A whole number beside which a small one stays what it is. -/
def Operator.neutral : Operator → Int64
  | .mod => 10
  | _ => 1

/-- Operands by which a product gets another value if its first operand is doubled: it is divided by
two where there is an operator that divides. -/
def Operator.telling : List Operator → List (Operator × Int64)
  | [] => []
  | .mul :: rest => (.mul, 1) :: telling rest
  | operator :: rest => (operator, 2) :: rest.map fun other => (other, other.neutral)

theorem Operator.map_telling (operators : List Operator) :
    (telling operators).map Prod.fst = operators := by
  induction operators with
  | nil => rfl
  | cons operator rest ih => cases operator <;> simp [telling, ih, Function.comp_def]

namespace Evaluated

theorem behind_neutral {value : Evaluated} {operators : List Operator}
    (level : ∀ operator ∈ operators, operator.precedence = 3)
    (stays : ∀ operator : Operator, operator.precedence = 3 →
      combine operator value (.ok (some (.int operator.neutral))) = value) :
    value.behind (operators.map fun other => (other, other.neutral)) = value := by
  induction operators with
  | nil => rfl
  | cons operator rest ih =>
    have others := ih fun other member => level other (List.mem_cons_of_mem _ member)
    have first := stays operator (level operator (List.mem_cons_self ..))
    unfold behind at others ⊢
    rw [List.map_cons, List.foldl_cons, first, others]

theorem combine_neutral {number : Int64} (small : number ∈ [0, 1, 3]) {operator : Operator}
    (level : operator.precedence = 3) :
    combine operator (.ok (some (.int number))) (.ok (some (.int operator.neutral))) =
      .ok (some (.int number)) := by
  simp only [List.mem_cons, List.not_mem_nil, or_false] at small
  rcases small with rfl | rfl | rfl <;> cases operator <;> first | rfl | cases level

/-- Behind six the telling operands do not give twice of what they give behind three. -/
theorem behind_telling {operators : List Operator}
    (level : ∀ operator ∈ operators, operator.precedence = 3)
    (divides : ∃ operator ∈ operators, operator ≠ .mul) :
    behind (.ok (some (.int 3))) (Operator.telling operators) = .ok (some (.int 1)) ∧
      ∃ number ∈ [0, 3],
        behind (.ok (some (.int 6))) (Operator.telling operators) = .ok (some (.int number)) := by
  induction operators with
  | nil =>
    obtain ⟨operator, member, -⟩ := divides
    cases member
  | cons operator rest ih =>
    have others : ∀ other ∈ rest, other.precedence = 3 :=
      fun other member => level other (List.mem_cons_of_mem _ member)
    have neutral (number : Int64) (small : number ∈ [0, 1, 3]) :
        behind (.ok (some (.int number))) (rest.map fun other => (other, other.neutral)) =
          .ok (some (.int number)) :=
      behind_neutral others fun other same => combine_neutral small same
    cases operator with
    | mul =>
      have later : ∃ other ∈ rest, other ≠ .mul := by
        obtain ⟨other, member, divides⟩ := divides
        rcases List.mem_cons.mp member with rfl | member
        · exact absurd rfl divides
        · exact ⟨other, member, divides⟩
      exact ih others later
    | div => exact ⟨neutral 1 (by decide), 3, by decide, neutral 3 (by decide)⟩
    | mod => exact ⟨neutral 1 (by decide), 0, by decide, neutral 0 (by decide)⟩
    | _ => exact absurd (level _ (List.mem_cons_self ..)) (by decide)

end Evaluated

namespace Expr

open Reader (Chain)

section Factor

variable (first second last : Int64) {operands : List (Operator × Int64)}

/-- A factor before a product that ends with another factor. -/
def factored (operands : List (Operator × Int64)) : Expr :=
  .combined .mul (.literal (.int first)) (.combined .mul ((literal (.int second)).product operands)
    (.literal (.int last)))

theorem everywhere_factored {holds : Expr → Prop}
    (combined : ∀ operator lhs rhs, holds (.combined operator lhs rhs))
    (whole : ∀ number, holds (.literal (.int number))) :
    (factored first second last operands).Everywhere holds := by
  have leaf (number : Int64) : (literal (.int number)).Everywhere holds := .leaf (whole number) rfl
  exact .combined (combined ..) (leaf first)
    (.combined (combined ..) (everywhere_product combined leaf (leaf second)) (leaf last))

/-- The factor is read before the first operand of the product. -/
theorem regrouped_factored (level : ∀ next ∈ operands, next.1.precedence = 3) :
    (factored first second last operands).regrouped =
      (combined .mul (.literal (.int first)) (.literal (.int second))).product
        (operands ++ [(.mul, last)]) := by
  have longer : ∀ next ∈ operands ++ [(.mul, last)], next.1.precedence = 3 := by
    intro next member
    rcases List.mem_append.mp member with inside | final
    · exact level next inside
    · obtain rfl := List.mem_singleton.mp final
      rfl
  have whole : combined .mul ((literal (.int second)).product operands) (.literal (.int last)) =
      (literal (.int second)).product (operands ++ [(.mul, last)]) := by
    unfold product
    rw [List.foldl_append]
    rfl
  have bareLeft : needsParentheses (literal (.int first)) .mul false = false := rfl
  have bareRight : needsParentheses
      (combined .mul ((literal (.int second)).product operands) (.literal (.int last))) .mul true =
        false := rfl
  have tight : 3 ≤ (literal (.int second)).precedence := by simp [precedence]
  rw [factored, regrouped, opened, bareLeft, bareRight, whole, opened_product _ tight longer]
  change (Chain.graft .mul (literal (.int first)).opened
    (.product (literal (.int second)).opened _)).toExpr = _
  rw [Chain.graft_product _ _ longer, Chain.toExpr_product, opened, opened]
  rfl

end Factor

section Telling

variable {operators : List Operator} (level : ∀ operator ∈ operators, operator.precedence = 3)
variable (divides : ∃ operator ∈ operators, operator ≠ .mul) (row : Row)
include level divides

theorem evaluate_factored :
    (factored 2 3 1 (Operator.telling operators)).evaluate row = .ok (some (.int 2)) := by
  obtain ⟨three, -⟩ := Evaluated.behind_telling level divides
  rw [evaluate_eq, factored, valueIn, valueIn, valueIn, valueIn_product, valueIn, valueIn, three]
  rfl

theorem evaluate_product :
    ∃ number ∈ [0, 3], ((combined .mul (.literal (.int 2)) (.literal (.int 3))).product
      (Operator.telling operators ++ [(.mul, 1)])).evaluate row = .ok (some (.int number)) := by
  obtain ⟨-, number, small, six⟩ := Evaluated.behind_telling level divides
  have doubled : (combined .mul (.literal (.int 2)) (.literal (.int 3))).valueIn (.ofRow row) =
      .ok (some (.int 6)) := rfl
  have kept : number ∈ [0, 1, 3] := by
    simp only [List.mem_cons, List.not_mem_nil, or_false] at small ⊢
    exact small.imp_right .inr
  refine ⟨number, small, ?_⟩
  rw [evaluate_eq, valueIn_product, doubled, Evaluated.behind, List.foldl_append]
  change Evaluated.combine .mul (Evaluated.behind _ _) _ = _
  rw [six]
  exact Evaluated.combine_neutral kept rfl

/-- The factor two disagrees with the telling operands, if an operator among them divides. -/
theorem not_textAgrees_factored : ¬ (factored 2 3 1 (Operator.telling operators)).TextAgrees := by
  intro agrees
  obtain ⟨other, read, same⟩ := agrees defaultWidth
  have named : (factored 2 3 1 (Operator.telling operators)).Named :=
    everywhere_factored 2 3 1 (fun _ _ _ => trivial) fun _ => trivial
  have floatless : (factored 2 3 1 (Operator.telling operators)).Floatless :=
    everywhere_factored 2 3 1 (fun _ _ _ => trivial) fun _ => id
  have levels : ∀ next ∈ Operator.telling operators, next.1.precedence = 3 := by
    intro next member
    refine level next.1 ?_
    rw [← Operator.map_telling operators]
    exact List.mem_map_of_mem member
  rw [read_segments named floatless, regrouped_factored 2 3 1 levels] at read
  obtain rfl := Option.some.inj read
  have plain : Row.Floatless fun _ => none := fun name value found => nomatch found
  have value := evaluate_factored level divides fun _ => none
  obtain ⟨number, small, regrouped⟩ := evaluate_product level divides fun _ => none
  have equal : (2 : Int64) = number := Value.int.inj (same _ plain _ _ value regrouped)
  subst equal
  exact absurd small (by decide)

end Telling

/-- Where factors are not kept together, an operator that divides is at the left end of one. -/
theorem of_not_keepsFactors {expr : Expr} (moved : ¬ expr.KeepsFactors) :
    ∃ lhs factor rhs, expr = .combined .mul lhs (.combined .mul factor rhs) ∧
      ∃ operator ∈ factor.spine, operator ≠ .mul := by
  unfold KeepsFactors at moved
  split at moved
  · next lhs factor rhs =>
    refine ⟨lhs, factor, rhs, rfl, ?_⟩
    by_contra none
    exact moved fun operator member => by
      by_contra divides
      exact none ⟨operator, member, divides⟩
  · exact absurd trivial moved

/-- The text of an expression computes what the expression does, if no right factor that is a product
begins with a quotient or a remainder. If one does, there are whole numbers which the same operators
make into an expression whose text computes something else. -/
theorem text_agrees {expr : Expr} (named : expr.Named) (floatless : expr.Floatless) :
    (expr.Everywhere KeepsFactors → expr.TextAgrees) ∧
      (¬ expr.Everywhere KeepsFactors → ∃ lhs factor rhs,
        Within (.combined .mul lhs (.combined .mul factor rhs)) expr ∧
          ∃ (first second last : Int64) (operands : List (Operator × Int64)),
            operands.map Prod.fst = factor.spine ∧
              ¬ (factored first second last operands).TextAgrees) := by
  constructor
  · intro keeps width
    refine ⟨expr.regrouped, read_segments named floatless width, ?_⟩
    intro row plain value other evaluated regrouped
    exact evaluate_regrouped floatless keeps plain evaluated regrouped
  · intro moved
    obtain ⟨inner, within, moved⟩ := Everywhere.exists_of_not moved
    obtain ⟨lhs, factor, rhs, rfl, divides⟩ := of_not_keepsFactors moved
    have level : ∀ operator ∈ factor.spine, operator.precedence = 3 :=
      fun operator member => precedence_of_mem_spine member
    exact ⟨lhs, factor, rhs, within, 2, 3, 1, Operator.telling factor.spine,
      Operator.map_telling factor.spine, not_textAgrees_factored level divides⟩

/-- The text `F(a) * F(b) * (F(c) / F(d))` is read as a product of two products. -/
def nested : Expr :=
  .combined .mul (.field "a")
    (.combined .mul (.field "b") (.combined .div (.field "c") (.field "d")))

/-- The text `F(a) * F(b) / F(c) * F(d)` is read as if the quotient were of the product. -/
def divided : Expr :=
  .combined .mul (.field "a")
    (.combined .mul (.combined .div (.field "b") (.field "c")) (.field "d"))

theorem nested_agrees :
    nested.Named ∧ nested.Floatless ∧ nested.Everywhere KeepsFactors ∧ nested.TextAgrees := by
  have letter (name : String) (full : name ≠ "") : (field name).Named := .leaf full rfl
  have number (name : String) : (field name).Floatless := .leaf trivial rfl
  have alone (name : String) : (field name).Everywhere KeepsFactors := .leaf trivial rfl
  have named : nested.Named :=
    .combined trivial (letter "a" (by decide)) (.combined trivial (letter "b" (by decide))
      (.combined trivial (letter "c" (by decide)) (letter "d" (by decide))))
  have floatless : nested.Floatless :=
    .combined trivial (number "a") (.combined trivial (number "b")
      (.combined trivial (number "c") (number "d")))
  have keeps : nested.Everywhere KeepsFactors :=
    .combined (fun _ member => nomatch member) (alone "a") (.combined trivial (alone "b")
      (.combined trivial (alone "c") (alone "d")))
  exact ⟨named, floatless, keeps, (text_agrees named floatless).1 keeps⟩

/-- The fields hold 2, 3, 2 and 1. -/
def dividedRow : Row := fun name =>
  if name = "b" then some (.int 3)
  else if name = "d" then some (.int 1)
  else some (.int 2)

theorem divided_disagrees : divided.Named ∧ divided.Floatless ∧ ¬ divided.TextAgrees := by
  have letter (name : String) (full : name ≠ "") : (field name).Named := .leaf full rfl
  have number (name : String) : (field name).Floatless := .leaf trivial rfl
  have named : divided.Named :=
    .combined trivial (letter "a" (by decide)) (.combined trivial (.combined trivial
      (letter "b" (by decide)) (letter "c" (by decide))) (letter "d" (by decide)))
  have floatless : divided.Floatless :=
    .combined trivial (number "a") (.combined trivial (.combined trivial
      (number "b") (number "c")) (number "d"))
  refine ⟨named, floatless, fun agrees => ?_⟩
  obtain ⟨other, read, same⟩ := agrees defaultWidth
  rw [read_segments named floatless] at read
  obtain rfl := Option.some.inj read
  have plain : dividedRow.Floatless := by
    intro name value found
    unfold dividedRow at found
    split at found
    · obtain rfl := Option.some.inj found; exact id
    · split at found
      · obtain rfl := Option.some.inj found; exact id
      · obtain rfl := Option.some.inj found; exact id
  have value : divided.evaluate dividedRow = .ok (some (.int 2)) := rfl
  have regrouped : divided.regrouped.evaluate dividedRow = .ok (some (.int 3)) := rfl
  have equal : (2 : Int64) = 3 := Value.int.inj (same _ plain _ _ value regrouped)
  exact absurd equal (by decide)

end Expr

end Hybrid
