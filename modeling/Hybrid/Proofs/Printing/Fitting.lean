import Hybrid.Expr.Printer
import Hybrid.Proofs.Expr.Structure
import Hybrid.Proofs.Printing.Lookahead

/-! # When an expression is broken

The document of an expression has one outermost group, that of its outermost combination or call, and
around it only signs and parentheses. The layout decides about this group before any other, and looks
ahead over all that is left of the expression, as no line may end there. So an expression is broken if
and only if it does not fit as a whole.
-/

namespace Hybrid

namespace Layout

variable {σ : Type}

/-- No line may end in what is left on the stack, which is in broken mode. -/
def Calm (stack : List (Item σ)) : Prop :=
  ∀ item ∈ stack, item.mode = .broken ∧ item.doc.ends .broken = false

namespace Calm

variable {stack : List (Item σ)}

theorem nil : Calm ([] : List (Item σ)) :=
  List.forall_mem_nil _

theorem cons (calm : Calm stack) {indent : Nat} {doc : Doc σ} (here : doc.ends .broken = false) :
    Calm (⟨indent, .broken, doc⟩ :: stack) :=
  List.forall_mem_cons.mpr ⟨⟨rfl, here⟩, calm⟩

theorem not_ends (calm : Calm stack) : ∀ item ∈ stack, item.doc.ends item.mode = false := by
  intro item member
  obtain ⟨mode, quiet⟩ := calm item member
  rwa [mode]

theorem map_broken (calm : Calm stack) : stack.map Item.broken = stack := by
  have each : ∀ item ∈ stack, item.broken = item := by
    intro item member
    rw [Item.broken, ← (calm item member).1]
  rw [List.map_congr_left each, List.map_id']

end Calm

/-- All line ends of the document stand in one group, which takes columns. -/
inductive Doc.Sole : Doc σ → Prop
  | group {doc : Doc σ} : doc.breaks = true → 0 < doc.lead .flat → Sole (.group doc)
  | before {first second : Doc σ} : first.ends .broken = false → Sole second → Sole (first ++ second)
  | after {first second : Doc σ} : Sole first → second.ends .broken = false → Sole (first ++ second)

/-- A document with one group is broken if and only if it does not fit, with all that follows it. -/
theorem Doc.Sole.exists_newline_iff {doc : Doc σ} (sole : doc.Sole) {width column indent : Nat}
    {stack : List (Item σ)} (calm : Calm stack) :
    (∃ next, .newline next ∈ layout width column (⟨indent, .broken, doc⟩ :: stack)) ↔
      width < column + (doc.lead .flat + leadOf stack) := by
  induction sole generalizing column indent stack with
  | @group doc breaks positive =>
    -- the look-ahead goes to the end of the stack, as no line may end in it
    have fitting : groupMode width column indent .broken doc stack = .flat ↔
        column + (doc.lead .flat + leadOf stack) ≤ width := by
      rw [groupMode_eq_flat_iff positive, calm.map_broken]
    rw [layout, lead_group]
    cases decided : groupMode width column indent .broken doc stack with
    | flat =>
      have fits := fitting.mp decided
      constructor
      · rintro ⟨next, member⟩
        refine absurd member (not_newline_mem_layout ?_ next)
        exact List.forall_mem_cons.mpr ⟨doc.ends_flat, calm.not_ends⟩
      · omega
    | broken =>
      constructor
      · intro _
        by_contra fits
        cases decided.symm.trans (fitting.mpr (by omega))
      · exact fun _ => exists_newline_of_breaks breaks
  | @before first second calmFirst _ ih =>
    obtain ⟨pieces, written, -, flat⟩ := layout_of_not_ends calmFirst
    rw [layout_append, written]
    simp only [List.mem_append, flat, false_or, ih calm, lead_append_flat, lead_of_not_ends calmFirst,
      Nat.add_assoc]
  | @after first second _ calmSecond ih =>
    -- what stands behind the group joins the stack, which stays calm
    rw [layout_append, ih (calm.cons calmSecond), leadOf_of_not_ends calmSecond,
      lead_of_not_ends calmSecond, lead_append_flat, Nat.add_assoc]

end Layout

namespace Expr

open Layout (Doc Piece)

/-- A combination or a call, the nodes that may be broken. -/
def IsBreakable (expr : Expr) : Prop :=
  expr.kind = .combined ∨ expr.kind = .call

theorem sole_operandDoc {wrapped : Bool} {depth : UInt8} {doc : UInt8 → Doc TokenStyle}
    (sole : ∀ depth, (doc depth).Sole) : (operandDoc wrapped depth doc).Sole := by
  cases wrapped with
  | false => exact sole depth
  | true => exact .after (.before rfl (sole (depth + 1))) rfl

theorem sole_combinedDoc (operator : Operator) (lhs rhs : Doc TokenStyle) :
    (combinedDoc operator lhs rhs).Sole := by
  refine .group ?_ ?_
  · simp [Doc.breaks]
  · simp only [Doc.lead_nest, Doc.lead_append_flat, Doc.lead_line_flat]
    omega

theorem sole_callDoc (name : String) (depth : UInt8) (arguments? : Option (Doc TokenStyle)) :
    (callDoc name depth arguments?).Sole := by
  have one : (openParenthesis depth).lead .flat = 1 := rfl
  refine .group ?_ ?_
  · simp [Doc.breaks]
  · simp only [Doc.lead_append_flat, one]
    omega

/-- Whatever combination or call is outermost in an expression has the only group of its document. -/
theorem sole_doc {expr inner : Expr} (within : Within inner expr) (breakable : inner.IsBreakable)
    (depth : UInt8) : (expr.doc depth).Sole := by
  induction expr generalizing depth with
  | field name =>
    obtain rfl := within_field.mp within
    cases breakable <;> contradiction
  | literal value =>
    obtain rfl := within_literal.mp within
    cases breakable <;> contradiction
  | combined operator lhs rhs =>
    rw [doc]
    exact sole_combinedDoc ..
  | negated operand ih =>
    rcases within_negated.mp within with rfl | inside
    · cases breakable <;> contradiction
    · rw [doc]
      exact .before rfl (sole_operandDoc (ih inside))
  | call name arguments =>
    rw [doc]
    exact sole_callDoc ..

/-- An expression is broken only when it must be. With a combination or a call in it, its rendering
has no newline if and only if it fits into the width when it is laid out flat. -/
theorem unbroken_iff_fits {expr inner : Expr} (within : Within inner expr)
    (breakable : inner.IsBreakable) (width : Nat) :
    (∀ indent, .newline indent ∉ (expr.doc 0).pieces width) ↔
      ((expr.doc 0).flatPieces.map Piece.columns).sum ≤ width := by
  obtain ⟨columns, -⟩ := (expr.doc 0).flatPieces_flat
  have broken : (∃ next, .newline next ∈ (expr.doc 0).pieces width) ↔
      width < 0 + ((expr.doc 0).lead .flat + 0) :=
    (sole_doc within breakable 0).exists_newline_iff .nil
  rw [columns, ← Nat.not_lt, ← not_exists, broken, Nat.zero_add, Nat.add_zero]

/-- The text `-(F(a) + F(b))`, which takes fourteen columns. -/
def negatedSum : Expr :=
  .negated (.combined .add (.field "a") (.field "b"))

theorem columns_negatedSum : ((negatedSum.doc 0).flatPieces.map Piece.columns).sum = 14 := by
  rw [(negatedSum.doc 0).flatPieces_flat.1]
  rfl

/-- It is broken where there are thirteen columns only. -/
theorem unbroken_negatedSum :
    Within (.combined .add (.field "a") (.field "b")) negatedSum ∧
      (combined .add (.field "a") (.field "b")).IsBreakable ∧
        (∀ indent, .newline indent ∉ (negatedSum.doc 0).pieces 14) ∧
          ¬ ∀ indent, .newline indent ∉ (negatedSum.doc 0).pieces 13 := by
  have within : Within (.combined .add (.field "a") (.field "b")) negatedSum :=
    within_negated.mpr (.inr .self)
  refine ⟨within, .inl rfl, ?_, ?_⟩
  · exact (unbroken_iff_fits within (.inl rfl) 14).mpr (Nat.le_of_eq columns_negatedSum)
  · intro unbroken
    have fits := (unbroken_iff_fits within (.inl rfl) 13).mp unbroken
    rw [columns_negatedSum] at fits
    omega

end Expr

end Hybrid
