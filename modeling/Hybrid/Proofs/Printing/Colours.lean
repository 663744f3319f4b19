import Hybrid.Proofs.Printing.Parentheses

/-! # The colours of parentheses

An expression inside some number of pairs gives each of its own pairs the depth at which it stands.
Depths are counted modulo 256 and colours modulo 6, yet a pair and the one directly around it never
look alike, not even where the depth starts again from zero.
-/

namespace Hybrid

open Layout (Segment)

/-- Colours of depths that differ modulo six differ. -/
theorem Colour.ofDepth_inj {depth other : UInt8} (same : ofDepth depth = ofDepth other) :
    depth.toNat % 6 = other.toNat % 6 := by
  have first := Nat.mod_lt depth.toNat (show 0 < 6 by decide)
  have second := Nat.mod_lt other.toNat (show 0 < 6 by decide)
  unfold ofDepth at same
  split at same <;> split at same <;> simp only [imp_false, reduceCtorEq] at * <;> omega

/-- The next depth has another colour, also where it is zero again. -/
theorem Colour.ofDepth_succ_ne (depth : UInt8) : ofDepth (depth + 1) ≠ ofDepth depth := by
  intro same
  have residues := ofDepth_inj same
  rw [UInt8.toNat_add] at residues
  have bound := depth.toNat_lt
  simp at residues
  omega

theorem ofNat_succ (count : Nat) : UInt8.ofNat (count + 1) = UInt8.ofNat count + 1 := by
  simp

namespace Expr

variable {count : Nat}

private theorem styled_singleton {token : Token} (plain : ¬ Token.IsParenthesis token) :
    Styled count [token] :=
  .plain plain .nil

/-- An operand in parentheses stands inside one pair more. -/
theorem styled_operandTokens {operand : Expr}
    (styled : ∀ count, Styled count (operand.tokens (.ofNat count))) (wrapped : Bool) :
    Styled count (operandTokens wrapped (.ofNat count) operand) := by
  cases wrapped with
  | false => exact styled count
  | true =>
    have inside := styled (count + 1)
    rw [ofNat_succ] at inside
    exact .pair inside .nil

theorem styled_argumentTokens {arguments : List Expr}
    (each : ∀ argument ∈ arguments, ∀ count, Styled count (argument.tokens (.ofNat count))) :
    Styled count (argumentTokens arguments (.ofNat count)) := by
  induction arguments with
  | nil => simpa using .nil
  | cons argument rest ih =>
    obtain ⟨first, others⟩ := List.forall_mem_cons.mp each
    cases rest with
    | nil => simpa using first count
    | cons next rest =>
      rw [argumentTokens_cons]
      exact (first count).append (.plain (by simp [Token.IsParenthesis]) (ih others))

/-- The tokens of an expression inside some pairs have the depths of the pairs that they stand in. -/
theorem styled_tokens (expr : Expr) (count : Nat) : Styled count (expr.tokens (.ofNat count)) := by
  induction expr generalizing count with
  | field name =>
    rw [tokens_field]
    exact .plain (by simp [Token.IsParenthesis])
      (.pair (styled_singleton (by simp [Token.IsParenthesis])) .nil)
  | literal value =>
    rw [tokens_literal]
    exact styled_singleton (by simp [Token.IsParenthesis])
  | combined operator lhs rhs left right =>
    rw [tokens_combined]
    exact (styled_operandTokens left _).append
      (.plain (by simp [Token.IsParenthesis]) (styled_operandTokens right _))
  | negated operand ih =>
    rw [tokens_negated]
    exact .plain (by simp [Token.IsParenthesis]) (styled_operandTokens ih _)
  | call name arguments each =>
    have inside : Styled (count + 1) (argumentTokens arguments (.ofNat count + 1)) := by
      rw [← ofNat_succ]
      exact styled_argumentTokens each
    rw [tokens_call]
    exact .plain (by simp [Token.IsParenthesis]) (.pair inside .nil)

/-- The styled segments of a rendering are nested as their depths say. -/
theorem styled_segments (expr : Expr) (width : Nat) :
    Styled 0 ((expr.segments width).filterMap Segment.styled?) := by
  unfold segments
  rw [Layout.Doc.segments_styled]
  exact (expr.styled_tokens 0).filter_nonempty

/-- Matching parentheses look alike. At every width the parentheses of an expression are balanced;
both parentheses of a pair have as their depth the number of pairs that are open before it, modulo
256; and a pair does not look like the pair directly around it. -/
theorem parentheses_share_style (expr : Expr) (width : Nat) :
    let styled := (expr.segments width).filterMap Segment.styled?
    Balanced styled ∧
      (∀ pair : Pair, pair.Of styled → ∃ enclosing,
        pair.before.countP Token.opens = enclosing + pair.before.countP Token.closes ∧
          pair.opening = UInt8.ofNat enclosing ∧ pair.closing = UInt8.ofNat enclosing) ∧
      ∀ outer inner : Pair, outer.Of styled → inner.Of outer.inside → Balanced inner.before →
        (TokenStyle.parenthesis inner.opening).paint ≠ (TokenStyle.parenthesis outer.opening).paint := by
  intro styled
  have nested : Styled 0 styled := expr.styled_segments width
  refine ⟨nested.balanced, fun pair of => ?_, fun outer inner of within directly => ?_⟩
  · obtain ⟨enclosing, before, opening, closing, -⟩ := nested.pair_depths of
    refine ⟨enclosing, ?_, opening, closing⟩
    have counted := before.count_eq
    omega
  · obtain ⟨enclosing, -, opening, -, inside⟩ := nested.pair_depths of
    rw [← within.text, Pair.text] at inside
    obtain ⟨middle, before, behind⟩ := inside.split
    obtain rfl := before.eq_of_balanced directly
    have deeper := behind.of_opening.1
    rw [ofNat_succ, ← opening] at deeper
    rw [deeper]
    intro same
    refine Colour.ofDepth_succ_ne outer.opening ?_
    simpa [TokenStyle.paint] using same

/-- The text `(F(a) - (F(b) - F(c))) * F(d)`. -/
def differences : Expr :=
  .combined .mul (.combined .sub (.field "a") (.combined .sub (.field "b") (.field "c"))) (.field "d")

/-- The parentheses around `F(a) - (F(b) - F(c))`. -/
def difference : Pair where
  before := []
  opening := 0
  inside := (combined .sub (.field "a") (.combined .sub (.field "b") (.field "c"))).tokens 1
  closing := 0
  after := (.operator, "*") :: (field "d").tokens 0

/-- The parentheses around `F(b) - F(c)`. -/
def subtrahend : Pair where
  before := (field "a").tokens 1 ++ [(.operator, "-")]
  opening := 1
  inside := (combined .sub (.field "b") (.field "c")).tokens 2
  closing := 1
  after := []

theorem differences_named : differences.Named := by
  have letter (name : String) (full : name ≠ "") : (field name).Named := .leaf full rfl
  exact .combined trivial
    (.combined trivial (letter "a" (by decide))
      (.combined trivial (letter "b" (by decide)) (letter "c" (by decide))))
    (letter "d" (by decide))

theorem difference_of (width : Nat) :
    difference.Of ((differences.segments width).filterMap Segment.styled?) := by
  refine ⟨?_, (styled_tokens _ 1).balanced⟩
  rw [differences_named.segments_styled, differences, tokens_combined]
  rfl

theorem subtrahend_of : subtrahend.Of difference.inside := by
  refine ⟨?_, (styled_tokens _ 2).balanced⟩
  rw [difference, tokens_combined]
  simp [Pair.text, subtrahend, operandTokens, needsParentheses, precedence, Operator.precedence,
    Operator.isAssociative, Operator.symbol]

theorem paint_subtrahend_ne :
    difference.Of ((differences.segments 20).filterMap Segment.styled?) ∧
      subtrahend.Of difference.inside ∧ Balanced subtrahend.before ∧
        (TokenStyle.parenthesis subtrahend.opening).paint ≠
          (TokenStyle.parenthesis difference.opening).paint := by
  have directly : Balanced subtrahend.before :=
    ((styled_tokens (field "a") 1).append
      (styled_singleton (by simp [Token.IsParenthesis]))).balanced
  obtain ⟨-, -, apart⟩ := parentheses_share_style differences 20
  exact ⟨difference_of 20, subtrahend_of, directly,
    apart difference subtrahend (difference_of 20) subtrahend_of directly⟩

end Expr

end Hybrid
