import Hybrid.Proofs.Printing.Readback

/-! # Texts that are read in one way

A right operand is regrouped only where it stands bare beside an operator as strong as its own, and
then it is a combination with that same operator. An expression without such an operand is read back
as it is, so its text belongs to no other such expression, literals of one text apart.
-/

namespace Hybrid

open Layout (Segment)

namespace Expr

open Reader (Chain)

/-- The right operand of an associative operator is not a combination with that same operator. -/
def AssociatesLeft : Expr → Prop
  | .combined operator _ (.combined other _ _) => operator.isAssociative = true → other ≠ operator
  | _ => True

theorem associatesLeft_withLiterals {meaning : Value → Value} {expr : Expr}
    (left : expr.AssociatesLeft) : (expr.withLiterals meaning).AssociatesLeft := by
  cases expr with
  | combined operator lhs rhs =>
    cases rhs with
    | combined other inner outer => exact left
    | _ => trivial
  | _ => trivial

/-- A right operand that stands bare beside another operator binds tighter. -/
theorem AssociatesLeft.right_grouped {operator : Operator} {lhs rhs : Expr}
    (left : (combined operator lhs rhs).AssociatesLeft) :
    (rhs.opened.enclosed (needsParentheses rhs operator true)).Grouped (operator.precedence + 1) := by
  apply Chain.Grouped.enclosed
  intro bare
  have loose := precedence_le_of_bare bare
  by_cases same : rhs.precedence = operator.precedence
  · obtain ⟨associative, inner, outer, rfl⟩ := eq_combined_of_bare bare same
    exact absurd rfl (left associative)
  · exact rhs.opened_grouped (by omega)

/-- An expression that associates to the left is read back as it is. -/
theorem regrouped_of_associatesLeft {expr : Expr} (left : expr.Everywhere AssociatesLeft) :
    expr.regrouped = expr := by
  induction expr with
  | field name => unfold regrouped opened; rfl
  | literal value => unfold regrouped opened; rfl
  | combined operator lhs rhs ihLeft ihRight =>
    have first : lhs.opened.toExpr = lhs := ihLeft (left.child (by simp [children]))
    have second : rhs.opened.toExpr = rhs := ihRight (left.child (by simp [children]))
    rw [regrouped, opened, Chain.graft_of_grouped left.here.right_grouped, Chain.toExpr,
      Chain.toExpr_enclosed, Chain.toExpr_enclosed, first, second]
  | negated operand ih =>
    have same : operand.opened.toExpr = operand := ih (left.child (by simp [children]))
    rw [regrouped, opened, Chain.toExpr, same]
  | call name arguments each =>
    have same : regroupedList arguments = arguments := by
      rw [regroupedList_eq, List.map_congr_left fun argument member =>
        each argument member (left.child member), List.map_id']
    rw [regrouped, opened, Chain.toExpr, same]

/-- The styled texts of an expression in which all names have characters and that associates to the
left are read as the expression, whatever the texts of literals stand for. -/
theorem read_segments_of_associatesLeft {expr : Expr} (named : expr.Named)
    (left : expr.Everywhere AssociatesLeft) (meaning : String → Value) (width : Nat) :
    Reader.read (fun text => some (meaning text))
        ((expr.segments width).filterMap Segment.styled?) =
      some (expr.withLiterals fun value => meaning value.display) := by
  have means : expr.Everywhere
      (Means (fun text => some (meaning text)) fun value => meaning value.display) := by
    refine left.mono fun inside _ => ?_
    cases inside <;> trivial
  have leftAfter : (expr.withLiterals fun value => meaning value.display).Everywhere
      AssociatesLeft := left.withLiterals fun _ => associatesLeft_withLiterals
  have same := regrouped_of_associatesLeft leftAfter
  rw [named.segments_styled, Reader.read_tokens_of_means means, same]

/-- The text `-(F(a) - (F(b) - 1)) * F(c) || max(F(d))`. -/
def mixed : Expr :=
  .combined .concat
    (.combined .mul
      (.negated (.combined .sub (.field "a") (.combined .sub (.field "b") (.literal (.int 1)))))
      (.field "c"))
    (.call "max" [.field "d"])

theorem read_segments_mixed :
    mixed.Named ∧ mixed.Everywhere AssociatesLeft ∧
      Reader.read (fun text => some (.text text))
          ((mixed.segments 20).filterMap Segment.styled?) =
        some (mixed.withLiterals fun value => .text value.display) := by
  have letter (name : String) (full : name ≠ "") : (field name).Named := .leaf full rfl
  have alone (name : String) : (field name).Everywhere AssociatesLeft := .leaf trivial rfl
  have named : mixed.Named :=
    .combined trivial
      (.combined trivial
        (.intro trivial (List.forall_mem_singleton.mpr (.combined trivial (letter "a" (by decide))
          (.combined trivial (letter "b" (by decide)) (.leaf trivial rfl)))))
        (letter "c" (by decide)))
      (.intro (by decide : "max" ≠ "") (List.forall_mem_singleton.mpr (letter "d" (by decide))))
  have left : mixed.Everywhere AssociatesLeft :=
    .combined trivial
      (.combined trivial
        (.intro trivial (List.forall_mem_singleton.mpr (.combined (fun same => nomatch same) (alone "a")
          (.combined trivial (alone "b") (.leaf trivial rfl)))))
        (alone "c"))
      (.intro trivial (List.forall_mem_singleton.mpr (alone "d")))
  exact ⟨named, left, read_segments_of_associatesLeft named left .text 20⟩

end Expr

end Hybrid
