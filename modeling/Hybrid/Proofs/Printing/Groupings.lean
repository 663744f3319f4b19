import Mathlib.Algebra.GroupWithZero.Nat
import Hybrid.Proofs.Printing.Parentheses
import Hybrid.Proofs.Printing.Readback
import Hybrid.Proofs.Printing.Steps

/-! # How many groups an expression needs

A parenthesis that follows no function opens a group. An expression needs a group around each operand
that binds too loose for its place, so a text with fewer groups is not read as the expression
(`groupings_le_of_read`), and the text that is printed has no more than are needed
(`opensGroups_tokens`). Both are counts: the opening parentheses of a text that can be read are those of its
functions and those of its groups.
-/

namespace Hybrid

/-- A function, which has a parenthesis of its own. -/
def Token.names : Token → Bool
  | (.function, _) => true
  | _ => false

namespace Expr

/-- One for an operand that binds looser than its place asks for. -/
def loose (bound : Nat) (expr : Expr) : Nat :=
  if expr.precedence < bound then 1 else 0

mutual

/-- The number of operands in an expression that have to stand in parentheses. -/
def groupings : Expr → Nat
  | .field _ | .literal _ => 0
  | .combined operator lhs rhs =>
    (lhs.groupings + lhs.loose operator.precedence) +
      (rhs.groupings + rhs.loose (operator.precedence + 1))
  | .negated operand => operand.groupings + operand.loose 4
  | .call _ arguments => groupingsList arguments

def groupingsList : List Expr → Nat
  | [] => 0
  | argument :: rest => argument.groupings + groupingsList rest

end

variable {bound : Nat} {expr : Expr}

theorem loose_le_one : expr.loose bound ≤ 1 := by
  unfold loose
  split <;> omega

theorem loose_mono {upper : Nat} (below : bound ≤ upper) : expr.loose bound ≤ expr.loose upper := by
  unfold loose
  split <;> split <;> omega

theorem loose_of_le (tight : bound ≤ expr.precedence) : expr.loose bound = 0 := by
  simp [loose, tight]

theorem loose_of_lt (below : expr.precedence < bound) : expr.loose bound = 1 := by
  simp [loose, below]

theorem groupingsList_append (first second : List Expr) :
    groupingsList (first ++ second) = groupingsList first + groupingsList second := by
  induction first with
  | nil => simp [groupingsList]
  | cons argument rest ih => simp only [List.cons_append, groupingsList, ih]; omega

end Expr

namespace Operator

theorem precedence_lt_four (operator : Operator) : operator.precedence < 4 := by
  cases operator <;> decide

end Operator

namespace Reader

open Hybrid.Expr (loose_mono loose_of_le)

namespace Chain

/-- The groups in a combination: those inside its operands, and one around each operand that is a
combination itself. -/
def groups : Chain → Nat
  | .operand expr => expr.groupings + expr.loose 4
  | .combined _ lhs rhs => lhs.groups + rhs.groups

/-- Each operand that is a combination needs its group, where the whole may not bind looser than
`bound`. -/
def Needed (bound : Nat) : Chain → Prop
  | .operand expr => expr.precedence < 4 → expr.precedence < bound
  | .combined operator lhs rhs =>
    lhs.Needed operator.precedence ∧ rhs.Needed (operator.precedence + 1)

variable {bound : Nat} {operator : Operator} {chain before : Chain} {operand : Expr}

@[simp] theorem groups_extend :
    (chain.extend operator operand).groups = chain.groups + (operand.groupings + operand.loose 4) := by
  induction chain with
  | operand expr => rfl
  | combined other lhs rhs _ right =>
    unfold extend
    split
    · simp only [groups, right]
      omega
    · rfl

@[simp] theorem groups_graft : (graft operator before chain).groups = before.groups + chain.groups := by
  induction chain with
  | operand expr => rfl
  | combined other lhs rhs left _ =>
    unfold graft
    split
    · simp only [groups, left]
      omega
    · rfl

theorem Grouped.extend (grouped : chain.Grouped bound) (tight : bound ≤ operator.precedence) :
    (chain.extend operator operand).Grouped bound := by
  induction chain generalizing bound with
  | operand expr => exact ⟨tight, trivial, trivial⟩
  | combined other lhs rhs _ right =>
    obtain ⟨outer, leftmost, rightmost⟩ := grouped
    unfold Chain.extend
    split
    · next tighter => exact ⟨outer, leftmost, right rightmost (by omega)⟩
    · next looser => exact ⟨tight, ⟨by omega, leftmost, rightmost⟩, trivial⟩

/-- An operand that stands where it may be a combination needs no group, so a combination has at
least the groups that are needed. -/
theorem Grouped.groupings_le (grouped : chain.Grouped bound) (weak : bound ≤ 4) :
    chain.toExpr.groupings + chain.toExpr.loose bound ≤ chain.groups := by
  induction chain generalizing bound with
  | operand expr => exact Nat.add_le_add_left (loose_mono weak) _
  | combined operator lhs rhs left right =>
    obtain ⟨tight, leftmost, rightmost⟩ := grouped
    have below := operator.precedence_lt_four
    have first := left leftmost (by omega)
    have second := right rightmost (by omega)
    have whole : (combined operator lhs rhs).toExpr.loose bound = 0 := loose_of_le tight
    rw [whole]
    simp only [toExpr, Expr.groupings, groups]
    omega

/-- Where each group is needed, there are no more than the needed ones. -/
theorem Needed.groupings_eq (needed : chain.Needed bound) (grouped : chain.Grouped bound)
    (weak : bound ≤ 4) : chain.toExpr.groupings + chain.toExpr.loose bound = chain.groups := by
  induction chain generalizing bound with
  | operand expr =>
    have same : expr.loose bound = expr.loose 4 := by
      unfold Expr.loose
      have strong : expr.precedence < 4 → expr.precedence < bound := needed
      split <;> split <;> omega
    simp only [toExpr, groups, same]
  | combined operator lhs rhs left right =>
    obtain ⟨tight, leftmost, rightmost⟩ := grouped
    obtain ⟨neededLeft, neededRight⟩ := needed
    have below := operator.precedence_lt_four
    have first := left neededLeft leftmost (by omega)
    have second := right neededRight rightmost (by omega)
    have whole : (combined operator lhs rhs).toExpr.loose bound = 0 := loose_of_le tight
    rw [whole]
    simp only [toExpr, Expr.groupings, groups]
    omega

theorem Needed.mono {upper : Nat} (needed : chain.Needed bound) (below : bound ≤ upper) :
    chain.Needed upper := by
  cases chain with
  | operand expr => exact fun combination => Nat.lt_of_lt_of_le (needed combination) below
  | combined operator lhs rhs => exact needed

theorem Needed.enclosed (wrapped : Bool) (inside : wrapped = true → chain.toExpr.precedence < bound)
    (needed : chain.Needed bound) : (chain.enclosed wrapped).Needed bound := by
  cases wrapped with
  | true => exact fun _ => inside rfl
  | false => exact needed

theorem Needed.graft (left : before.Needed operator.precedence)
    (right : chain.Needed (operator.precedence + 1)) :
    (Chain.graft operator before chain).Needed bound := by
  induction chain generalizing bound with
  | operand expr => exact ⟨left, right⟩
  | combined other lhs rhs ih _ =>
    unfold Chain.graft
    split
    · next same =>
      obtain ⟨neededLeft, neededRight⟩ := right
      exact ⟨ih (neededLeft.mono (by omega)), neededRight⟩
    · exact ⟨left, right⟩

theorem precedence_toExpr_graft :
    (graft operator before chain).toExpr.precedence = operator.precedence := by
  cases chain with
  | operand expr => rfl
  | combined other lhs rhs =>
    unfold graft
    split
    · next same => exact same
    · rfl

end Chain

/-! ## The groups of a text that is read -/

/-- The groups in what stands before an operand. -/
def Place.groups (place : Place) : Nat :=
  match place.before? with
  | none => 0
  | some (chain, _) => chain.groups

/-- What stands before an operand associates to the left. -/
def Place.Grouped (place : Place) : Prop :=
  ∀ before ∈ place.before?, before.1.Grouped 0

/-- The groups in what an open parenthesis holds so far, and the parenthesis itself if it opens one. -/
def Opening.groups : Opening → Nat
  | .group => 1
  | .call _ arguments => Expr.groupingsList arguments

/-- The groups in what was read last. -/
def Point.groups : Point → Nat
  | .having chain => chain.groups
  | .wanting place | .naming place _ | .opened place _ | .referring place _ => place.groups

/-- What was read last associates to the left. -/
def Point.Grouped : Point → Prop
  | .having chain => chain.Grouped 0
  | .wanting place | .naming place _ | .opened place _ | .referring place _ => place.Grouped

/-- One for a function whose parenthesis is to follow. -/
def Point.owes : Point → Nat
  | .naming _ _ => 1
  | .wanting _ | .having _ | .opened _ _ | .referring _ _ => 0

/-- The groups in the parentheses that are open. -/
def groupsOf (outer : List (Place × Opening)) : Nat :=
  (outer.map fun frame => frame.1.groups + frame.2.groups).sum

@[simp] theorem groupsOf_cons (frame : Place × Opening) (outer : List (Place × Opening)) :
    groupsOf (frame :: outer) = frame.1.groups + frame.2.groups + groupsOf outer := rfl

/-- The groups in what was read. -/
def State.groups (state : State) : Nat :=
  groupsOf state.outer + state.point.groups

/-- All that was read associates to the left. -/
structure State.Grouped (state : State) : Prop where
  outer : ∀ frame ∈ state.outer, frame.1.Grouped
  point : state.point.Grouped

section Fill

variable {place : Place} {operand : Expr}

private theorem groupings_signed (signs : Nat) (operand : Expr) :
    (Nat.iterate .negated signs operand).groupings +
        (Nat.iterate .negated signs operand).loose 4 = operand.groupings + operand.loose 4 := by
  induction signs generalizing operand with
  | zero => rfl
  | succ signs ih => exact ih (.negated operand)

theorem Place.groups_fill :
    (place.fill operand).groups = place.groups + (operand.groupings + operand.loose 4) := by
  rw [← groupings_signed place.signs operand]
  unfold fill groups
  cases place.before? with
  | none => simp [Chain.groups]
  | some before => exact Chain.groups_extend

theorem Place.Grouped.fill (grouped : place.Grouped) : (place.fill operand).Grouped 0 := by
  unfold Place.fill
  cases before : place.before? with
  | none => trivial
  | some chain => exact (grouped chain before).extend (Nat.zero_le _)

/-- A group adds at most itself to the place that it stands in. -/
theorem Place.groups_fill_group {chain : Chain} (grouped : chain.Grouped 0) :
    (place.fill chain.toExpr).groups ≤ place.groups + 1 + chain.groups := by
  have inside := grouped.groupings_le (by decide)
  have one : chain.toExpr.loose 4 ≤ 1 := Expr.loose_le_one
  rw [groups_fill]
  omega

/-- Anything else is an operand that needs no group. -/
theorem Place.groups_fill_tight (tight : 4 ≤ operand.precedence) :
    (place.fill operand).groups = place.groups + operand.groupings := by
  rw [groups_fill, loose_of_le tight]
  rfl

end Fill

section Read

variable {literal : String → Option Value} {outer : List (Place × Opening)} {place : Place}
  {token : Token} {state next : State}

@[simp] theorem Place.groups_start : start.groups = 0 := rfl

theorem Place.start_grouped : start.Grouped := by
  simp [Grouped, start]

theorem Wants.grouped (wants : Wants state outer place) (grouped : state.Grouped) :
    (∀ frame ∈ outer, frame.1.Grouped) ∧ place.Grouped := by
  obtain ⟨frames, here⟩ := grouped
  cases wants with
  | operand => exact ⟨frames, here⟩
  | argument => exact ⟨List.forall_mem_cons.mpr ⟨here, frames⟩, Place.start_grouped⟩

theorem Wants.groups (wants : Wants state outer place) :
    groupsOf outer + place.groups = state.groups ∧ state.point.owes = 0 := by
  cases wants with
  | operand => exact ⟨rfl, rfl⟩
  | argument =>
    simp [State.groups, Point.groups, Point.owes, Opening.groups, Expr.groupingsList]
    omega

/-- What was read associates to the left after each token. -/
theorem Steps.grouped (steps : Steps literal state token next) (grouped : state.Grouped) :
    next.Grouped := by
  cases steps with
  | sign wants =>
    obtain ⟨frames, here⟩ := wants.grouped grouped
    exact ⟨frames, here⟩
  | value wants _ =>
    obtain ⟨frames, here⟩ := wants.grouped grouped
    exact ⟨frames, here.fill⟩
  | group wants =>
    obtain ⟨frames, here⟩ := wants.grouped grouped
    exact ⟨List.forall_mem_cons.mpr ⟨here, frames⟩, Place.start_grouped⟩
  | function wants =>
    obtain ⟨frames, here⟩ := wants.grouped grouped
    exact ⟨frames, here⟩
  | call => exact ⟨grouped.outer, grouped.point⟩
  | field => exact ⟨grouped.outer, grouped.point⟩
  | operator _ =>
    refine ⟨grouped.outer, ?_⟩
    rintro before ⟨⟩
    exact grouped.point
  | comma =>
    obtain ⟨first, others⟩ := List.forall_mem_cons.mp grouped.outer
    exact ⟨List.forall_mem_cons.mpr ⟨first, others⟩, Place.start_grouped⟩
  | endGroup =>
    obtain ⟨first, others⟩ := List.forall_mem_cons.mp grouped.outer
    exact ⟨others, first.fill⟩
  | endCall =>
    obtain ⟨first, others⟩ := List.forall_mem_cons.mp grouped.outer
    exact ⟨others, first.fill⟩
  | endEmptyCall => exact ⟨grouped.outer, Place.Grouped.fill grouped.point⟩
  | endField => exact ⟨grouped.outer, Place.Grouped.fill grouped.point⟩

/-- A token adds no group unless it opens one, and a function owes the parenthesis behind it. -/
theorem Steps.groups_le (steps : Steps literal state token next) (grouped : state.Grouped) :
    next.groups + (Token.names token).toNat + state.point.owes ≤
      state.groups + (Token.opens token).toNat + next.point.owes := by
  cases steps with
  | sign wants =>
    obtain ⟨same, nothing⟩ := wants.groups
    rw [nothing, ← same]
    exact Nat.le_refl _
  | @value _ outer place _ value wants _ =>
    obtain ⟨same, nothing⟩ := wants.groups
    have filled : (place.fill (.literal value)).groups = place.groups :=
      Place.groups_fill_tight (by simp [Expr.precedence])
    rw [nothing, ← same]
    simp [State.groups, Point.groups, filled, Token.names]
    omega
  | group wants =>
    obtain ⟨same, nothing⟩ := wants.groups
    rw [nothing, ← same]
    simp [State.groups, Point.groups, Opening.groups, Token.names, Token.opens]
    omega
  | function wants =>
    obtain ⟨same, nothing⟩ := wants.groups
    rw [nothing, ← same]
    exact Nat.le_refl _
  | call => exact Nat.le_refl _
  | field => exact Nat.le_refl _
  | operator _ => exact Nat.le_refl _
  | @comma outer place name arguments chain =>
    have inside := Chain.Grouped.groupings_le grouped.point (by decide)
    simp [State.groups, Point.groups, Point.owes, Opening.groups, Token.names,
      Expr.groupingsList_append, Expr.groupingsList]
    omega
  | @endGroup outer place chain =>
    have filled : (place.fill chain.toExpr).groups ≤ place.groups + 1 + chain.groups :=
      Place.groups_fill_group grouped.point
    simp [State.groups, Point.groups, Point.owes, Opening.groups, Token.names]
    omega
  | @endCall outer place name arguments chain =>
    have inside := Chain.Grouped.groupings_le grouped.point (by decide)
    have filled : (place.fill (.call name (arguments ++ [chain.toExpr]))).groups = _ :=
      Place.groups_fill_tight (by simp [Expr.precedence])
    simp [State.groups, Point.groups, Point.owes, Opening.groups, Token.names, filled,
      Expr.groupings, Expr.groupingsList_append, Expr.groupingsList]
    omega
  | @endEmptyCall outer place name =>
    have filled : (place.fill (.call name [])).groups = place.groups :=
      Place.groups_fill_tight (by simp [Expr.precedence])
    simp [State.groups, Point.groups, Point.owes, filled, Token.names]
  | @endField outer place name =>
    have filled : (place.fill (.field name)).groups = place.groups :=
      Place.groups_fill_tight (by simp [Expr.precedence])
    simp [State.groups, Point.groups, Point.owes, filled, Token.names]

theorem run_groups {tokens : List Token} (grouped : state.Grouped)
    (taken : run literal state tokens = some next) :
    next.Grouped ∧ next.groups + tokens.countP Token.names + state.point.owes ≤
      state.groups + tokens.countP Token.opens + next.point.owes := by
  induction tokens generalizing state with
  | nil =>
    obtain rfl := Option.some.inj taken
    exact ⟨grouped, by simp⟩
  | cons token rest ih =>
    obtain ⟨middle, first, others⟩ := run_cons_eq_some_iff.mp taken
    have here := first.groups_le grouped
    obtain ⟨after, behind⟩ := ih (first.grouped grouped) others
    have bit (b : Bool) : (if b = true then 1 else 0) = b.toNat := by cases b <;> rfl
    refine ⟨after, ?_⟩
    rw [List.countP_cons, List.countP_cons, bit, bit]
    omega

/-- A text that is read as an expression has an opening parenthesis for each function and each group
that the expression needs. -/
theorem groupings_le_of_read {tokens : List Token} {expr : Expr}
    (readable : read literal tokens = some expr) :
    expr.groupings + tokens.countP Token.names ≤ tokens.countP Token.opens := by
  obtain ⟨chain, taken, rfl⟩ := read_eq_some_iff.mp readable
  have start : State.Grouped ⟨[], .wanting .start⟩ :=
    ⟨List.forall_mem_nil _, Place.start_grouped⟩
  obtain ⟨after, counted⟩ := run_groups start taken
  have inside := after.point.groupings_le (by decide)
  have fresh : State.groups ⟨[], .wanting .start⟩ = 0 := rfl
  rw [fresh] at counted
  simp [State.groups, Point.groups, Point.owes, groupsOf] at counted
  omega

end Read

end Reader

namespace Expr

open Reader (Chain)

/-- Regrouping keeps the strength of the outermost node. -/
theorem precedence_regrouped (expr : Expr) : expr.regrouped.precedence = expr.precedence := by
  cases expr with
  | combined operator lhs rhs =>
    rw [regrouped, opened, Chain.precedence_toExpr_graft]
    rfl
  | _ => unfold regrouped opened; rfl

/-- A left operand stands in parentheses only if it binds looser. -/
theorem precedence_lt_of_needsParentheses {operand : Expr} {parent : Operator}
    (wrapped : needsParentheses operand parent false = true) :
    operand.precedence < parent.precedence := by
  unfold needsParentheses at wrapped
  split at wrapped
  · simpa using wrapped
  · split at wrapped <;> simp at wrapped

/-- An operand that binds tighter stands bare. -/
theorem precedence_le_of_needsParentheses {operand : Expr} {parent : Operator} {onRight : Bool}
    (wrapped : needsParentheses operand parent onRight = true) :
    operand.precedence ≤ parent.precedence := by
  unfold needsParentheses at wrapped
  split at wrapped
  · have looser : operand.precedence < parent.precedence := by simpa using wrapped
    omega
  · omega

/-- Each group that is printed is needed where it is read. -/
theorem opened_needed (expr : Expr) (bound : Nat) : expr.opened.Needed bound := by
  induction expr generalizing bound with
  | combined operator lhs rhs left right =>
    unfold opened
    apply Chain.Needed.graft
    · refine .enclosed _ (fun wrapped => ?_) (left _)
      have looser := precedence_lt_of_needsParentheses wrapped
      have same : lhs.opened.toExpr.precedence = lhs.precedence := lhs.precedence_regrouped
      omega
    · refine .enclosed _ (fun wrapped => ?_) (right _)
      have looser := precedence_le_of_needsParentheses wrapped
      have same : rhs.opened.toExpr.precedence = rhs.precedence := rhs.precedence_regrouped
      omega
  | _ => unfold opened; simp [Chain.Needed, precedence]

theorem groups_opened (expr : Expr) : expr.opened.groups = expr.regrouped.groupings := by
  have counted := (expr.opened_needed 0).groupings_eq (expr.opened_grouped (Nat.zero_le _)) (by decide)
  have whole : expr.opened.toExpr.loose 0 = 0 := loose_of_le (Nat.zero_le _)
  rw [← counted, whole, regrouped]
  rfl

/-- Parentheses around an operand are a group more. -/
theorem groups_enclosed {wrapped : Bool} (expr : Expr)
    (combination : wrapped = true → expr.precedence < 4) :
    (expr.opened.enclosed wrapped).groups = expr.regrouped.groupings + wrapped.toNat := by
  cases wrapped with
  | false => exact expr.groups_opened
  | true =>
    have below : expr.regrouped.precedence < 4 := by
      rw [precedence_regrouped]
      exact combination rfl
    exact congrArg (expr.regrouped.groupings + ·) (loose_of_lt below)

/-! ## The groups of a printed text -/

section Printed

variable {depth : UInt8}

/-- The tokens have one opening parenthesis for each function and `count` for groups. -/
def OpensGroups (tokens : List Token) (count : Nat) : Prop :=
  tokens.countP Token.opens = tokens.countP Token.names + count

private theorem OpensGroups.append {first second : List Token} {count others : Nat}
    (before : OpensGroups first count) (behind : OpensGroups second others) :
    OpensGroups (first ++ second) (count + others) := by
  unfold OpensGroups at *
  rw [List.countP_append, List.countP_append]
  omega

private theorem OpensGroups.cons {token : Token} {rest : List Token} {count : Nat}
    (opens : Token.opens token = false) (names : Token.names token = false)
    (behind : OpensGroups rest count) : OpensGroups (token :: rest) count := by
  unfold OpensGroups at *
  rw [List.countP_cons_of_neg (by simp [opens]), List.countP_cons_of_neg (by simp [names]), behind]

/-- A function and the list behind it. -/
private theorem OpensGroups.function {name : String} {inside : List Token} {count : Nat}
    (opens : OpensGroups inside count) :
    OpensGroups ((.function, name) :: (.parenthesis depth, "(") ::
      (inside ++ [(.parenthesis depth, ")")])) count := by
  unfold OpensGroups at *
  simp [List.countP_cons, Token.opens, Token.names]
  omega

private theorem opensGroups_operandTokens {operand : Expr} {wrapped : Bool} {count : Nat}
    (opens : ∀ depth, OpensGroups (operand.tokens depth) count) :
    OpensGroups (operandTokens wrapped depth operand) (count + wrapped.toNat) := by
  cases wrapped with
  | false => exact opens depth
  | true =>
    have inside := opens (depth + 1)
    unfold OpensGroups at *
    simp [operandTokens, Token.opens, Token.names]
    omega

private theorem opensGroups_argumentTokens {arguments : List Expr} {other : Expr → Expr}
    (each : ∀ argument ∈ arguments, ∀ depth,
      OpensGroups (argument.tokens depth) (other argument).groupings) :
    OpensGroups (argumentTokens arguments depth) (groupingsList (arguments.map other)) := by
  induction arguments with
  | nil => simp [OpensGroups, groupingsList]
  | cons argument rest ih =>
    obtain ⟨first, others⟩ := List.forall_mem_cons.mp each
    cases rest with
    | nil => simpa [groupingsList] using first depth
    | cons next rest =>
      rw [argumentTokens_cons]
      exact (first depth).append (.cons rfl rfl (ih others))

/-- The groups that are printed are those that the expression needs, as it is read. -/
theorem opensGroups_tokens (meaning : Value → Value) (expr : Expr) (depth : UInt8) :
    OpensGroups (expr.tokens depth) (expr.withLiterals meaning).regrouped.groupings := by
  induction expr generalizing depth with
  | field name =>
    rw [tokens_field]
    have inside : OpensGroups [(.identifier, name)] 0 := rfl
    exact inside.function
  | literal value =>
    rw [tokens_literal]
    rfl
  | combined operator lhs rhs left right =>
    have weak := operator.precedence_lt_four
    have needed : ((combined operator lhs rhs).withLiterals meaning).regrouped.groupings =
        ((lhs.withLiterals meaning).regrouped.groupings +
            (needsParentheses lhs operator false).toNat) +
          ((rhs.withLiterals meaning).regrouped.groupings +
            (needsParentheses rhs operator true).toNat) := by
      rw [← groups_opened, withLiterals, opened, Chain.groups_graft, groups_enclosed, groups_enclosed,
        needsParentheses_withLiterals, needsParentheses_withLiterals]
      · intro wrapped
        have looser := precedence_le_of_needsParentheses wrapped
        omega
      · intro wrapped
        have looser := precedence_le_of_needsParentheses wrapped
        omega
    rw [tokens_combined, needed]
    refine (opensGroups_operandTokens left).append ?_
    exact .cons rfl rfl (opensGroups_operandTokens right)
  | negated operand ih =>
    have needed : ((negated operand).withLiterals meaning).regrouped.groupings =
        (operand.withLiterals meaning).regrouped.groupings +
          (needsParenthesesNegated operand).toNat := by
      have wrapped : (operand.withLiterals meaning).regrouped.loose 4 =
          (needsParenthesesNegated operand).toNat := by
        unfold loose needsParenthesesNegated
        rw [precedence_regrouped, precedence_withLiterals]
        by_cases looser : operand.precedence < 4 <;> simp [looser]
      rw [withLiterals, regrouped, opened, Chain.toExpr, groupings]
      exact congrArg ((operand.withLiterals meaning).regrouped.groupings + ·) wrapped
    rw [tokens_negated, needed]
    exact .cons rfl rfl (opensGroups_operandTokens ih)
  | call name arguments each =>
    have inside : OpensGroups (argumentTokens arguments (depth + 1)) _ :=
      opensGroups_argumentTokens each
    rw [tokens_call, withLiterals, regrouped, opened, Chain.toExpr, groupings, regroupedList_eq,
      withLiteralsList_eq, List.map_map]
    exact inside.function

end Printed

end Expr

end Hybrid
