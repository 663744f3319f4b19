import Hybrid.Proofs.Expr.Literals
import Hybrid.Proofs.Printing.Regrouping

/-! # Reading an expression back

The reader goes through the tokens of an expression at any place: inside any open parentheses, behind
any operator and any signs. It ends with the regrouped expression read into that place, each literal
being what its text is read as.
-/

namespace Hybrid

open Reader

/-- The text of a literal is read as its meaning. -/
def Expr.Means (literal : String → Option Value) (meaning : Value → Value) : Expr → Prop
  | .literal value => literal value.display = some (meaning value)
  | .field _ | .combined _ _ _ | .negated _ | .call _ _ => True

/-- A literal is read back from its text. -/
def Expr.Legible (literal : String → Option Value) : Expr → Prop :=
  Expr.Means literal id

namespace Reader

/-- Whether an expression may begin with a token. -/
def Begins : Token → Prop
  | (.identifier, _) => False
  | (.parenthesis _, mark) => mark ≠ ")"
  | _ => True

theorem begins_tokens (expr : Expr) (depth : UInt8) :
    ∃ token rest, expr.tokens depth = token :: rest ∧ Begins token := by
  induction expr generalizing depth with
  | field name => exact ⟨_, _, Expr.tokens_field name, trivial⟩
  | literal value => exact ⟨_, _, Expr.tokens_literal value, trivial⟩
  | combined operator lhs rhs left right =>
    rw [Expr.tokens_combined]
    unfold Expr.operandTokens
    split
    · exact ⟨_, _, rfl, by simp [Begins]⟩
    · obtain ⟨token, rest, written, begins⟩ := left depth
      exact ⟨token, _, by rw [written]; rfl, begins⟩
  | negated operand ih => exact ⟨_, _, Expr.tokens_negated operand, trivial⟩
  | call name arguments ih => exact ⟨_, _, Expr.tokens_call name arguments, trivial⟩

theorem begins_argumentTokens (argument : Expr) (others : List Expr) (depth : UInt8) :
    ∃ token rest, Expr.argumentTokens (argument :: others) depth = token :: rest ∧ Begins token := by
  obtain ⟨token, rest, written, begins⟩ := begins_tokens argument depth
  cases others with
  | nil => exact ⟨token, rest, by rw [Expr.argumentTokens_singleton, written], begins⟩
  | cons next others => exact ⟨token, _, by rw [Expr.argumentTokens_cons, written]; rfl, begins⟩

section Run

variable {literal : String → Option Value} {outer : List (Place × Opening)} {place : Place}

/-- The first argument of a call is read like the others. -/
theorem run_opened {name : String} {token : Token} (begins : Begins token) (rest : List Token) :
    run literal ⟨outer, .opened place name⟩ (token :: rest) =
      run literal ⟨(place, .call name []) :: outer, .wanting .start⟩ (token :: rest) := by
  have same : step literal ⟨outer, .opened place name⟩ token =
      step literal ⟨(place, .call name []) :: outer, .wanting .start⟩ token := by
    obtain ⟨style, mark⟩ := token
    cases style with
    | identifier => exact absurd begins id
    | parenthesis depth =>
      have open' : mark ≠ ")" := begins
      simp [step, enter, open']
    | _ => rfl
  rw [run_cons, run_cons, same]

/-- The reader goes through the tokens of an expression and regroups another one meanwhile. -/
def ReadsAs (literal : String → Option Value) (expr other : Expr) : Prop :=
  ∀ (depth : UInt8) (outer : List (Place × Opening)) (place : Place),
    run literal ⟨outer, .wanting place⟩ (expr.tokens depth) =
      some ⟨outer, .having (place.put other.opened)⟩

/-- At the place of a first operand, the combination is the expression's own. -/
theorem ReadsAs.start {expr other : Expr} (reads : ReadsAs literal expr other) (depth : UInt8)
    (outer : List (Place × Opening)) :
    run literal ⟨outer, .wanting .start⟩ (expr.tokens depth) =
      some ⟨outer, .having other.opened⟩ := by
  rw [reads, Place.put_start (other.opened_grouped (Nat.zero_le _))]

/-- An operand is read in parentheses or without. -/
theorem run_operandTokens {operand other : Expr} (reads : ReadsAs literal operand other)
    (wrapped : Bool) (depth : UInt8) :
    run literal ⟨outer, .wanting place⟩ (Expr.operandTokens wrapped depth operand) =
      some ⟨outer, .having (place.put (other.opened.enclosed wrapped))⟩ := by
  cases wrapped with
  | false => exact reads depth outer place
  | true =>
    have inside := reads.start (depth + 1) ((place, .group) :: outer)
    simp only [Expr.operandTokens, if_true, run_cons, run_append]
    have open' : step literal ⟨outer, .wanting place⟩ (.parenthesis depth, "(") =
        some ⟨(place, .group) :: outer, .wanting .start⟩ := rfl
    rw [open', Option.bind_some, inside]
    rfl

/-- What follows an argument of a call: the other arguments and the last parenthesis. -/
theorem run_argumentTokens (name : String) (depth inner : UInt8) {argument : Expr} {rest : List Expr}
    {other : Expr → Expr} (reads : ∀ inside ∈ argument :: rest, ReadsAs literal inside (other inside))
    (before : List Expr) :
    run literal ⟨(place, .call name before) :: outer, .wanting .start⟩
        (Expr.argumentTokens (argument :: rest) inner ++ [(.parenthesis depth, ")")]) =
      some ⟨outer, .having
        (place.fill (.call name (before ++ Expr.regroupedList ((argument :: rest).map other))))⟩ := by
  induction rest generalizing argument before with
  | nil =>
    have first := (reads argument (List.mem_cons_self ..)).start inner
      ((place, .call name before) :: outer)
    rw [Expr.argumentTokens_singleton, run_append, first]
    rfl
  | cons next rest ih =>
    have first := (reads argument (List.mem_cons_self ..)).start inner
      ((place, .call name before) :: outer)
    have comma : step literal ⟨(place, .call name before) :: outer, .having (other argument).opened⟩
        (.punctuation, ",") =
          some ⟨(place, .call name (before ++ [(other argument).regrouped])) :: outer,
            .wanting .start⟩ := rfl
    have others := ih (fun inside member => reads inside (List.mem_cons_of_mem _ member))
      (before ++ [(other argument).regrouped])
    rw [Expr.argumentTokens_cons, List.append_assoc, run_append, first, Option.bind_some,
      List.cons_append, run_cons, comma, Option.bind_some, others]
    simp [Expr.regroupedList, Expr.regrouped]

/-- Reading the tokens of an expression puts the regrouped expression into the place, with the meaning
of each literal. -/
theorem reads_of_means {meaning : Value → Value} {expr : Expr}
    (means : expr.Everywhere (Expr.Means literal meaning)) :
    ReadsAs literal expr (expr.withLiterals meaning) := by
  induction expr with
  | field name =>
    intro depth outer place
    rw [Expr.tokens_field, Expr.withLiterals]
    unfold Expr.opened
    rfl
  | literal value =>
    intro depth outer place
    have read : literal value.display = some (meaning value) := means.here
    have taken : step literal ⟨outer, .wanting place⟩ (.literal, value.display) =
        some ⟨outer, .having (place.fill (.literal (meaning value)))⟩ := by
      simp [step, want, read]
    rw [Expr.tokens_literal, run_cons, taken, Expr.withLiterals]
    unfold Expr.opened
    rfl
  | combined operator lhs rhs left right =>
    intro depth outer place
    have leftReads := left (means.child (by simp [Expr.children]))
    have rightReads := right (means.child (by simp [Expr.children]))
    rw [Expr.tokens_combined, run_append, run_operandTokens leftReads, Option.bind_some, run_cons]
    have taken (chain : Chain) : step literal ⟨outer, .having chain⟩ (.operator, operator.symbol) =
        some ⟨outer, .wanting ⟨some (chain, operator), 0⟩⟩ := by
      simp [step, goOn, Operator.ofSymbol?_symbol]
    rw [taken, Option.bind_some, run_operandTokens rightReads, Expr.withLiterals, Expr.opened,
      Place.put_graft, Expr.needsParentheses_withLiterals, Expr.needsParentheses_withLiterals]
  | negated operand ih =>
    intro depth outer place
    have operandReads := ih (means.child (by simp [Expr.children]))
    have sign : step literal ⟨outer, .wanting place⟩ (.operator, "-") =
        some ⟨outer, .wanting { place with signs := place.signs + 1 }⟩ := rfl
    have closed : (operand.withLiterals meaning).opened.enclosed
        (Expr.needsParenthesesNegated operand) =
          .operand (operand.withLiterals meaning).regrouped := by
      cases bare : Expr.needsParenthesesNegated operand with
      | true => rfl
      | false => exact Expr.opened_of_tight (by simpa [Expr.needsParenthesesNegated] using bare)
    rw [Expr.tokens_negated, run_cons, sign, Option.bind_some, run_operandTokens operandReads, closed,
      Expr.withLiterals]
    unfold Expr.opened
    rfl
  | call name arguments ih =>
    intro depth outer place
    have named : run literal ⟨outer, .wanting place⟩ [(.function, name), (.parenthesis depth, "(")] =
        some ⟨outer, .opened place name⟩ := rfl
    have parts : (Expr.call name arguments).tokens depth =
        [(.function, name), (.parenthesis depth, "(")] ++
          (Expr.argumentTokens arguments (depth + 1) ++ [(.parenthesis depth, ")")]) :=
      Expr.tokens_call name arguments
    rw [parts, run_append, named, Option.bind_some, Expr.withLiterals, Expr.withLiteralsList_eq]
    cases arguments with
    | nil =>
      rw [Expr.argumentTokens_nil]
      unfold Expr.opened Expr.regroupedList
      rfl
    | cons argument rest =>
      have argumentReads : ∀ inside ∈ argument :: rest,
          ReadsAs literal inside (inside.withLiterals meaning) :=
        fun inside member => ih inside member (means.child member)
      have behind : run literal ⟨(place, .call name []) :: outer, .wanting .start⟩ _ = _ :=
        run_argumentTokens name depth (depth + 1) argumentReads []
      obtain ⟨token, others, written, begins⟩ := begins_argumentTokens argument rest (depth + 1)
      rw [written, List.cons_append] at behind ⊢
      rw [run_opened begins, behind, Expr.opened]
      rfl

/-- The tokens of an expression are read as the regrouped expression, with the meaning of each
literal. -/
theorem read_tokens_of_means {meaning : Value → Value} {expr : Expr}
    (means : expr.Everywhere (Expr.Means literal meaning)) (depth : UInt8) :
    read literal (expr.tokens depth) = some (expr.withLiterals meaning).regrouped := by
  unfold read
  rw [(reads_of_means means).start depth []]
  rfl

/-- The tokens of an expression are read as the regrouped expression. -/
theorem read_tokens {expr : Expr} (legible : expr.Everywhere (Expr.Legible literal)) (depth : UInt8) :
    read literal (expr.tokens depth) = some expr.regrouped := by
  rw [read_tokens_of_means legible, Expr.withLiterals_id]

end Run

end Reader

end Hybrid
