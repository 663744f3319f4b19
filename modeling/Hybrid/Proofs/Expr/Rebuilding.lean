import Mathlib.Data.List.GetD
import Hybrid.Proofs.Expr.Replacement

/-! # The loop of substitution

`Expr.carryOut` goes round a loop with a stack of tasks and a stack of finished expressions.
`Loop.turn?` is one turn of it: a turn lessens the work that is left and keeps what the loop comes
to, and there is none only at the end, or where the loop is stuck and comes to nothing. So a loop
that comes to something gets there turn by turn (`Loop.exists_after?`).

What it comes to is said apart from any order of tasks: the replacement is asked for the occurrences
of fields from left to right (`Expr.answersTo`), and the expression is filled with the answers by
their numbers (`Expr.filled`).
-/

namespace Hybrid.Expr

variable {σ : Type}

/-! ## Answers and places -/

/-- The answers of a replacement that is asked for one name after the other, and the state that it
ends in. -/
def answersTo (replace : String → σ → Option Expr × σ) : List String → σ → List (Option Expr) × σ
  | [], state => ([], state)
  | name :: rest, state =>
    let (answer, state) := replace name state
    let (others, state) := answersTo replace rest state
    (answer :: others, state)

/-- The answer of that number, counted from zero, and nothing behind the last one. -/
def numbered (answers : List (Option Expr)) (k : Nat) : Option Expr :=
  answers.getD k none

/-- A replacement that also notes the names that it is asked for. -/
def recording (replace : String → σ → Option Expr × σ) :
    String → σ × List String → Option Expr × σ × List String :=
  fun name (state, names) =>
    let (answer, state) := replace name state
    (answer, state, names ++ [name])

mutual

/-- The expression in which the field reference of number `k`, counted from the left, is replaced by
`answer k`, or kept if that is nothing. -/
def filled : (Nat → Option Expr) → Expr → Expr
  | answer, .field name => (answer 0).getD (.field name)
  | _, .literal value => .literal value
  | answer, .combined operator lhs rhs =>
    .combined operator (filled answer lhs)
      (filled (fun k => answer (lhs.occurrences.length + k)) rhs)
  | answer, .negated operand => .negated (filled answer operand)
  | answer, .call name arguments => .call name (filledList answer arguments)

/-- The same for several expressions, the numbers of one behind those of the ones before it. -/
def filledList : (Nat → Option Expr) → List Expr → List Expr
  | _, [] => []
  | answer, expr :: rest =>
    filled answer expr :: filledList (fun k => answer (expr.occurrences.length + k)) rest

end

section Answers

variable {replace : String → σ → Option Expr × σ}

theorem length_answersTo (replace : String → σ → Option Expr × σ) (names : List String)
    (state : σ) :
    (answersTo replace names state).1.length = names.length := by
  induction names generalizing state with
  | nil => rfl
  | cons name rest ih => rw [answersTo, List.length_cons, ih, List.length_cons]

theorem answersTo_append (first second : List String) (state : σ) :
    answersTo replace (first ++ second) state =
      ((answersTo replace first state).1 ++
          (answersTo replace second (answersTo replace first state).2).1,
        (answersTo replace second (answersTo replace first state).2).2) := by
  induction first generalizing state with
  | nil => rfl
  | cons name rest ih => simp only [List.cons_append, answersTo, ih]

/-- Keeping a record of the names changes nothing else. -/
theorem answersTo_recording (names seen : List String) (state : σ) :
    answersTo (recording replace) names (state, seen) =
      ((answersTo replace names state).1, (answersTo replace names state).2, seen ++ names) := by
  induction names generalizing state seen with
  | nil => simp [answersTo]
  | cons name rest ih => simp [answersTo, recording, ih]

end Answers

section Places

variable {answer other : Nat → Option Expr} {first second : List (Option Expr)}

theorem numbered_append_right {count : Nat} (length : first.length = count) :
    (fun k => numbered (first ++ second) (count + k)) = numbered second := by
  funext k
  subst length
  unfold numbered
  rw [List.getD_append_right _ _ _ _ (Nat.le_add_right ..), Nat.add_sub_cancel_left]

private theorem filledList_congr {exprs : List Expr}
    (each : ∀ expr ∈ exprs, ∀ answer other : Nat → Option Expr,
      (∀ k < expr.occurrences.length, answer k = other k) → expr.filled answer = expr.filled other)
    (same : ∀ k < (occurrencesList exprs).length, answer k = other k) :
    filledList answer exprs = filledList other exprs := by
  induction exprs generalizing answer other with
  | nil => rfl
  | cons expr rest ih =>
    rw [occurrencesList, List.length_append] at same
    rw [filledList, filledList]
    congr 1
    · apply each expr (List.mem_cons_self ..)
      intro k before
      exact same k (by omega)
    · apply ih fun later member => each later (List.mem_cons_of_mem _ member)
      intro k before
      exact same _ (by omega)

/-- Only the answers with the numbers of occurrences matter. -/
theorem filled_congr {expr : Expr} (same : ∀ k < expr.occurrences.length, answer k = other k) :
    expr.filled answer = expr.filled other := by
  induction expr generalizing answer other with
  | field name => rw [filled, filled, same 0 (Nat.zero_lt_one)]
  | literal value => rfl
  | combined operator lhs rhs left right =>
    rw [occurrences, List.length_append] at same
    rw [filled, filled]
    congr 1
    · apply left
      intro k before
      exact same k (by omega)
    · apply right
      intro k before
      exact same _ (by omega)
  | negated operand ih => rw [filled, filled, ih same]
  | call name arguments each =>
    rw [filled, filled, filledList_congr (fun expr member _ _ => each expr member) same]

/-- Answers behind those of an expression leave it as it is. -/
theorem filled_append {expr : Expr} (length : first.length = expr.occurrences.length) :
    expr.filled (numbered (first ++ second)) = expr.filled (numbered first) := by
  apply filled_congr
  intro k before
  exact List.getD_append _ _ _ _ (length ▸ before)

end Places

section Rebuild

variable {replace : String → σ → Option Expr × σ}

private theorem rebuildList_eq {exprs : List Expr}
    (each : ∀ expr ∈ exprs, ∀ state : σ, rebuild replace expr state =
      (expr.filled (numbered (answersTo replace expr.occurrences state).1),
        (answersTo replace expr.occurrences state).2)) (state : σ) :
    rebuildList replace exprs state =
      (filledList (numbered (answersTo replace (occurrencesList exprs) state).1) exprs,
        (answersTo replace (occurrencesList exprs) state).2) := by
  induction exprs generalizing state with
  | nil => rfl
  | cons expr rest ih =>
    have here := each expr (List.mem_cons_self ..) state
    have others := ih fun later member => each later (List.mem_cons_of_mem _ member)
    have length := length_answersTo replace expr.occurrences state
    rw [rebuildList, here, occurrencesList, answersTo_append, filledList, filled_append length,
      numbered_append_right length]
    dsimp only
    rw [others]

/-- The recursion fills the expression with the answers to its occurrences. -/
theorem rebuild_eq (expr : Expr) (state : σ) :
    rebuild replace expr state =
      (expr.filled (numbered (answersTo replace expr.occurrences state).1),
        (answersTo replace expr.occurrences state).2) := by
  induction expr generalizing state with
  | field name => rfl
  | literal value => rfl
  | combined operator lhs rhs left right =>
    -- The answers to the right operand have their numbers behind those to the left one.
    have length := length_answersTo replace lhs.occurrences state
    rw [rebuild, left, occurrences, answersTo_append, filled, filled_append length,
      numbered_append_right length]
    dsimp only
    rw [right]
  | negated operand ih => rw [rebuild, ih]; rfl
  | call name arguments each => rw [rebuild, rebuildList_eq each]; rfl

end Rebuild

/-! ## Turns -/

/-- The loop between two turns: the tasks that are left, the finished expressions with the last one
on top, and the state of the replacement. -/
structure Loop (σ : Type) where
  tasks : List Task
  built : List Expr
  state : σ

namespace Loop

variable (replace : String → σ → Option Expr × σ)

/-- One turn of the loop, which carries out the first task. There is none if no task is left, if a
node finds fewer finished expressions than it has children, or if it cannot be put together. -/
def turn? : Loop σ → Option (Loop σ)
  | ⟨[], _, _⟩ => none
  | ⟨.expand (.field name) :: tasks, built, state⟩ =>
    let (replacement, state) := replace name state
    some ⟨tasks, replacement.getD (.field name) :: built, state⟩
  | ⟨.expand node :: tasks, built, state⟩ =>
    some ⟨node.children.map .expand ++ .assemble node :: tasks, built, state⟩
  | ⟨.assemble node :: tasks, built, state⟩ =>
    let arity := node.children.length
    if built.length < arity then none
    else
      (node.withChildren? (built.take arity).reverse).map fun rebuilt =>
        ⟨tasks, rebuilt :: built.drop arity, state⟩

/-- The loop after that many turns, if there are as many. -/
def after? : Nat → Loop σ → Option (Loop σ)
  | 0, loop => some loop
  | turns + 1, loop => (loop.turn? replace).bind (after? turns)

/-- What the loop comes to. -/
def outcome (loop : Loop σ) : Option (List Expr) × σ :=
  carryOut replace loop.tasks loop.built loop.state

/-- The work that is left, as a bound on the number of turns. -/
def work (loop : Loop σ) : Nat :=
  Task.workList loop.tasks

variable {replace}

section Turns

variable {node : Expr} {tasks : List Task} {built : List Expr} {state : σ}

private theorem turn?_node (inner : node.asField? = none) :
    turn? replace ⟨.expand node :: tasks, built, state⟩ =
      some ⟨node.children.map .expand ++ .assemble node :: tasks, built, state⟩ := by
  cases node with
  | field name => cases inner
  | _ => rfl

/-- A node can always be taken apart, and then it is down to its children. -/
private theorem turn?_expand :
    ∃ next, turn? replace ⟨.expand node :: tasks, built, state⟩ = some next ∧
      next.work < work ⟨.expand node :: tasks, built, state⟩ ∧
      next.outcome replace = outcome replace ⟨.expand node :: tasks, built, state⟩ := by
  have counted := size_eq node
  cases reference : node.asField? with
  | some name =>
    obtain rfl := eq_field_of_asField? reference
    refine ⟨_, rfl, ?_, ?_⟩
    · simp only [work, Task.workList, Task.work]
      omega
    · unfold outcome
      rw [carryOut]
  | none =>
    refine ⟨_, turn?_node reference, ?_, (carryOut_node reference tasks built state).symm⟩
    simp only [work, Task.workList_append, Task.workList, work_expands, Task.work]
    omega

/-- A node is put together from its children, unless that cannot be done. -/
private theorem turn?_assemble :
    (∃ next, turn? replace ⟨.assemble node :: tasks, built, state⟩ = some next ∧
        next.work < work ⟨.assemble node :: tasks, built, state⟩ ∧
        next.outcome replace = outcome replace ⟨.assemble node :: tasks, built, state⟩) ∨
      (outcome replace ⟨.assemble node :: tasks, built, state⟩).1 = none := by
  have count : (built.take node.children.length).length < node.children.length ↔
      built.length < node.children.length := by
    rw [List.length_take]
    omega
  unfold outcome
  rw [carryOut, turn?]
  by_cases few : built.length < node.children.length
  · right
    rw [if_pos (count.mpr few)]
  · rw [if_neg few, if_neg (mt count.mp few)]
    cases whole : node.withChildren? (built.take node.children.length).reverse with
    | none => exact .inr rfl
    | some rebuilt =>
      refine .inl ⟨_, rfl, ?_, rfl⟩
      simp only [work, Task.workList, Task.work]
      omega

end Turns

/-- What a turn does: it lessens the work and keeps the outcome. Where there is none, the loop is at
its end, or it is stuck and comes to nothing. -/
theorem turn?_cases (replace : String → σ → Option Expr × σ) (loop : Loop σ) :
    loop.tasks = [] ∨
      (∃ next, loop.turn? replace = some next ∧ next.work < loop.work ∧
        next.outcome replace = loop.outcome replace) ∨
      (loop.outcome replace).1 = none := by
  obtain ⟨tasks, built, state⟩ := loop
  match tasks with
  | [] => exact .inl rfl
  | .expand node :: tasks => exact .inr (.inl turn?_expand)
  | .assemble node :: tasks => exact .inr turn?_assemble

/-- A loop that comes to something gets there in turns, at most as many as there is work. -/
theorem exists_after? {loop : Loop σ} {built : List Expr} {state : σ}
    (comes : loop.outcome replace = (some built, state)) :
    ∃ turns ≤ loop.work, loop.after? replace turns = some ⟨[], built, state⟩ := by
  -- The outcome stays what it is, so the loop is never stuck; the work goes down with each turn.
  induction left : loop.work using Nat.strongRecOn generalizing loop with
  | ind bound ih =>
    rcases turn?_cases replace loop with ended | ⟨next, turned, less, same⟩ | stuck
    · obtain ⟨tasks, finished, reached⟩ := loop
      obtain rfl : tasks = [] := ended
      rw [outcome, carryOut] at comes
      cases comes
      exact ⟨0, Nat.zero_le bound, rfl⟩
    · obtain ⟨turns, few, ends⟩ := ih next.work (left ▸ less) (same.trans comes) rfl
      refine ⟨turns + 1, by omega, ?_⟩
      rw [after?, turned]
      exact ends
    · rw [comes] at stuck
      cases stuck

end Loop

/-- Substitution, with whatever replacement, goes to its end in a number of turns that the size of
the expression bounds, and so never takes more finished expressions than there are, never fails to
put a node together, and ends with one finished expression. That is the expression filled with the
answers to its occurrences, for which the replacement is asked from left to right, once each, and
for nothing else. -/
theorem substituteWith_filled (expr : Expr) (replace : String → σ → Option Expr × σ) (state : σ) :
    let asked := answersTo replace expr.occurrences state
    let result := expr.filled (numbered asked.1)
    (∃ turns ≤ 2 * expr.size,
        Loop.after? replace turns ⟨[.expand expr], [], state⟩ = some ⟨[], [result], asked.2⟩) ∧
      carryOut replace [.expand expr] [] state = (some [result], asked.2) ∧
      expr.substituteWith replace state = (result, asked.2) ∧
      expr.substituteWith (recording replace) (state, []) = (result, asked.2, expr.occurrences) := by
  intro asked result
  have carried : carryOut replace [.expand expr] [] state = (some [result], asked.2) := by
    rw [carryOut_expand, carryOut, rebuild_eq]
  have comes : Loop.outcome replace ⟨[.expand expr], [], state⟩ = (some [result], asked.2) :=
    carried
  refine ⟨Loop.exists_after? comes, carried, ?_, ?_⟩
  · rw [substituteWith_eq, rebuild_eq]
  · rw [substituteWith_eq, rebuild_eq, answersTo_recording]
    rfl

end Hybrid.Expr
