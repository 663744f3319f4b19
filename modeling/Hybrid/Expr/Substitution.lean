import Hybrid.Expr.Basic

/-! # Substitution of fields

`Expr.substituteWith` rebuilds an expression with some of its field references replaced. The
replacement may keep a state; it is asked once for each reference, from left to right, and what it
puts in is not searched again. The rebuilding keeps its own stack, so the depth of an expression
is no limit.
-/

namespace Hybrid.Expr

variable {σ : Type}

/-- What is left to do: substitute in an expression, or put a node together from its children. -/
inductive Task where
  | expand (expr : Expr)
  | assemble (node : Expr)

/-- The work left in a task, as a bound on the number of steps that it takes. -/
def Task.work : Task → Nat
  | .expand expr => 2 * expr.size
  | .assemble _ => 1

/-- The work left in several tasks. -/
def Task.workList : List Task → Nat
  | [] => 0
  | task :: rest => task.work + workList rest

theorem Task.workList_append (first second : List Task) :
    workList (first ++ second) = workList first + workList second := by
  induction first with
  | nil => simp [workList]
  | cons task rest ih => simp only [List.cons_append, workList, ih]; omega

/-- The node with these children in the place of its own, if they are as many as it needs. -/
def withChildren? : Expr → List Expr → Option Expr
  | .field name, [] => some (.field name)
  | .literal value, [] => some (.literal value)
  | .combined operator _ _, [lhs, rhs] => some (.combined operator lhs rhs)
  | .negated _, [operand] => some (.negated operand)
  | .call name _, arguments => some (.call name arguments)
  | _, _ => none

theorem work_expands (exprs : List Expr) :
    Task.workList (exprs.map .expand) = 2 * sizeList exprs := by
  induction exprs with
  | nil => rfl
  | cons expr rest ih => simp only [List.map_cons, Task.workList, Task.work, sizeList, ih]; omega

/-- Carries out the tasks on a stack of finished expressions, the last one on top. There is no
result if a node finds fewer expressions on the stack than it has children. -/
def carryOut (replace : String → σ → Option Expr × σ) :
    List Task → List Expr → σ → Option (List Expr) × σ
  | [], built, state => (some built, state)
  | .expand (.field name) :: tasks, built, state =>
    let (replacement, state) := replace name state
    carryOut replace tasks (replacement.getD (.field name) :: built) state
  | .expand node :: tasks, built, state =>
    carryOut replace (node.children.map Task.expand ++ .assemble node :: tasks) built state
  | .assemble node :: tasks, built, state =>
    let arity := node.children.length
    let children := built.take arity
    if children.length < arity then (none, state)
    else
      match node.withChildren? children.reverse with
      | some rebuilt => carryOut replace tasks (rebuilt :: built.drop arity) state
      | none => (none, state)
termination_by tasks => Task.workList tasks
decreasing_by
  · have := size_pos (.field name)
    simp only [Task.workList, Task.work]
    omega
  · simp only [Task.workList_append, Task.workList, work_expands, Task.work, size_eq node]
    omega
  · simp only [Task.workList, Task.work]
    omega

/-- The expression with its field references replaced from left to right, and the state that the
replacement ends in. -/
def substituteWith (expr : Expr) (replace : String → σ → Option Expr × σ) (state : σ) : Expr × σ :=
  match carryOut replace [.expand expr] [] state with
  | (some [rebuilt], state) => (rebuilt, state)
  | (_, state) => (expr, state)

/-- The expression with every field reference that `replace` maps replaced. -/
def substitute (expr : Expr) (replace : String → Option Expr) : Expr :=
  (expr.substituteWith (fun name state => (replace name, state)) ()).1

end Hybrid.Expr
