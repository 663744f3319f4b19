import Mathlib.Data.List.Basic
import Hybrid.Expr.Substitution
import Hybrid.Proofs.Expr.Occurrences

/-! # Substitution by recursion

`Expr.rebuild` is the recursion that the stack of `Expr.substituteWith` carries out. For a
replacement without a state it gives one equation for each sort of nodes.
-/

namespace Hybrid.Expr

variable {σ : Type} {replace : String → σ → Option Expr × σ}

mutual

/-- Replaces the field references of an expression from left to right. -/
def rebuild (replace : String → σ → Option Expr × σ) : Expr → σ → Expr × σ
  | .field name, state =>
    let (replacement, state) := replace name state
    (replacement.getD (.field name), state)
  | .literal value, state => (.literal value, state)
  | .combined operator lhs rhs, state =>
    let (lhs, state) := rebuild replace lhs state
    let (rhs, state) := rebuild replace rhs state
    (.combined operator lhs rhs, state)
  | .negated operand, state =>
    let (operand, state) := rebuild replace operand state
    (.negated operand, state)
  | .call name arguments, state =>
    let (arguments, state) := rebuildList replace arguments state
    (.call name arguments, state)

/-- Replaces the field references of several expressions, one after the other. -/
def rebuildList (replace : String → σ → Option Expr × σ) : List Expr → σ → List Expr × σ
  | [], state => ([], state)
  | expr :: rest, state =>
    let (expr, state) := rebuild replace expr state
    let (rest, state) := rebuildList replace rest state
    (expr :: rest, state)

end

theorem length_rebuildList (exprs : List Expr) (state : σ) :
    (rebuildList replace exprs state).1.length = exprs.length := by
  induction exprs generalizing state with
  | nil => rfl
  | cons expr rest ih => rw [rebuildList, List.length_cons, ih, List.length_cons]

/-- A node that is no reference waits for its children. -/
theorem carryOut_node {node : Expr} (inner : node.asField? = none) (tasks : List Task)
    (built : List Expr) (state : σ) :
    carryOut replace (.expand node :: tasks) built state =
      carryOut replace (node.children.map .expand ++ .assemble node :: tasks) built state := by
  cases node with
  | field name => cases inner
  | _ =>
    rw [carryOut]
    intro name same
    cases same

/-- Expressions are rebuilt in order, so the last one ends on top of the stack. -/
private theorem carryOut_expands {exprs : List Expr}
    (each : ∀ expr ∈ exprs, ∀ (tasks : List Task) (built : List Expr) (state : σ),
      carryOut replace (.expand expr :: tasks) built state =
        carryOut replace tasks ((rebuild replace expr state).1 :: built)
          (rebuild replace expr state).2)
    (tasks : List Task) (built : List Expr) (state : σ) :
    carryOut replace (exprs.map .expand ++ tasks) built state =
      carryOut replace tasks ((rebuildList replace exprs state).1.reverse ++ built)
        (rebuildList replace exprs state).2 := by
  induction exprs generalizing built state with
  | nil => rfl
  | cons expr rest ih =>
    rw [List.map_cons, List.cons_append, each expr (List.mem_cons_self ..),
      ih fun other member => each other (List.mem_cons_of_mem _ member)]
    simp [rebuildList]

/-- A node is put together from its rebuilt children on top of the stack. -/
private theorem carryOut_assemble {node rebuilt : Expr} {children built : List Expr}
    (count : children.length = node.children.length)
    (whole : node.withChildren? children = some rebuilt) (tasks : List Task) (state : σ) :
    carryOut replace (.assemble node :: tasks) (children.reverse ++ built) state =
      carryOut replace tasks (rebuilt :: built) state := by
  have length : children.reverse.length = node.children.length := by
    rw [List.length_reverse, count]
  have top : (children.reverse ++ built).take node.children.length = children.reverse := by
    rw [← length, List.take_left]
  have below : (children.reverse ++ built).drop node.children.length = built := by
    rw [← length, List.drop_left]
  rw [carryOut, top, below, List.reverse_reverse, whole, if_neg (by omega)]

/-- The stack of tasks carries out the recursion. -/
theorem carryOut_expand (expr : Expr) : ∀ (tasks : List Task) (built : List Expr) (state : σ),
    carryOut replace (.expand expr :: tasks) built state =
      carryOut replace tasks ((rebuild replace expr state).1 :: built)
        (rebuild replace expr state).2 := by
  induction expr with
  | field name => intro tasks built state; rw [carryOut, rebuild]
  | literal value =>
    intro tasks built state
    rw [carryOut_node rfl]
    have none : (literal value).withChildren? [] = some (literal value) := rfl
    exact carryOut_assemble rfl none tasks state
  | combined operator lhs rhs left right =>
    intro tasks built state
    rw [carryOut_node rfl, carryOut_expands (by simpa [children] using ⟨left, right⟩)]
    exact carryOut_assemble (length_rebuildList _ _) rfl tasks _
  | negated operand ih =>
    intro tasks built state
    rw [carryOut_node rfl, carryOut_expands (by simpa [children] using ih)]
    exact carryOut_assemble (length_rebuildList _ _) rfl tasks _
  | call name arguments each =>
    intro tasks built state
    have children : (call name arguments).children = arguments := rfl
    rw [carryOut_node rfl, children, carryOut_expands each]
    exact carryOut_assemble (length_rebuildList _ _) rfl tasks _

theorem substituteWith_eq (expr : Expr) (replace : String → σ → Option Expr × σ) (state : σ) :
    expr.substituteWith replace state = rebuild replace expr state := by
  unfold substituteWith
  rw [carryOut_expand, carryOut]

section Stateless

variable (replace : String → Option Expr)

theorem substitute_eq (expr : Expr) :
    expr.substitute replace = (rebuild (fun name (_ : Unit) => (replace name, ())) expr ()).1 := by
  unfold substitute
  rw [substituteWith_eq]

@[simp] theorem substitute_field (name : String) :
    (field name).substitute replace = (replace name).getD (.field name) := by
  rw [substitute_eq, rebuild]

@[simp] theorem substitute_literal (value : Value) :
    (literal value).substitute replace = .literal value := by
  rw [substitute_eq, rebuild]

@[simp] theorem substitute_combined (operator : Operator) (lhs rhs : Expr) :
    (combined operator lhs rhs).substitute replace =
      .combined operator (lhs.substitute replace) (rhs.substitute replace) := by
  simp only [substitute_eq, rebuild]

@[simp] theorem substitute_negated (operand : Expr) :
    (negated operand).substitute replace = .negated (operand.substitute replace) := by
  simp only [substitute_eq, rebuild]

@[simp] theorem substitute_call (name : String) (arguments : List Expr) :
    (call name arguments).substitute replace =
      .call name (arguments.map (·.substitute replace)) := by
  have each : (rebuildList (fun name (_ : Unit) => (replace name, ())) arguments ()).1 =
      arguments.map (·.substitute replace) := by
    induction arguments with
    | nil => rfl
    | cons argument rest ih => rw [rebuildList, List.map_cons, ← ih, substitute_eq]
  rw [substitute_eq, rebuild, ← each]

end Stateless

/-- Only what the replacement does to the fields that occur matters. -/
theorem substitute_congr {expr : Expr} {replace other : String → Option Expr}
    (same : ∀ name ∈ expr.occurrences, replace name = other name) :
    expr.substitute replace = expr.substitute other := by
  induction expr with
  | field name => rw [substitute_field, substitute_field, same name (List.mem_singleton_self name)]
  | literal value => rw [substitute_literal, substitute_literal]
  | combined operator lhs rhs left right =>
    rw [occurrences, List.forall_mem_append] at same
    rw [substitute_combined, substitute_combined, left same.1, right same.2]
  | negated operand ih => rw [substitute_negated, substitute_negated, ih same]
  | call name arguments each =>
    rw [substitute_call, substitute_call]
    congr 1
    refine List.map_congr_left fun argument member => each argument member fun field occurs => ?_
    exact same field (mem_occurrencesList.mpr ⟨argument, member, occurs⟩)

/-- The occurrences after a substitution, from left to right: those in what was put in, and those
that were left. -/
theorem occurrences_substitute (expr : Expr) (replace : String → Option Expr) :
    (expr.substitute replace).occurrences =
      expr.occurrences.flatMap fun name => ((replace name).getD (.field name)).occurrences := by
  induction expr with
  | field name => rw [substitute_field, occurrences, List.flatMap_singleton]
  | literal value => rw [substitute_literal, occurrences, List.flatMap_nil]
  | combined operator lhs rhs left right =>
    rw [substitute_combined, occurrences, left, right, occurrences, List.flatMap_append]
  | negated operand ih => rw [substitute_negated, occurrences, ih, occurrences]
  | call name arguments each =>
    rw [substitute_call, occurrences, occurrences, occurrencesList_eq, occurrencesList_eq,
      List.flatMap_map, List.flatMap_assoc]
    exact List.flatMap_congr each

theorem mem_occurrences_substitute {expr : Expr} {replace : String → Option Expr} {name : String} :
    name ∈ (expr.substitute replace).occurrences ↔
      ∃ field ∈ expr.occurrences, name ∈ ((replace field).getD (.field field)).occurrences := by
  rw [occurrences_substitute, List.mem_flatMap]

end Hybrid.Expr
