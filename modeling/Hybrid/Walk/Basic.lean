import Hybrid.Expr.Basic
import Hybrid.Walk.Order

/-! # Walks over expressions

A walk visits nodes of an expression from a queue. At each visit the visitor sees the node, its
depth and the input threaded to it, and commands what happens next: a child may be scheduled before
everything that waits or after it, any number of times, and the queue may be cleared. Nothing is
visited that was not scheduled. Every walk ends, because a visit replaces a node in the queue by
smaller ones.
-/

namespace Hybrid.Walk

variable {σ ι : Type}

/-- A visit, made or waiting: a node, its distance from the root and the input threaded to it. -/
structure Visit (ι : Type) where
  node : Expr
  depth : Nat
  input : ι

/-- A direct child of a node. -/
abbrev Child (node : Expr) := { child : Expr // child ∈ node.children }

/-- What a visitor asks for at a node. -/
inductive Command (node : Expr) (ι : Type) where
  /-- Visit the child before everything that waits. -/
  | immediate (child : Child node) (input : ι)
  /-- Visit the child after everything that waits. -/
  | deferred (child : Child node) (input : ι)
  /-- Drop everything that waits. -/
  | clear

/-- A visitor with a state: what it asks for at a visit. -/
abbrev Visitor (σ ι : Type) := (visit : Visit ι) → σ → List (Command visit.node ι) × σ

/-- The queue after a command given at `visit`. -/
def Command.perform (visit : Visit ι) : Command visit.node ι → List (Visit ι) → List (Visit ι)
  | .immediate child input, queue => ⟨child.val, visit.depth + 1, input⟩ :: queue
  | .deferred child input, queue => queue ++ [⟨child.val, visit.depth + 1, input⟩]
  | .clear, _ => []

/-- The queue after commands given at `visit`, one after the other. -/
def schedule (visit : Visit ι) (commands : List (Command visit.node ι)) (queue : List (Visit ι)) :
    List (Visit ι) :=
  commands.foldl (fun queue command => command.perform visit queue) queue

/-- The direct children of a node, left to right. -/
def childrenOf (node : Expr) : List (Child node) :=
  node.children.attach

/-- Schedules every child so that they are visited next, left to right, each with `input`. -/
def descend (node : Expr) (input : ι) : List (Command node ι) :=
  (childrenOf node).reverse.map (.immediate · input)

/-- The sizes of the nodes of a queue. -/
def pending (queue : List (Visit ι)) : Pending :=
  ⟨queue.map (·.node.size)⟩

/-- Commands add only nodes that are smaller than the one they are given at. -/
theorem count_schedule (visit : Visit ι) {size : Nat} (large : visit.node.size ≤ size)
    (commands : List (Command visit.node ι)) (queue : List (Visit ι)) :
    (pending (schedule visit commands queue)).sizes.count size ≤
      (pending queue).sizes.count size := by
  induction commands generalizing queue with
  | nil => exact Nat.le_refl _
  | cons command rest ih =>
    refine Nat.le_trans (ih (command.perform visit queue)) ?_
    have small (child : Child visit.node) : child.val.size ≠ size := by
      have := Expr.size_lt_of_mem_children child.property
      omega
    cases command with
    | immediate child input => simp [Command.perform, pending, small child]
    | deferred child input => simp [Command.perform, pending, List.count_append, small child]
    | clear => simp [Command.perform, pending]

theorem shrinks_schedule (visit : Visit ι) (commands : List (Command visit.node ι))
    (queue : List (Visit ι)) :
    Shrinks (pending (schedule visit commands queue)).sizes (pending (visit :: queue)).sizes := by
  refine ⟨visit.node.size, ?_, fun greater order => ?_⟩
  · have := count_schedule visit (Nat.le_refl _) commands queue
    simp only [pending, List.map_cons, List.count_cons_self] at this ⊢
    omega
  · refine Nat.le_trans (count_schedule visit (Nat.le_of_lt order) commands queue) ?_
    simp only [pending, List.map_cons]
    exact List.count_le_count_cons

/-- Makes the visits of a queue, and those that they schedule, and returns the visitor's state. -/
def run (visitor : Visitor σ ι) : List (Visit ι) → σ → σ
  | [], state => state
  | visit :: queue, state =>
    let (commands, state) := visitor visit state
    run visitor (schedule visit commands queue) state
termination_by queue => pending queue
decreasing_by exact shrinks_schedule visit _ queue

/-- Walks an expression from its root. -/
def walk (expr : Expr) (input : ι) (visitor : Visitor σ ι) (state : σ) : σ :=
  run visitor [⟨expr, 0, input⟩] state

/-- A visitor that also keeps its visits, the last one first. -/
def recording (visitor : Visitor σ ι) : Visitor (σ × List (Visit ι)) ι :=
  fun visit (state, visits) =>
    let (commands, state) := visitor visit state
    (commands, (state, visit :: visits))

/-- The visits of a walk, in order. -/
def visits (expr : Expr) (input : ι) (visitor : Visitor σ ι) (state : σ) : List (Visit ι) :=
  (walk expr input (recording visitor) (state, [])).2.reverse

end Hybrid.Walk
