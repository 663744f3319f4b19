import Hybrid.Walk.Basic

/-! # Planned walks

A plan fixes in advance what a visitor does: which children it schedules, how, and at which visit
it clears the queue. The input threaded to a node is its path from the root, one part for each
scheduling that led to it, so the log of a planned walk shows where every visit came from.
-/

namespace Hybrid.Walk

/-- How a plan schedules the children of a node. -/
inductive Scheduling where
  /-- All of them, to be visited next and left to right. -/
  | children
  /-- Each before everything that waits, in turn. -/
  | immediate
  /-- Each after everything that waits, in turn. -/
  | deferred
  /-- Those at even positions before, the others after everything that waits. -/
  | zigzag
  /-- Each both before and after everything that waits. -/
  | twice
  /-- The one at that position alone, before everything that waits. -/
  | nth (position : Nat)

/-- When a plan clears the queue during a visit; through a child means only if there is one. -/
structure Interruption where
  visit : Nat
  afterScheduling : Bool
  throughChild : Bool

/-- A plan of a walk. -/
structure Plan where
  scheduling : Scheduling
  /-- The sorts of children that are scheduled; all of them if there is no list. -/
  only : Option (List ExprKind)
  /-- The sorts of nodes at which nothing is done. -/
  skip : List ExprKind
  interruption : Option Interruption

/-- One line of the log of a planned walk. -/
structure LogEntry where
  path : String
  depth : Nat
  label : String

/-- The log of a planned walk, the last visit first. -/
abbrev Log := List LogEntry

/-- A short description of a node. -/
def label : Expr → String
  | .field name => "F:" ++ name
  | .literal value => "L:" ++ value.display
  | .combined operator _ _ => "C:" ++ operator.symbol
  | .negated _ => "N"
  | .call name _ => "Fn:" ++ name

/-- The greatest number of visits that a planned walk logs. -/
def Plan.limit : Nat := 2000

/-- What a scheduling asks for at the child at one position. -/
def Scheduling.atChild (scheduling : Scheduling) {node : Expr} (path : String) (position : Nat)
    (child : Child node) : List (Command node String) :=
  let path := path ++ "." ++ toString position
  match scheduling with
  | .children => []
  | .immediate => [.immediate child path]
  | .deferred => [.deferred child path]
  | .zigzag => if position % 2 = 0 then [.immediate child path] else [.deferred child path]
  | .twice => [.immediate child path, .deferred child (path ++ "'")]
  | .nth wanted => if position = wanted then [.immediate child path] else []

namespace Plan

/-- Whether children of that sort are scheduled. -/
def wants (plan : Plan) (kind : ExprKind) : Bool :=
  plan.only.all (·.contains kind)

/-- The schedulings of a plan at a node. -/
def scheduled (plan : Plan) (node : Expr) (path : String) : List (Command node String) :=
  match plan.scheduling with
  | .children => descend node (path ++ "c")
  | scheduling =>
    (childrenOf node).zipIdx.flatMap fun (child, position) =>
      if plan.wants child.val.kind then scheduling.atChild path position child else []

/-- The clearing of the queue, if the plan asks for one at this visit and on this side of the
scheduling. -/
def clearing (plan : Plan) (node : Expr) (visit : Nat) (afterScheduling : Bool) :
    List (Command node String) :=
  match plan.interruption with
  | some interruption =>
    if interruption.visit = visit ∧ interruption.afterScheduling = afterScheduling ∧
        ¬ (interruption.throughChild ∧ node.children.isEmpty) then [.clear]
    else []
  | none => []

/-- The visitor that carries out a plan and logs its visits. -/
def visitor (plan : Plan) : Visitor Log String := fun visit log =>
  if log.length = limit then ([.clear], log)
  else
    let entered := ⟨visit.input, visit.depth, label visit.node⟩ :: log
    if plan.skip.contains visit.node.kind then ([], entered)
    else
      (plan.clearing visit.node log.length false ++ plan.scheduled visit.node visit.input ++
        plan.clearing visit.node log.length true, entered)

/-- The log of a walk over `expr` as planned, in order; the path of the root is `r`. -/
def log (plan : Plan) (expr : Expr) : Log :=
  (walk expr "r" plan.visitor []).reverse

end Plan

end Hybrid.Walk
