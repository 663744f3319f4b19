import Hybrid.Proofs.Walk.Turns

/-! # Agendas

An agenda fixes what is scheduled at a visit, but not how: neither before or after what waits, nor in
which order. It unfolds into a tree of visits. A walk that schedules by an agenda makes the visits of
its unfolding, in an order that depends on the modes (`visits_perm_unfolding`).

The inputs of a walk may carry more than an agenda speaks of. `Visit.map` looks at them through a
mark, and `Relabels` says that two visitors do the same but for what the mark drops.
-/

namespace Hybrid.Walk

variable {σ ι κ : Type}

/-- What is to be scheduled at a visit: children, with repeats if need be, each with an input. -/
abbrev Agenda (ι : Type) := (visit : Visit ι) → List (Child visit.node × ι)

/-- The visits that an agenda leads to from a visit: the visit itself, and what it leads to from each
child that is scheduled there. -/
def Agenda.unfolding (agenda : Agenda ι) (visit : Visit ι) : List (Visit ι) :=
  visit :: (agenda visit).flatMap fun request => unfolding agenda (visit.below request)
termination_by visit.node.size
decreasing_by exact Expr.size_lt_of_mem_children request.1.property

theorem Agenda.unfolding_eq (agenda : Agenda ι) (visit : Visit ι) :
    agenda.unfolding visit =
      visit :: ((agenda visit).map visit.below).flatMap agenda.unfolding := by
  rw [unfolding, List.flatMap_map]

/-! ## Marks -/

/-- A visit with its input seen through a mark. -/
abbrev Visit.map (mark : ι → κ) (visit : Visit ι) : Visit κ :=
  ⟨visit.node, visit.depth, mark visit.input⟩

theorem Visit.map_id : Visit.map id = (id : Visit ι → Visit ι) := rfl

/-- A visitor schedules by an agenda, whatever its state: it gives one command for each child of the
agenda, in some mode and some order, and does not clear the queue. -/
def Visitor.Schedules (visitor : Visitor σ ι) (agenda : Agenda ι) : Prop :=
  ∀ visit state, ((visitor visit state).1.map Command.request?).Perm ((agenda visit).map some)

/-- A visitor schedules by an agenda of marks: the inputs that it gives have the marks of the agenda. -/
def Visitor.SchedulesMarked (visitor : Visitor σ ι) (mark : ι → κ) (agenda : Agenda κ) : Prop :=
  ∀ visit state,
    ((visitor visit state).1.map fun command => command.request?.map (Prod.map id mark)).Perm
      ((agenda (visit.map mark)).map some)

theorem Visitor.Schedules.marked {visitor : Visitor σ ι} {agenda : Agenda ι}
    (schedules : visitor.Schedules agenda) : visitor.SchedulesMarked id agenda := by
  intro visit state
  have same : (fun command : Command visit.node ι => command.request?.map (Prod.map id id)) =
      Command.request? := by
    funext command
    rw [Prod.map_id, Option.map_id, id]
  rw [same]
  exact schedules visit state

namespace Visitor.SchedulesMarked

variable {visitor : Visitor σ ι} {mark : ι → κ} {agenda : Agenda κ}

theorem keeps (schedules : visitor.SchedulesMarked mark agenda) (visit : Visit ι) (state : σ) :
    .clear ∉ (visitor visit state).1 := by
  intro member
  have listed := (schedules visit state).subset (List.mem_map_of_mem member)
  rw [List.mem_map] at listed
  obtain ⟨request, -, same⟩ := listed
  cases same

theorem scheduled_perm (schedules : visitor.SchedulesMarked mark agenda) (visit : Visit ι)
    (state : σ) :
    ((scheduled visit (visitor visit state).1).map (Visit.map mark)).Perm
      ((agenda (visit.map mark)).map (visit.map mark).below) := by
  have requests : (((visitor visit state).1.filterMap Command.request?).map (Prod.map id mark)).Perm
      (agenda (visit.map mark)) := by
    have listed := (schedules visit state).filterMap id
    simpa [List.filterMap_map, List.map_filterMap, Function.comp_def] using listed
  have made := requests.map (visit.map mark).below
  rw [List.map_map] at made
  rw [scheduled, List.map_map]
  exact made

theorem mem_scheduled {turn : Turn σ ι} {visit : Visit ι}
    (schedules : visitor.SchedulesMarked mark agenda) (made : visit ∈ turn.scheduled visitor) :
    ∃ request ∈ agenda (turn.visit.map mark), (turn.visit.map mark).below request = visit.map mark :=
  List.mem_map.mp <|
    (schedules.scheduled_perm turn.visit turn.state).subset (List.mem_map_of_mem made)

theorem schedule_perm (schedules : visitor.SchedulesMarked mark agenda) (visit : Visit ι) (state : σ)
    (queue : List (Visit ι)) :
    ((schedule visit (visitor visit state).1 queue).map (Visit.map mark)).Perm
      ((agenda (visit.map mark)).map (visit.map mark).below ++ queue.map (Visit.map mark)) := by
  refine ((Walk.schedule_perm (schedules.keeps visit state)).map _).trans ?_
  rw [List.map_append]
  exact (schedules.scheduled_perm visit state).append_right _

/-- The visits of a run are those that the agenda leads to from its queue. -/
theorem turnsFrom_perm (schedules : visitor.SchedulesMarked mark agenda) (queue : List (Visit ι))
    (state : σ) :
    ((turnsFrom visitor queue state).map fun turn => turn.visit.map mark).Perm
      ((queue.map (Visit.map mark)).flatMap agenda.unfolding) := by
  induction queue, state using run.induct visitor with
  | case1 state => simp
  | case2 visit queue state commands next visited ih =>
    have waits := schedules.schedule_perm visit state queue
    rw [turnsFrom_cons]
    rw [visited] at waits ⊢
    rw [List.map_cons, List.map_cons, List.flatMap_cons, Agenda.unfolding_eq, List.cons_append]
    refine .cons _ (ih.trans ?_)
    rw [← List.flatMap_append]
    exact waits.flatMap_right _

theorem visits_perm_unfolding (schedules : visitor.SchedulesMarked mark agenda) (expr : Expr)
    (input : ι) (state : σ) :
    ((visits expr input visitor state).map (Visit.map mark)).Perm
      (agenda.unfolding ⟨expr, 0, mark input⟩) := by
  have made := schedules.turnsFrom_perm [⟨expr, 0, input⟩] state
  rw [List.map_singleton, List.flatMap_singleton] at made
  rw [visits_eq, List.map_map]
  exact made

end Visitor.SchedulesMarked

/-- If what is scheduled goes to the front as the agenda lists it, the run goes through one unfolding
after the other. -/
theorem turnsFrom_of_front
    {visitor : Visitor σ ι} {mark : ι → κ} {agenda : Agenda κ}
    (front : ∀ visit state (queue : List (Visit ι)),
      (schedule visit (visitor visit state).1 queue).map (Visit.map mark) =
        (agenda (visit.map mark)).map (visit.map mark).below ++ queue.map (Visit.map mark))
    (queue : List (Visit ι)) (state : σ) :
    (turnsFrom visitor queue state).map (fun turn => turn.visit.map mark) =
      (queue.map (Visit.map mark)).flatMap agenda.unfolding := by
  induction queue, state using run.induct visitor with
  | case1 state => simp
  | case2 visit queue state commands next visited ih =>
    have waits := front visit state queue
    rw [turnsFrom_cons]
    rw [visited] at waits ⊢
    rw [List.map_cons, ih, waits, List.flatMap_append, List.map_cons, List.flatMap_cons,
      Agenda.unfolding_eq, List.cons_append]

/-! ## Relabelling -/

/-- A command with its input seen through a mark. -/
def Command.map {node : Expr} (mark : ι → κ) : Command node ι → Command node κ
  | .immediate child input => .immediate child (mark input)
  | .deferred child input => .deferred child (mark input)
  | .clear => .clear

/-- A turn with the input of its visit seen through a mark. -/
def Turn.map (mark : ι → κ) (turn : Turn σ ι) : Turn σ κ :=
  ⟨turn.visit.map mark, turn.state⟩

/-- Two visitors do the same, but for what a mark drops of the inputs of the first one. -/
def Visitor.Relabels (visitor : Visitor σ ι) (mark : ι → κ) (other : Visitor σ κ) : Prop :=
  ∀ visit state,
    other (visit.map mark) state =
      ((visitor visit state).1.map (Command.map mark), (visitor visit state).2)

theorem schedule_map (mark : ι → κ) (visit : Visit ι) (commands : List (Command visit.node ι))
    (queue : List (Visit ι)) :
    schedule (visit.map mark) (commands.map (Command.map mark)) (queue.map (Visit.map mark)) =
      (schedule visit commands queue).map (Visit.map mark) := by
  induction commands generalizing queue with
  | nil => rfl
  | cons command rest ih =>
    rw [schedule_cons, ← ih, List.map_cons, schedule_cons]
    congr 1
    cases command with
    | immediate child input => rfl
    | deferred child input => simp [Command.perform, Command.map, Visit.map]
    | clear => rfl

section Relabels

variable {visitor : Visitor σ ι} {mark : ι → κ} {other : Visitor σ κ}

theorem Visitor.Relabels.turnsFrom_map (relabels : visitor.Relabels mark other)
    (queue : List (Visit ι)) (state : σ) :
    turnsFrom other (queue.map (Visit.map mark)) state =
      (turnsFrom visitor queue state).map (Turn.map mark) := by
  induction queue, state using run.induct visitor with
  | case1 state => simp
  | case2 visit queue state commands next visited ih =>
    rw [List.map_cons, turnsFrom_cons, turnsFrom_cons, relabels, List.map_cons, visited, ← ih,
      schedule_map]
    rfl

theorem Visitor.Relabels.turns_map (relabels : visitor.Relabels mark other) (expr : Expr) (input : ι)
    (state : σ) :
    turns expr (mark input) other state = (turns expr input visitor state).map (Turn.map mark) :=
  relabels.turnsFrom_map [⟨expr, 0, input⟩] state

theorem Visitor.Relabels.visits_map (relabels : visitor.Relabels mark other) (expr : Expr)
    (input : ι) (state : σ) :
    visits expr (mark input) other state = (visits expr input visitor state).map (Visit.map mark) := by
  rw [visits_eq, visits_eq, relabels.turns_map, List.map_map, List.map_map]
  rfl

end Relabels

end Hybrid.Walk
