import Mathlib.Data.List.Perm.Basic
import Mathlib.Logic.Function.Iterate
import Mathlib.Order.WellFounded
import Hybrid.Walk.Basic

/-! # The turns of a walk

A walk goes round a loop: a turn takes the first visit of the queue and lets the visitor give its
commands. `Loop.turn?` is one turn, `turnsFrom` lists the turns of a whole run, and what is left
after some of them is again such a run (`Loop.after_turns`). Two facts hold of every visitor. Each
visit comes from a scheduling in an earlier turn (`stems_of_turnsFrom`), and the turns come to an end, because what is
scheduled is always smaller than the node that it is scheduled at (`wellFounded_follows`).
-/

namespace Hybrid.Walk

variable {σ ι : Type}

/-! ## What commands schedule -/

/-- The child and the input that a command schedules; nothing for a clearing. -/
def Command.request? {node : Expr} : Command node ι → Option (Child node × ι)
  | .immediate child input | .deferred child input => some (child, input)
  | .clear => none

/-- The visit of a child, with the input that it is given. -/
def Visit.below (visit : Visit ι) (request : Child visit.node × ι) : Visit ι :=
  ⟨request.1.val, visit.depth + 1, request.2⟩

/-- The visits that are scheduled by commands given at `visit`. -/
def scheduled (visit : Visit ι) (commands : List (Command visit.node ι)) : List (Visit ι) :=
  (commands.filterMap Command.request?).map visit.below

section Schedule

variable {visit other : Visit ι} {commands given after : List (Command visit.node ι)}
  {queue : List (Visit ι)}

theorem mem_scheduled :
    other ∈ scheduled visit commands ↔
      ∃ command ∈ commands, ∃ request, command.request? = some request ∧
        visit.below request = other := by
  simp only [scheduled, List.mem_map, List.mem_filterMap]
  constructor
  · rintro ⟨request, ⟨command, member, asks⟩, same⟩
    exact ⟨command, member, request, asks, same⟩
  · rintro ⟨command, member, request, asks, same⟩
    exact ⟨request, ⟨command, member, asks⟩, same⟩

theorem schedule_cons (command : Command visit.node ι) :
    schedule visit (command :: commands) queue =
      schedule visit commands (command.perform visit queue) := rfl

/-- What waits after some commands waited before or was scheduled by them. -/
theorem mem_queue_or_scheduled (member : other ∈ schedule visit commands queue) :
    other ∈ queue ∨ other ∈ scheduled visit commands := by
  induction commands generalizing queue with
  | nil => exact .inl member
  | cons command rest ih =>
    rw [schedule_cons] at member
    rcases ih member with waited | later
    · cases command with
      | immediate child input =>
        rcases List.mem_cons.mp waited with rfl | waited
        · exact .inr (List.mem_cons_self ..)
        · exact .inl waited
      | deferred child input =>
        rcases List.mem_append.mp waited with waited | new
        · exact .inl waited
        · rw [List.mem_singleton.mp new]
          exact .inr (List.mem_cons_self ..)
      | clear => cases waited
    · right
      cases command with
      | immediate child input => exact List.mem_cons_of_mem _ later
      | deferred child input => exact List.mem_cons_of_mem _ later
      | clear => exact later

/-- Commands that do not clear the queue lose nothing of it and add all that they schedule. -/
theorem schedule_perm (keeps : .clear ∉ commands) :
    (schedule visit commands queue).Perm (scheduled visit commands ++ queue) := by
  induction commands generalizing queue with
  | nil => exact .refl _
  | cons command rest ih =>
    rw [List.mem_cons, not_or] at keeps
    rw [schedule_cons]
    refine (ih keeps.2).trans ?_
    cases command with
    | immediate child input => exact List.perm_middle
    | deferred child input =>
      rw [Command.perform, ← List.append_assoc]
      exact List.perm_append_singleton _ _
    | clear => exact absurd rfl keeps.1

/-- A clearing leaves only what is scheduled after it. -/
theorem schedule_clear :
    schedule visit (given ++ .clear :: after) queue = schedule visit after [] := by
  unfold schedule
  rw [List.foldl_append, List.foldl_cons]
  rfl

end Schedule

/-! ## Turns -/

/-- A turn of the loop: the visit that is made, and the state that the visitor is in before it. -/
structure Turn (σ ι : Type) where
  visit : Visit ι
  state : σ

namespace Turn

/-- The commands that the visitor gives in a turn. -/
def commands (turn : Turn σ ι) (visitor : Visitor σ ι) : List (Command turn.visit.node ι) :=
  (visitor turn.visit turn.state).1

/-- The state of the visitor after a turn. -/
def next (turn : Turn σ ι) (visitor : Visitor σ ι) : σ :=
  (visitor turn.visit turn.state).2

/-- The visits that are scheduled in a turn. -/
def scheduled (turn : Turn σ ι) (visitor : Visitor σ ι) : List (Visit ι) :=
  Walk.scheduled turn.visit (turn.commands visitor)

end Turn

/-- The turns of a run, in order. -/
def turnsFrom (visitor : Visitor σ ι) : List (Visit ι) → σ → List (Turn σ ι)
  | [], _ => []
  | visit :: queue, state =>
    let (commands, next) := visitor visit state
    ⟨visit, state⟩ :: turnsFrom visitor (schedule visit commands queue) next
termination_by queue => pending queue
decreasing_by exact shrinks_schedule visit _ queue

/-- The turns of a walk, in order. -/
def turns (expr : Expr) (input : ι) (visitor : Visitor σ ι) (state : σ) : List (Turn σ ι) :=
  turnsFrom visitor [⟨expr, 0, input⟩] state

section Turns

variable {visitor : Visitor σ ι} {visit : Visit ι} {queue : List (Visit ι)} {state : σ}

@[simp] theorem turnsFrom_nil : turnsFrom visitor [] state = [] := by
  rw [turnsFrom]

theorem turnsFrom_cons :
    turnsFrom visitor (visit :: queue) state =
      ⟨visit, state⟩ :: turnsFrom visitor (schedule visit (visitor visit state).1 queue)
        (visitor visit state).2 := by
  rw [turnsFrom]

@[simp] theorem run_nil : run visitor [] state = state := by
  rw [run]

theorem run_cons :
    run visitor (visit :: queue) state =
      run visitor (schedule visit (visitor visit state).1 queue) (visitor visit state).2 := by
  rw [run]

/-- Keeping a record changes nothing else, and what is recorded are the visits of the turns. -/
theorem run_recording (queue : List (Visit ι)) (state : σ) (seen : List (Visit ι)) :
    run (recording visitor) queue (state, seen) =
      (run visitor queue state, ((turnsFrom visitor queue state).map (·.visit)).reverse ++ seen) := by
  induction queue, state using run.induct visitor generalizing seen with
  | case1 state => simp
  | case2 visit queue state commands next visited ih =>
    rw [run_cons, run_cons, turnsFrom_cons]
    simp only [recording, visited, ih, List.map_cons, List.reverse_cons, List.append_assoc,
      List.singleton_append]

theorem visits_eq (expr : Expr) (input : ι) (visitor : Visitor σ ι) (state : σ) :
    visits expr input visitor state = (turns expr input visitor state).map (·.visit) := by
  unfold visits walk turns
  rw [run_recording, List.append_nil, List.reverse_reverse]

end Turns

/-- A visit stems from some visits in the course of some turns: it is one of them, or it was
scheduled in one of the turns, whose own visit stems from them in the course of the turns before. -/
inductive Stems (visitor : Visitor σ ι) (roots : List (Visit ι)) : List (Turn σ ι) → Visit ι → Prop
  | root {before : List (Turn σ ι)} {visit : Visit ι} : visit ∈ roots → Stems visitor roots before visit
  | child {before between : List (Turn σ ι)} {parent : Turn σ ι} {visit : Visit ι} :
    Stems visitor roots before parent.visit → visit ∈ parent.scheduled visitor →
      Stems visitor roots (before ++ parent :: between) visit

section Stems

variable {visitor : Visitor σ ι} {roots others queue : List (Visit ι)}
  {before later : List (Turn σ ι)} {turn : Turn σ ι} {visit other : Visit ι} {state : σ}

theorem Stems.mono (stems : Stems visitor roots before visit) (subset : roots ⊆ others) :
    Stems visitor others before visit := by
  induction stems with
  | root member => exact .root (subset member)
  | child _ made ih => exact .child ih made

/-- Of the scheduling that a visit comes from only the last one. -/
theorem Stems.mem_or_scheduled (stems : Stems visitor roots before visit) :
    visit ∈ roots ∨ ∃ parent ∈ before, visit ∈ parent.scheduled visitor := by
  cases stems with
  | root member => exact .inl member
  | child _ made => exact .inr ⟨_, by simp, made⟩

/-- What stems from the queue after a turn stems from the queue before it. -/
private theorem Stems.cons
    (stems : Stems visitor (schedule visit (visitor visit state).1 queue) before other) :
    Stems visitor (visit :: queue) (⟨visit, state⟩ :: before) other := by
  induction stems with
  | @root before other member =>
    rcases mem_queue_or_scheduled member with waited | made
    · exact .root (List.mem_cons_of_mem _ waited)
    · -- The first turn itself scheduled it, before all the other turns.
      have start : Stems visitor (visit :: queue) [] (Turn.mk visit state).visit :=
        .root (List.mem_cons_self ..)
      exact start.child made
  | child _ made ih => exact ih.child made

/-- The visit of every turn stems from the queue that the run began with. -/
theorem stems_of_turnsFrom (split : turnsFrom visitor queue state = before ++ turn :: later) :
    Stems visitor queue before turn.visit := by
  induction before generalizing queue state with
  | nil =>
    cases queue with
    | nil => rw [turnsFrom_nil] at split; cases split
    | cons visit queue =>
      rw [turnsFrom_cons] at split
      obtain ⟨rfl, -⟩ := List.cons.inj split
      exact .root (List.mem_cons_self ..)
  | cons first before ih =>
    cases queue with
    | nil => rw [turnsFrom_nil] at split; cases split
    | cons visit queue =>
      rw [turnsFrom_cons] at split
      obtain ⟨rfl, rest⟩ := List.cons.inj split
      exact (ih rest).cons

end Stems

/-! ## The loop -/

/-- The loop between two turns: the visits that wait, and the state of the visitor. -/
structure Loop (σ ι : Type) where
  queue : List (Visit ι)
  state : σ

/-- One turn of the loop; there is none if nothing waits. -/
def Loop.turn? (visitor : Visitor σ ι) : Loop σ ι → Option (Loop σ ι)
  | ⟨[], _⟩ => none
  | ⟨visit :: queue, state⟩ =>
    let (commands, next) := visitor visit state
    some ⟨schedule visit commands queue, next⟩

/-- The loop after that many turns, if there are as many. -/
def Loop.after? (visitor : Visitor σ ι) (count : Nat) (loop : Loop σ ι) : Option (Loop σ ι) :=
  (·.bind (turn? visitor))^[count] (some loop)

/-- A queue follows another one if some commands, whichever, make it of that in one turn. -/
def Follows (next queue : List (Visit ι)) : Prop :=
  ∃ (visit : Visit ι) (commands : List (Command visit.node ι)) (rest : List (Visit ι)),
    queue = visit :: rest ∧ next = schedule visit commands rest

/-- A turn replaces a node in the queue by smaller ones, and this cannot go on forever. -/
theorem wellFounded_follows : WellFounded (Follows (ι := ι)) := by
  refine Subrelation.wf (fun {next queue} follows => ?_)
    (InvImage.wf (fun queue => (pending queue).sizes) Shrinks.wellFounded)
  obtain ⟨visit, commands, rest, rfl, rfl⟩ := follows
  exact shrinks_schedule visit commands rest

namespace Loop

variable {visitor : Visitor σ ι} {queue : List (Visit ι)} {state : σ} {count : Nat}

/-- After some turns of a run, the rest of the run is that of the loop as it is then. -/
theorem after_turns (few : count ≤ (turnsFrom visitor queue state).length) :
    ∃ loop, after? visitor count ⟨queue, state⟩ = some loop ∧
      turnsFrom visitor loop.queue loop.state = (turnsFrom visitor queue state).drop count ∧
      run visitor loop.queue loop.state = run visitor queue state := by
  induction count generalizing queue state with
  | zero => exact ⟨⟨queue, state⟩, rfl, rfl, rfl⟩
  | succ count ih =>
    cases queue with
    | nil => rw [turnsFrom_nil] at few; cases few
    | cons visit queue =>
      rw [turnsFrom_cons, List.length_cons] at few
      obtain ⟨loop, reached, rest, ends⟩ := ih (Nat.le_of_succ_le_succ few)
      refine ⟨loop, ?_, ?_, ?_⟩
      · rw [after?, Function.iterate_succ_apply]
        exact reached
      · rw [rest, turnsFrom_cons, List.drop_succ_cons]
      · rw [ends, run_cons]

theorem head?_turnsFrom (loop : Loop σ ι) :
    (turnsFrom visitor loop.queue loop.state).head? =
      loop.queue.head?.map fun visit => ⟨visit, loop.state⟩ := by
  obtain ⟨_ | ⟨visit, queue⟩, state⟩ := loop
  · rw [turnsFrom_nil]; rfl
  · rw [turnsFrom_cons]; rfl

theorem queue_eq_nil {loop : Loop σ ι} (ended : turnsFrom visitor loop.queue loop.state = []) :
    loop.queue = [] := by
  obtain ⟨_ | ⟨visit, queue⟩, state⟩ := loop
  · rfl
  · rw [turnsFrom_cons] at ended
    cases ended

end Loop

/-- Every walk ends, whatever the visitor does. No sequence of queues goes on forever in which each
one comes from the one before by a turn, with any commands in any turn. And with a visitor that has
any state, the loop goes round as often as the walk has visits, makes these visits in turn, and then
nothing waits any more. -/
theorem walk_ends (expr : Expr) (input : ι) :
    (¬ ∃ queues : Nat → List (Visit ι), queues 0 = [⟨expr, 0, input⟩] ∧
        ∀ count, Follows (queues (count + 1)) (queues count)) ∧
      ∀ (visitor : Visitor σ ι) (state : σ),
        let made := visits expr input visitor state
        let start : Loop σ ι := ⟨[⟨expr, 0, input⟩], state⟩
        (∀ count < made.length, ∃ loop, Loop.after? visitor count start = some loop ∧
            loop.queue.head? = made[count]?) ∧
          Loop.after? visitor made.length start = some ⟨[], walk expr input visitor state⟩ := by
  constructor
  · rintro ⟨queues, -, follows⟩
    exact (wellFounded_iff_isEmpty_descending_chain.mp wellFounded_follows).false ⟨queues, follows⟩
  · intro visitor state made start
    have visits : made = (turnsFrom visitor start.queue state).map (·.visit) := visits_eq ..
    have length : made.length = (turnsFrom visitor start.queue state).length := by
      rw [visits, List.length_map]
    refine ⟨fun count few => ?_, ?_⟩
    · obtain ⟨loop, reached, rest, -⟩ := Loop.after_turns (length ▸ few.le)
      refine ⟨loop, reached, ?_⟩
      rw [visits, List.getElem?_map, ← List.head?_drop, ← rest, Loop.head?_turnsFrom,
        Option.map_map]
      exact Option.map_id'.symm
    · obtain ⟨⟨queue, last⟩, reached, rest, ends⟩ := Loop.after_turns length.le
      rw [length, List.drop_length] at rest
      obtain rfl : queue = [] := Loop.queue_eq_nil rest
      rw [reached, show last = _ from run_nil.symm.trans ends]
      rfl

namespace Repeating

/-- Schedules every child twice, before and after what waits; its state counts the visits. -/
def repeating : Visitor Nat Unit := fun visit count =>
  ((childrenOf visit.node).flatMap fun child => [.immediate child (), .deferred child ()], count + 1)

def sum : Expr := .combined .add (.field "a") (.field "b")

/-- Behind the sum wait both summands twice, and the loop ends after these four visits. -/
theorem walk_ends_sum :
    let start : Loop Nat Unit := ⟨[⟨sum, 0, ()⟩], 0⟩
    (turns sum () repeating 0).length = 5 ∧
      (∃ loop, Loop.after? repeating 3 start = some loop ∧
        loop.queue.head? = some ⟨.field "a", 1, ()⟩) ∧
      Loop.after? repeating 5 start = some ⟨[], walk sum () repeating 0⟩ := by
  intro start
  have made : visits sum () repeating 0 =
      [⟨sum, 0, ()⟩, ⟨.field "b", 1, ()⟩, ⟨.field "a", 1, ()⟩, ⟨.field "a", 1, ()⟩,
        ⟨.field "b", 1, ()⟩] := by
    rw [visits_eq]
    cbv
  have length : (turns sum () repeating 0).length = 5 := by
    rw [← List.length_map (fun turn : Turn Nat Unit => turn.visit), ← visits_eq, made]
    rfl
  obtain ⟨turn, ends⟩ := (walk_ends sum ()).2 repeating 0
  rw [made] at turn ends
  exact ⟨length, turn 3 (by decide), ends⟩

end Repeating

end Hybrid.Walk
