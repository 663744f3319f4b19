import Hybrid.Proofs.Walk.Places

/-! # The orders of full walks

A walk that descends at every node visits the nodes in pre-order, and one that schedules every child
behind what waits visits them in order of depth. In terms of places these are the lexicographic order
and the order by length first. Either walk is compared with one that also passes each child its place
(`tracked`), which changes nothing else.
-/

namespace Hybrid.Walk

variable {σ ι κ : Type}

/-! ## Visitors of full walks -/

/-- Schedules each child after everything that waits, in turn, with an input given by its number. -/
def deferAll (node : Expr) (given : Nat → ι) : List (Command node ι) :=
  (eachChild node given).map fun request => .deferred request.1 request.2

/-- Schedules every child so that they are visited next, left to right, each with an input given by
its number. -/
def descendEach (node : Expr) (given : Nat → ι) : List (Command node ι) :=
  ((eachChild node given).map fun request => .immediate request.1 request.2).reverse

/-- Descends at each node, with an input for the children that may depend on all visits so far. -/
def descending (next : Visit ι → σ → ι × σ) : Visitor σ ι := fun visit state =>
  let (given, state) := next visit state
  (descend visit.node given, state)

/-- Defers each child of each node, with inputs that may depend on all visits so far. -/
def deferring (next : Visit ι → σ → (Nat → ι) × σ) : Visitor σ ι := fun visit state =>
  let (given, state) := next visit state
  (deferAll visit.node given, state)

/-- Commands that schedule every child once, with the input given by its number. -/
def AskEach (commands : (node : Expr) → (Nat → ι) → List (Command node ι)) : Prop :=
  ∀ node given, ((commands node given).map Command.request?).Perm ((eachChild node given).map some)

theorem askEach_deferAll : AskEach (deferAll (ι := ι)) := by
  intro node given
  rw [deferAll, List.map_map]
  exact .refl _

theorem askEach_descendEach : AskEach (descendEach (ι := ι)) := by
  intro node given
  rw [descendEach, List.map_reverse, List.map_map]
  exact List.reverse_perm _

section Commands

variable (node : Expr) (visit : Visit ι) (given : Nat → ι) (queue : List (Visit ι))

theorem schedule_deferAll :
    schedule visit (deferAll visit.node given) queue =
      queue ++ (eachChild visit.node given).map visit.below := by
  unfold deferAll
  induction eachChild visit.node given generalizing queue with
  | nil => exact (List.append_nil _).symm
  | cons request rest ih =>
    rw [List.map_cons, schedule_cons, ih, List.map_cons, List.append_cons]
    rfl

theorem schedule_descendEach :
    schedule visit (descendEach visit.node given) queue =
      (eachChild visit.node given).map visit.below ++ queue := by
  unfold descendEach
  induction eachChild visit.node given with
  | nil => rfl
  | cons request rest ih =>
    unfold schedule at ih ⊢
    rw [List.map_cons, List.reverse_cons, List.foldl_append, ih]
    rfl

theorem map_deferAll (mark : ι → κ) :
    (deferAll node given).map (Command.map mark) =
      deferAll node fun number => mark (given number) := by
  rw [deferAll, deferAll, eachChild, eachChild, List.map_map, List.map_map, List.map_map]
  rfl

theorem map_descendEach (mark : ι → κ) :
    (descendEach node given).map (Command.map mark) =
      descendEach node fun number => mark (given number) := by
  rw [descendEach, descendEach, eachChild, eachChild, List.map_reverse, List.map_map, List.map_map,
    List.map_map]
  rfl

theorem descendEach_const (input : ι) : (descendEach node fun _ => input) = descend node input := by
  have children : (eachChild node fun _ => input).map Prod.fst = childrenOf node := by
    rw [eachChild, List.map_map]
    exact List.zipIdx_map_fst 0 (childrenOf node)
  have inputs : (eachChild node fun _ => input).map
      (fun request => Command.immediate request.1 request.2) =
        (eachChild node fun _ => input).map fun request => Command.immediate request.1 input := by
    refine List.map_congr_left fun request member => ?_
    obtain ⟨_, -, same⟩ := mem_eachChild.mp member
    rw [same]
  rw [descendEach, inputs, descend, List.map_reverse, ← children, List.map_map]
  rfl

end Commands

/-! ## Tracking the places -/

/-- Each visit has the input that it was given at the visit of the place above; `gives` says which
input a turn gives the child of a number. -/
structure Inherits (turns : List (Turn σ ι)) (places : List Place) (input : ι)
    (gives : Turn σ ι → Nat → ι) : Prop where
  root : ∀ turn, (turn, []) ∈ turns.zip places → turn.visit.input = input
  child : ∀ turn place number, (turn, place ++ [number]) ∈ turns.zip places →
    ∃ parent, (parent, place) ∈ turns.zip places ∧ turn.visit.input = gives parent number

section Tracked

variable (commands : (node : Expr) → (Nat → ι × Place) → List (Command node (ι × Place)))
  (next : Visit ι → σ → (Nat → ι) × σ)

/-- Gives commands for all children, each with its place as a further input. -/
def tracked : Visitor σ (ι × Place) := fun visit state =>
  let (given, state) := next (visit.map Prod.fst) state
  (commands visit.node fun number => (given number, visit.input.2 ++ [number]), state)

variable {commands next} (asks : AskEach commands)

include asks

theorem tracked_passes : (tracked commands next).SchedulesMarked Prod.snd numbered := by
  intro visit state
  have requests := (asks visit.node fun number =>
    ((next (visit.map Prod.fst) state).1 number, visit.input.2 ++ [number])).map
      (Option.map (Prod.map id Prod.snd))
  rw [List.map_map, List.map_map] at requests
  refine requests.trans (.of_eq ?_)
  rw [numbered, eachChild, eachChild, List.map_map, List.map_map]
  rfl

theorem mem_scheduled_tracked {turn : Turn σ (ι × Place)} {visit : Visit (ι × Place)}
    (made : visit ∈ turn.scheduled (tracked commands next)) :
    ∃ number, visit.input =
      ((next (turn.visit.map Prod.fst) turn.state).1 number, turn.visit.input.2 ++ [number]) := by
  obtain ⟨command, member, request, requested, rfl⟩ := mem_scheduled.mp made
  have listed := (asks _ _).subset (List.mem_map_of_mem member)
  rw [requested] at listed
  obtain ⟨_, listed, same⟩ := List.mem_map.mp listed
  obtain ⟨number, -, given⟩ := mem_eachChild.mp listed
  exact ⟨number, (congrArg Prod.snd (Option.some.inj same)).symm.trans given⟩

/-- The input of every turn but the first one was given to it in a turn at the place above. -/
theorem origin_tracked {expr : Expr} {input : ι} {state : σ} {turn : Turn σ (ι × Place)}
    (member : turn ∈ turns expr (input, []) (tracked commands next) state) :
    turn.visit.input = (input, []) ∨
      ∃ parent ∈ turns expr (input, []) (tracked commands next) state, ∃ number,
        turn.visit.input = ((next (parent.visit.map Prod.fst) parent.state).1 number,
          parent.visit.input.2 ++ [number]) := by
  obtain ⟨before, later, split⟩ := List.append_of_mem member
  rcases (stems_of_turnsFrom split).mem_or_scheduled with first | ⟨parent, earlier, scheduled⟩
  · exact .inl (congrArg Visit.input (List.mem_singleton.mp first))
  · have above : parent ∈ turns expr (input, []) (tracked commands next) state :=
      split ▸ List.mem_append_left _ earlier
    exact .inr ⟨parent, above, mem_scheduled_tracked asks scheduled⟩

theorem tracked_inherits (expr : Expr) (input : ι) (state : σ) :
    let made := turns expr (input, []) (tracked commands next) state
    Inherits (made.map (Turn.map Prod.fst)) (made.map (·.visit.input.2)) input
      fun turn => (next turn.visit turn.state).1 := by
  intro made
  have nonempty {place : Place} {number : Nat} : place ++ [number] ≠ [] :=
    List.append_ne_nil_of_right_ne_nil _ (List.cons_ne_nil _ _)
  have paired : (made.map (Turn.map Prod.fst)).zip (made.map (·.visit.input.2)) =
      made.map fun turn => (turn.map Prod.fst, turn.visit.input.2) := List.zip_map'
  refine ⟨fun turn member => ?_, fun turn place number member => ?_⟩ <;> rw [paired] at member
  · obtain ⟨tracking, inside, same⟩ := List.mem_map.mp member
    obtain ⟨rfl, here⟩ := Prod.mk.inj same
    rcases origin_tracked asks inside with first | ⟨parent, -, number, given⟩
    · exact congrArg Prod.fst first
    · exact absurd ((congrArg Prod.snd given).symm.trans here) nonempty
  · obtain ⟨tracking, inside, same⟩ := List.mem_map.mp member
    obtain ⟨rfl, here⟩ := Prod.mk.inj same
    rcases origin_tracked asks inside with first | ⟨parent, above, position, given⟩
    · exact absurd (here.symm.trans (congrArg Prod.snd first)) nonempty
    · obtain ⟨placed, numbers⟩ := List.append_inj' ((congrArg Prod.snd given).symm.trans here) rfl
      obtain rfl : position = number := (List.cons.inj numbers).1
      refine ⟨parent.map Prod.fst, ?_, congrArg Prod.fst given⟩
      rw [paired]
      exact List.mem_map.mpr ⟨parent, above, Prod.ext rfl placed⟩

/-- What holds of any walk that is tracked: it takes in every node once, and inputs are passed on. -/
theorem tour_of_tracked {visitor : Visitor σ ι}
    (relabels : (tracked commands next).Relabels Prod.fst visitor) (expr : Expr) (input : ι)
    (state : σ) :
    let places := (turns expr (input, []) (tracked commands next) state).map (·.visit.input.2)
    Tour expr (visits expr input visitor state) places ∧
      Inherits (turns expr input visitor state) places input
        fun turn => (next turn.visit turn.state).1 := by
  refine ⟨tour_of_relabels relabels (tracked_passes asks) expr input state, ?_⟩
  rw [show input = Prod.fst (input, ([] : Place)) from rfl, relabels.turns_map]
  exact tracked_inherits asks expr input state

end Tracked

/-! ## Pre-order -/

theorem tracked_descendEach_sorted (next : Visit ι → σ → (Nat → ι) × σ) (expr : Expr) (input : ι)
    (state : σ) :
    ((turns expr (input, []) (tracked descendEach next) state).map (·.visit.input.2)).Pairwise
      (· < ·) := by
  have unfolds : (turns expr (input, []) (tracked descendEach next) state).map
      (fun turn => turn.visit.map Prod.snd) = numbered.unfolding ⟨expr, 0, []⟩ := by
    refine (turnsFrom_of_front (fun visit state queue => ?_) _ _).trans (List.flatMap_singleton ..)
    rw [tracked, schedule_descendEach, List.map_append, List.map_map, numbered, eachChild, eachChild,
      List.map_map, List.map_map]
    rfl
  have sorted := unfolding_numbered_sorted expr 0 []
  rw [← unfolds, List.map_map] at sorted
  exact sorted

/-! ## Breadth first -/

/-- Places are ordered by their depth, and from left to right where the depth is the same. -/
def Shallower (place other : Place) : Prop :=
  place.length < other.length ∨ place.length = other.length ∧ place < other

section Shallower

variable {place other : Place} {number position : Nat}

theorem append_lt_append_of_lt (less : place < other) (same : place.length = other.length)
    (way across : Place) : place ++ way < other ++ across := by
  induction less with
  | nil => cases same
  | rel left => exact .rel left
  | cons _ ih => exact .cons (ih (Nat.succ.inj same))

theorem length_below (place : Place) (number : Nat) :
    (place ++ [number]).length = place.length + 1 := List.length_append

theorem shallower_below (atMost : place.length ≤ other.length) :
    Shallower place (other ++ [number]) := by
  left
  rw [length_below]
  omega

theorem shallower_sibling (left : number < position) :
    Shallower (place ++ [number]) (place ++ [position]) := by
  right
  rw [length_below, length_below]
  exact ⟨rfl, append_lt_append left [] []⟩

theorem Shallower.length_le (shallower : Shallower place other) : place.length ≤ other.length := by
  rcases shallower with less | ⟨same, -⟩ <;> omega

theorem Shallower.append (shallower : Shallower place other) :
    Shallower (place ++ [number]) (other ++ [position]) := by
  rw [Shallower, length_below, length_below]
  rcases shallower with less | ⟨same, less⟩
  · exact .inl (Nat.add_lt_add_right less 1)
  · exact .inr ⟨congrArg (· + 1) same, append_lt_append_of_lt less same _ _⟩

end Shallower

/-- The places that wait in the course of a deferring walk: they are in order, and each comes before
everything that any of them will schedule. -/
structure Orderly (places : List Place) : Prop where
  sorted : places.Pairwise Shallower
  before : ∀ place ∈ places, ∀ other ∈ places, ∀ number, Shallower place (other ++ [number])

/-- A turn takes the first place away and adds those of its children at the end. -/
theorem Orderly.step {place : Place} {places : List Place} {numbers : List Nat}
    (orderly : Orderly (place :: places)) (increasing : numbers.Pairwise (· < ·)) :
    Orderly (places ++ numbers.map fun number => place ++ [number]) := by
  obtain ⟨sorted, before⟩ := orderly
  obtain ⟨first, sorted⟩ := List.pairwise_cons.mp sorted
  have self : place ∈ place :: places := List.mem_cons_self ..
  have rest {other : Place} (member : other ∈ places) : other ∈ place :: places :=
    List.mem_cons_of_mem _ member
  constructor
  · refine List.pairwise_append.mpr ⟨sorted, ?_, fun other member child made => ?_⟩
    · exact List.pairwise_map.mpr (increasing.imp shallower_sibling)
    · obtain ⟨number, -, rfl⟩ := List.mem_map.mp made
      exact before other (rest member) place self number
  · intro one memberOne two memberTwo number
    rcases List.mem_append.mp memberOne with waits | made
    · rcases List.mem_append.mp memberTwo with waits' | made'
      · exact before one (rest waits) two (rest waits') number
      · obtain ⟨position, -, rfl⟩ := List.mem_map.mp made'
        exact shallower_below (before one (rest waits) place self position).length_le
    · obtain ⟨position, -, rfl⟩ := List.mem_map.mp made
      rcases List.mem_append.mp memberTwo with waits' | made'
      · exact (first two waits').append
      · obtain ⟨other, -, rfl⟩ := List.mem_map.mp made'
        refine shallower_below (Nat.le_of_eq ?_)
        rw [length_below, length_below]

/-- What waits after a turn waited behind its place, or is the place of one of its children. -/
theorem Orderly.first {place : Place} {places : List Place} {numbers : List Nat}
    (orderly : Orderly (place :: places)) :
    ∀ other ∈ places ++ numbers.map fun number => place ++ [number], Shallower place other := by
  intro other member
  rcases List.mem_append.mp member with waited | made
  · exact (List.pairwise_cons.mp orderly.sorted).1 other waited
  · obtain ⟨number, -, rfl⟩ := List.mem_map.mp made
    exact shallower_below le_rfl

section Deferring

variable {next : Visit ι → σ → (Nat → ι) × σ}

/-- A place that comes before all that waits comes before all that will be visited. -/
theorem Stems.shallower {place : Place} {queue : List (Visit (ι × Place))}
    {before : List (Turn σ (ι × Place))} {visit : Visit (ι × Place)}
    (stems : Stems (tracked deferAll next) queue before visit)
    (first : ∀ waits ∈ queue, Shallower place waits.input.2) : Shallower place visit.input.2 := by
  induction stems with
  | root member => exact first _ member
  | child _ made ih =>
    obtain ⟨number, given⟩ := mem_scheduled_tracked askEach_deferAll made
    rw [given]
    exact shallower_below ih.length_le

theorem schedule_tracked_deferAll (visit : Visit (ι × Place)) (state : σ)
    (queue : List (Visit (ι × Place))) :
    (schedule visit (tracked deferAll next visit state).1 queue).map (·.input.2) =
      queue.map (·.input.2) ++ ((childrenOf visit.node).zipIdx.map Prod.snd).map
        fun number => visit.input.2 ++ [number] := by
  rw [tracked, schedule_deferAll, List.map_append, eachChild, List.map_map, List.map_map,
    List.map_map]
  rfl

theorem turnsFrom_deferAll_sorted (queue : List (Visit (ι × Place))) (state : σ)
    (orderly : Orderly (queue.map (·.input.2))) :
    ((turnsFrom (tracked deferAll next) queue state).map (·.visit.input.2)).Pairwise Shallower := by
  induction queue, state using run.induct (tracked deferAll next) with
  | case1 state => simp
  | case2 visit queue state commands after visited ih =>
    have waits := @schedule_tracked_deferAll _ _ next visit state queue
    rw [turnsFrom_cons, List.map_cons]
    rw [visited] at waits ⊢
    have stays : Orderly ((schedule visit commands queue).map (·.input.2)) :=
      waits ▸ orderly.step (numbers_increasing visit.node)
    refine List.pairwise_cons.mpr ⟨fun place member => ?_, ih stays⟩
    obtain ⟨turn, later, rfl⟩ := List.mem_map.mp member
    obtain ⟨earlier, others, split⟩ := List.append_of_mem later
    refine (stems_of_turnsFrom split).shallower fun waiting member => ?_
    exact orderly.first _ (waits ▸ List.mem_map.mpr ⟨waiting, member, rfl⟩)

theorem tracked_deferAll_sorted (next : Visit ι → σ → (Nat → ι) × σ) (expr : Expr) (input : ι)
    (state : σ) :
    ((turns expr (input, []) (tracked deferAll next) state).map (·.visit.input.2)).Pairwise
      Shallower := by
  refine turnsFrom_deferAll_sorted _ state ⟨List.pairwise_singleton _ _, ?_⟩
  intro one memberOne two memberTwo number
  obtain rfl : one = [] := List.mem_singleton.mp memberOne
  exact shallower_below (Nat.zero_le _)

end Deferring

/-! ## Full walks -/

theorem tracked_descendEach_relabels (next : Visit ι → σ → ι × σ) :
    (tracked descendEach fun visit state =>
      (fun _ => (next visit state).1, (next visit state).2)).Relabels Prod.fst (descending next) := by
  intro visit state
  rw [tracked, map_descendEach, descendEach_const]
  rfl

theorem tracked_deferAll_relabels (next : Visit ι → σ → (Nat → ι) × σ) :
    (tracked deferAll next).Relabels Prod.fst (deferring next) := by
  intro visit state
  rw [tracked, map_deferAll]
  rfl

/-- Full walks have their stated orders. A walk that descends at each node visits all nodes in
pre-order, which is the lexicographic order of their places. One that defers each child of each node
visits them breadth first. Either visits each node once, with its true depth and the input that its
parent gave it, whatever inputs are given and whatever they depend on. -/
theorem full_walks_ordered (expr : Expr) (input : ι) (state : σ) :
    (∀ next : Visit ι → σ → ι × σ,
        ∃ places, places.Pairwise (· < ·) ∧
          Tour expr (visits expr input (descending next) state) places ∧
          Inherits (turns expr input (descending next) state) places input
            fun turn _ => (next turn.visit turn.state).1) ∧
      (∀ next : Visit ι → σ → (Nat → ι) × σ,
        ∃ places, places.Pairwise Shallower ∧
          Tour expr (visits expr input (deferring next) state) places ∧
          Inherits (turns expr input (deferring next) state) places input
            fun turn => (next turn.visit turn.state).1) := by
  refine ⟨fun next => ?_, fun next => ?_⟩
  · have tour := tour_of_tracked askEach_descendEach (tracked_descendEach_relabels next) expr input
      state
    exact ⟨_, tracked_descendEach_sorted _ expr input state, tour⟩
  · have tour := tour_of_tracked askEach_deferAll (tracked_deferAll_relabels next) expr input state
    exact ⟨_, tracked_deferAll_sorted _ expr input state, tour⟩

/-- Both factors of a product come before the summands in them. -/
example :
    let product : Expr := .combined .mul (.combined .add (.field "a") (.field "b"))
      (.combined .add (.field "c") (.field "d"))
    let visitor : Visitor Unit Place :=
      deferring fun visit _ => (fun number => visit.input ++ [number], ())
    (visits product [] visitor ()).map (·.input) =
      [[], [0], [1], [0, 0], [0, 1], [1, 0], [1, 1]] := by
  cbv

end Hybrid.Walk
