import Hybrid.Proofs.Walk.Turns

/-! # Clearing the queue during a walk

A clearing drops what waits and nothing else. What is visited after the turn in which it is given
stems from what that turn schedules behind it, and the rest of the run is the run that begins with
this alone.
-/

namespace Hybrid.Walk

variable {σ ι : Type}

section Split

variable {visitor : Visitor σ ι} {queue : List (Visit ι)} {state : σ}
  {before later : List (Turn σ ι)} {turn : Turn σ ι}

/-- The turns after a given one are a run from what waits after it, and end as the whole run does. -/
theorem exists_queue_of_turnsFrom (split : turnsFrom visitor queue state = before ++ turn :: later) :
    ∃ waiting, later = turnsFrom visitor (schedule turn.visit (turn.commands visitor) waiting)
        (turn.next visitor) ∧
      run visitor queue state = run visitor (schedule turn.visit (turn.commands visitor) waiting)
        (turn.next visitor) := by
  have few : before.length ≤ (turnsFrom visitor queue state).length := by
    rw [split, List.length_append]
    exact Nat.le_add_right ..
  obtain ⟨⟨waiting, now⟩, -, rest, ends⟩ := Loop.after_turns few
  rw [split, List.drop_left] at rest
  cases waiting with
  | nil => rw [turnsFrom_nil] at rest; cases rest
  | cons visit waiting =>
    rw [turnsFrom_cons] at rest
    obtain ⟨rfl, rfl⟩ := List.cons.inj rest
    exact ⟨waiting, rfl, by rw [← ends, run_cons]; rfl⟩

end Split

theorem schedule_nil_subset {visit : Visit ι} (commands : List (Command visit.node ι)) :
    schedule visit commands [] ⊆ scheduled visit commands := fun _ member =>
  (mem_queue_or_scheduled member).resolve_left List.not_mem_nil

/-- When the queue is cleared in a turn, in whatever turn of whatever walk, the rest of the walk is
as if the queue had held only what the turn schedules behind the clearing: all of that, if it is the
last clearing of the turn. Every later visit is one of those or stems from one of them, and if there
are none, the walk ends there. -/
theorem clear_drops_pending {expr : Expr} {input : ι} {visitor : Visitor σ ι} {state : σ}
    {before later : List (Turn σ ι)} {turn : Turn σ ι}
    {given after : List (Command turn.visit.node ι)}
    (split : turns expr input visitor state = before ++ turn :: later)
    (cleared : turn.commands visitor = given ++ .clear :: after) :
    visits expr input visitor state = before.map (·.visit) ++ turn.visit :: later.map (·.visit) ∧
      (∀ between next rest, later = between ++ next :: rest →
        Stems visitor (scheduled turn.visit after) between next.visit) ∧
      later = turnsFrom visitor (schedule turn.visit after []) (turn.next visitor) ∧
      walk expr input visitor state =
        run visitor (schedule turn.visit after []) (turn.next visitor) ∧
      (.clear ∉ after →
        (schedule turn.visit after []).Perm (scheduled turn.visit after)) ∧
      (scheduled turn.visit after = [] →
        later = [] ∧ walk expr input visitor state = turn.next visitor) := by
  obtain ⟨waiting, rest, ends⟩ := exists_queue_of_turnsFrom split
  rw [cleared, schedule_clear] at rest ends
  refine ⟨?_, fun between next others inside => ?_, rest, ends, fun last => ?_, fun none => ?_⟩
  · rw [visits_eq, split, List.map_append, List.map_cons]
  · have stems := stems_of_turnsFrom (rest.symm.trans inside)
    exact stems.mono (schedule_nil_subset after)
  · have holds : (schedule turn.visit after []).Perm (scheduled turn.visit after ++ []) :=
      schedule_perm last
    rwa [List.append_nil] at holds
  · have empty : schedule turn.visit after [] = [] :=
      List.subset_nil.mp (none ▸ schedule_nil_subset after)
    rw [empty] at rest ends
    exact ⟨rest.trans turnsFrom_nil, ends.trans run_nil⟩

namespace FirstOnly

/-- Schedules every child, clears the queue and puts the first child alone into it; its state counts
the visits. -/
def visitor : Visitor Nat Unit := fun visit count =>
  (descend visit.node () ++ .clear :: ((childrenOf visit.node).take 1).map (.deferred · ()), count + 1)

def sum : Expr := .combined .add (.field "a") (.field "b")

def product : Expr := .combined .mul sum (.field "c")

/-- The second visit is made after the first clearing, and gives the second one. -/
theorem turns_product :
    turns product () visitor 0 =
      [⟨⟨product, 0, ()⟩, 0⟩] ++ ⟨⟨sum, 1, ()⟩, 1⟩ :: [⟨⟨.field "a", 2, ()⟩, 2⟩] := by
  cbv

/-- The third visit stems from what the second one schedules behind its clearing, and it is made as
if nothing else had waited; the right factor of the product is dropped. -/
theorem clear_drops_product :
    let turn : Turn Nat Unit := ⟨⟨sum, 1, ()⟩, 1⟩
    let after : List (Command sum Unit) := ((childrenOf sum).take 1).map (.deferred · ())
    let later : List (Turn Nat Unit) := [⟨⟨.field "a", 2, ()⟩, 2⟩]
    turns product () visitor 0 = [⟨⟨product, 0, ()⟩, 0⟩] ++ turn :: later ∧
      turn.commands visitor = descend sum () ++ .clear :: after ∧
      Stems visitor (scheduled turn.visit after) [] ⟨.field "a", 2, ()⟩ ∧
      later = turnsFrom visitor (schedule turn.visit after []) 2 ∧
      walk product () visitor 0 = run visitor (schedule turn.visit after []) 2 := by
  intro turn after later
  have cleared : turn.commands visitor = descend sum () ++ .clear :: after := rfl
  obtain ⟨-, stems, rest, ends, -⟩ := clear_drops_pending turns_product cleared
  exact ⟨turns_product, cleared, stems [] _ [] rfl, rest, ends⟩

end FirstOnly

end Hybrid.Walk
