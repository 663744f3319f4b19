import Mathlib.Data.List.Perm.Basic
import Hybrid.Proofs.Walk.Places

/-! # The modes of scheduling

Whether a child is scheduled before or after what waits, and in which order children are scheduled,
only reorders a walk. So a walk that schedules every child once is a tour of the expression, in
whatever modes it does so, and even if the inputs that it threads do not tell the places.
-/

namespace Hybrid.Walk

variable {σ τ ι κ : Type}

/-- The child that a command schedules; none for a clearing. -/
def Command.child? {node : Expr} (command : Command node ι) : Option (Child node) :=
  command.request?.map Prod.fst

/-- A visitor schedules every child once at each visit, in some mode, and does not clear the queue. -/
def Visitor.SchedulesEach (visitor : Visitor σ ι) : Prop :=
  ∀ visit state,
    ((visitor visit state).1.map Command.child?).Perm ((childrenOf visit.node).map some)

/-! ## Passing places -/

/-- Commands that schedule the children of some tags can be given the tags as further inputs. -/
theorem exists_tagged {node : Expr} {commands : List (Command node ι)}
    {tags : List (Child node × κ)}
    (each : (commands.map Command.child?).Perm (tags.map fun tag => some tag.1)) :
    ∃ tagged : List (Command node (ι × κ)), tagged.map (Command.map Prod.fst) = commands ∧
      (tagged.map fun command => command.request?.map (Prod.map id Prod.snd)).Perm
        (tags.map some) := by
  -- The tags in the order of the commands, each with the child that its command schedules.
  have own : List.Forall₂ (fun child tag => child = some tag.1)
      (tags.map fun tag => some tag.1) tags :=
    List.forall₂_map_left_iff.mpr (List.forall₂_same.mpr fun _ _ => rfl)
  obtain ⟨ordered, matched, perm⟩ := List.perm_comp_forall₂ each own
  rw [List.forall₂_map_left_iff] at matched
  suffices tagging : ∃ tagged : List (Command node (ι × κ)),
      tagged.map (Command.map Prod.fst) = commands ∧
        (tagged.map fun command => command.request?.map (Prod.map id Prod.snd)) =
          ordered.map some by
    obtain ⟨tagged, forgets, tags⟩ := tagging
    exact ⟨tagged, forgets, tags ▸ perm.map some⟩
  clear each own perm
  induction matched with
  | nil => exact ⟨[], rfl, rfl⟩
  | @cons command tag commands ordered same _ ih =>
    obtain ⟨tagged, rfl, tags⟩ := ih
    obtain ⟨child, value⟩ := tag
    cases command with
    | immediate other input =>
      obtain rfl : other = child := Option.some.inj same
      exact ⟨.immediate other (input, value) :: tagged, rfl, congrArg (_ :: ·) tags⟩
    | deferred other input =>
      obtain rfl : other = child := Option.some.inj same
      exact ⟨.deferred other (input, value) :: tagged, rfl, congrArg (_ :: ·) tags⟩
    | clear => cases same

theorem map_fst_numbered (visit : Visit Place) :
    ((numbered visit).map fun tag => some tag.1) = (childrenOf visit.node).map some := by
  rw [numbered, eachChild, List.map_map]
  have children := List.zipIdx_map_fst 0 (childrenOf visit.node)
  conv_rhs => rw [← children, List.map_map]
  rfl

/-- A visitor that schedules every child once may as well pass each child its place. -/
theorem Visitor.SchedulesEach.exists_passes {visitor : Visitor σ ι} (each : visitor.SchedulesEach) :
    ∃ other : Visitor σ (ι × Place), other.Relabels Prod.fst visitor ∧
      other.SchedulesMarked Prod.snd numbered := by
  have tagging (visit : Visit (ι × Place)) (state : σ) :=
    exists_tagged ((each (visit.map Prod.fst) state).trans
      (.of_eq (map_fst_numbered (visit.map Prod.snd)).symm))
  choose tagged forgets tags using tagging
  refine ⟨fun visit state => (tagged visit state, (visitor (visit.map Prod.fst) state).2),
    fun visit state => ?_, tags⟩
  rw [forgets]

theorem Visitor.SchedulesEach.exists_tour {visitor : Visitor σ ι} (each : visitor.SchedulesEach)
    (expr : Expr) (input : ι) (state : σ) :
    ∃ places, Tour expr (visits expr input visitor state) places := by
  obtain ⟨_, relabels, passes⟩ := each.exists_passes
  exact ⟨_, tour_of_relabels relabels passes expr input state⟩

/-- Modes only reorder. Visitors that schedule by one agenda, in whatever modes and orders, and even
if these depend on what they have seen so far, make the same visits, each as often: those that the
agenda unfolds into. If every child is scheduled once, every node is visited once, behind its parent
and with its true distance from the root; and if the inputs tell the places, the visits are at the
places that they tell. -/
theorem modes_only_reorder (expr : Expr) (input : ι) :
    (∀ (agenda : Agenda ι) (visitor : Visitor σ ι), visitor.Schedules agenda → ∀ state,
        (visits expr input visitor state).Perm (agenda.unfolding ⟨expr, 0, input⟩)) ∧
      (∀ (agenda : Agenda ι) (one : Visitor σ ι) (other : Visitor τ ι),
        one.Schedules agenda → other.Schedules agenda → ∀ state state',
          (visits expr input one state).Perm (visits expr input other state')) ∧
      (∀ visitor : Visitor σ ι, visitor.SchedulesEach → ∀ state,
        ∃ places, Tour expr (visits expr input visitor state) places) ∧
      (∀ (visitor : Visitor σ ι) (place : ι → Place), place input = [] →
        visitor.SchedulesMarked place numbered → ∀ state,
          Tour expr (visits expr input visitor state)
            ((visits expr input visitor state).map fun visit => place visit.input)) := by
  have unfolds {σ : Type} (agenda : Agenda ι) (visitor : Visitor σ ι)
      (schedules : visitor.Schedules agenda) (state : σ) :
      (visits expr input visitor state).Perm (agenda.unfolding ⟨expr, 0, input⟩) := by
    have made := schedules.marked.visits_perm_unfolding expr input state
    rwa [Visit.map_id, List.map_id] at made
  refine ⟨unfolds, fun agenda one other first second state state' => ?_, ?_, ?_⟩
  · exact (unfolds agenda one first state).trans (unfolds agenda other second state').symm
  · exact fun visitor each state => each.exists_tour expr input state
  · exact fun visitor place root passes state => tour_of_passes passes root

namespace Alternating

/-- Schedules every child with its place: before what waits and left to right, and in every other
visit after what waits. -/
def alternating : Visitor Bool Place := fun visit behind =>
  if behind then ((numbered visit).map fun (child, place) => .deferred child place, false)
  else ((numbered visit).reverse.map fun (child, place) => .immediate child place, true)

/-- Schedules every child with its place before what waits, so that they are visited right to left. -/
def backwards : Visitor Unit Place := fun visit _ =>
  ((numbered visit).map fun (child, place) => .immediate child place, ())

/-- A product of two sums, the first of them with equal summands. -/
def product : Expr :=
  .combined .mul (.combined .add (.field "a") (.field "a")) (.combined .add (.field "b") (.field "c"))

theorem alternating_schedules : alternating.Schedules numbered := by
  intro visit behind
  cases behind with
  | true => simp [alternating, Command.request?, Function.comp_def]
  | false =>
    refine .trans (.of_eq ?_) ((numbered visit).reverse_perm.map some)
    simp [alternating, Command.request?, Function.comp_def]

theorem backwards_schedules : backwards.Schedules numbered := by
  intro visit state
  simp [backwards, Command.request?, Function.comp_def]

/-- The two walks visit the same places of the product, in different orders. -/
theorem modes_only_reorder_product :
    alternating.Schedules numbered ∧ backwards.Schedules numbered ∧
      (visits product [] alternating false).map (·.input) =
        [[], [0], [1], [1, 0], [1, 1], [0, 0], [0, 1]] ∧
      (visits product [] backwards ()).map (·.input) =
        [[], [1], [1, 1], [1, 0], [0], [0, 1], [0, 0]] ∧
      (visits product [] alternating false).Perm (visits product [] backwards ()) ∧
      Tour product (visits product [] alternating false)
        [[], [0], [1], [1, 0], [1, 1], [0, 0], [0, 1]] := by
  have order : (visits product [] alternating false).map (·.input) =
      [[], [0], [1], [1, 0], [1, 1], [0, 0], [0, 1]] := by rw [visits_eq]; cbv
  obtain ⟨-, same, -, tour⟩ := @modes_only_reorder Bool Unit Place product []
  refine ⟨alternating_schedules, backwards_schedules, order, by rw [visits_eq]; cbv, ?_, ?_⟩
  · exact same _ _ _ alternating_schedules backwards_schedules _ _
  · exact order ▸ tour alternating id rfl alternating_schedules.marked false

end Alternating

end Hybrid.Walk
