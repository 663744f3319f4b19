import Mathlib.Algebra.GroupWithZero.Nat
import Mathlib.Algebra.Order.BigOperators.Group.List
import Mathlib.Algebra.Order.Group.Nat
import Mathlib.Data.List.Induction
import Mathlib.Data.Set.List
import Hybrid.Proofs.Wrapper.Sharing

/-! # The loops over wrappers

Both lists of what a wrapper depends on come from a loop with a stack. `Listing.turn?` and
`Ordering.turn?` are one turn of each. The listing takes one turn for each path down from the
wrapper; the ordering expands each wrapper once, so that the number of wrappers and of their
references bounds its turns.
-/

namespace Hybrid.Wrapper

open Relation

section Turns

variable {σ : Type} {turn? : σ → Option σ}

/-- The state after so many turns; nothing if there are not as many. -/
def afterTurns? (turn? : σ → Option σ) : Nat → σ → Option σ
  | 0, state => some state
  | turns + 1, state => (turn? state).bind (afterTurns? turn? turns)

/-- A loop that has less work after each turn comes to an end, with whatever each turn keeps. -/
theorem exists_afterTurns? {work : σ → Nat} {Holds : σ → Prop}
    (step : ∀ state, Holds state → turn? state = none ∨
      ∃ next, turn? state = some next ∧ work next < work state ∧ Holds next)
    {state : σ} (holds : Holds state) :
    ∃ turns ≤ work state, ∃ last, afterTurns? turn? turns state = some last ∧
      turn? last = none ∧ Holds last := by
  induction left : work state using Nat.strongRecOn generalizing state with
  | ind bound ih =>
    rcases step state holds with ended | ⟨next, turned, less, keeps⟩
    · exact ⟨0, Nat.zero_le bound, state, rfl, ended, holds⟩
    · obtain ⟨turns, few, last, reached, ended, still⟩ := ih (work next) (left ▸ less) keeps rfl
      refine ⟨turns + 1, by omega, last, ?_, ended, still⟩
      rw [afterTurns?, turned]
      exact reached

end Turns

/-! ## The listing -/

/-- The loop of a listing: a stack of wrappers, and what was put out. -/
structure Listing where
  stack : List Wrapper
  out : List Wrapper

/-- One turn puts out the top of the stack and what that depends on in its place. -/
def Listing.turn? : Listing → Option Listing
  | ⟨[], _⟩ => none
  | ⟨wrapper :: stack, out⟩ => some ⟨wrapper.siblings ++ stack, out ++ [wrapper]⟩

/-- The loop ends after one turn for each path. -/
theorem afterTurns?_listing (stack out : List Wrapper) :
    afterTurns? Listing.turn? (sizeList stack) ⟨stack, out⟩ =
      some ⟨[], out ++ listDependencies stack⟩ := by
  induction stack using listDependencies.induct generalizing out with
  | case1 => rw [listDependencies, List.append_nil]; rfl
  | case2 wrapper stack ih =>
    have count : sizeList (wrapper :: stack) = sizeList (wrapper.siblings ++ stack) + 1 := by
      rw [sizeList_cons, sizeList_append, size_eq]
      omega
    rw [count, afterTurns?, Listing.turn?, Option.bind_some, ih, listDependencies]
    simp

theorem listDependencies_append (first second : List Wrapper) :
    listDependencies (first ++ second) = listDependencies first ++ listDependencies second := by
  induction first using listDependencies.induct with
  | case1 => rw [listDependencies]; rfl
  | case2 wrapper stack ih =>
    rw [List.cons_append, listDependencies, listDependencies, ← List.append_assoc, ih]
    rfl

theorem listDependencies_eq (wrappers : List Wrapper) :
    listDependencies wrappers = wrappers.flatMap withDependencies := by
  induction wrappers with
  | nil => rw [listDependencies]; rfl
  | cons wrapper rest ih =>
    rw [← List.singleton_append, listDependencies_append, ih]
    rfl

/-- A listing is the wrapper and the listings of what it refers to, one behind the other. -/
theorem withDependencies_eq (wrapper : Wrapper) :
    wrapper.withDependencies = wrapper :: wrapper.siblings.flatMap withDependencies := by
  rw [withDependencies, listDependencies, List.append_nil, listDependencies_eq]

variable {wrapper other : Wrapper}

theorem mem_withDependencies : other ∈ wrapper.withDependencies ↔ wrapper.Reaches other := by
  constructor
  · intro member
    have reaches (stack : List Wrapper) (member : other ∈ listDependencies stack) :
        ∃ wrapper ∈ stack, wrapper.Reaches other := by
      induction stack using listDependencies.induct with
      | case1 => rw [listDependencies] at member; cases member
      | case2 wrapper stack ih =>
        rw [listDependencies] at member
        rcases List.mem_cons.mp member with rfl | later
        · exact ⟨other, List.mem_cons_self .., .refl⟩
        · obtain ⟨start, among, reaches⟩ := ih later
          rcases List.mem_append.mp among with sibling | below
          · exact ⟨wrapper, List.mem_cons_self .., .head sibling reaches⟩
          · exact ⟨start, List.mem_cons_of_mem _ below, reaches⟩
    obtain ⟨start, among, reaches⟩ := reaches [wrapper] member
    rwa [List.mem_singleton.mp among] at reaches
  · intro reaches
    induction reaches using ReflTransGen.head_induction_on with
    | refl => rw [withDependencies_eq]; exact List.mem_cons_self ..
    | head depends _ ih =>
      rw [withDependencies_eq]
      exact List.mem_cons_of_mem _ (List.mem_flatMap.mpr ⟨_, depends, ih⟩)

/-! ## Paths -/

/-- Where a path leads: each number is that of a reference, counted from zero. -/
def follow : Wrapper → List Nat → Option Wrapper
  | wrapper, [] => some wrapper
  | wrapper, number :: path => wrapper.siblings[number]?.bind fun sibling => sibling.follow path

/-- Where a path leads that begins with a reference to one of several wrappers. -/
def followAny (wrappers : List Wrapper) : List Nat → Option Wrapper
  | [] => none
  | number :: path => wrappers[number]?.bind fun wrapper => wrapper.follow path

/-- The paths that lead somewhere, each once, with the places where they lead. -/
structure Enumerates {Place : Type} (leads : List Nat → Option Place) (paths : List (List Nat))
    (places : List Place) : Prop where
  nodup : paths.Nodup
  complete : ∀ path, path ∈ paths ↔ (leads path).isSome = true
  places : paths.map leads = places.map some

section Snoc

variable {wrappers : List Wrapper} {path : List Nat} {number : Nat}

theorem followAny_append_left (before : number < wrappers.length) :
    followAny (wrappers ++ [wrapper]) (number :: path) = followAny wrappers (number :: path) := by
  rw [followAny, followAny, List.getElem?_append_left before]

theorem followAny_length :
    followAny (wrappers ++ [wrapper]) (wrappers.length :: path) = wrapper.follow path := by
  rw [followAny, List.getElem?_concat_length, Option.bind_some]

theorem lt_length_of_followAny (leads : (followAny wrappers (number :: path)).isSome = true) :
    number < wrappers.length := by
  obtain ⟨place, leads⟩ := Option.isSome_iff_exists.mp leads
  obtain ⟨first, found, -⟩ := Option.bind_eq_some_iff.mp leads
  exact (List.getElem?_eq_some_iff.mp found).1

/-- One more wrapper to begin with adds the paths that begin with its number. -/
theorem Enumerates.snoc {places : List Wrapper} {paths inner : List (List Nat)}
    (enumerates : Enumerates (followAny wrappers) paths places)
    (last : Enumerates wrapper.follow inner wrapper.withDependencies) :
    Enumerates (followAny (wrappers ++ [wrapper])) (paths ++ inner.map (wrappers.length :: ·))
      (places ++ wrapper.withDependencies) := by
  have inside {number : Nat} {path : List Nat} (member : number :: path ∈ paths) :
      number < wrappers.length :=
    lt_length_of_followAny ((enumerates.complete _).mp member)
  refine ⟨enumerates.nodup.append (last.nodup.map (List.cons_injective)) ?_, fun path => ?_, ?_⟩
  · intro path left right
    obtain ⟨rest, -, rfl⟩ := List.mem_map.mp right
    exact Nat.lt_irrefl _ (inside left)
  · cases path with
    | nil => simpa [followAny] using enumerates.complete []
    | cons number path =>
      by_cases before : number < wrappers.length
      · have other : wrappers.length ≠ number := Nat.ne_of_gt before
        rw [followAny_append_left before, ← enumerates.complete]
        simp [other]
      · have outside : number :: path ∉ paths := fun member => before (inside member)
        by_cases same : wrappers.length = number
        · subst same
          rw [followAny_length, ← last.complete]
          simp [outside]
        · have none : (wrappers ++ [wrapper])[number]? = none := by
            rw [List.getElem?_eq_none_iff, List.length_append, List.length_singleton]
            omega
          rw [followAny, none]
          simp [outside, same]
  · rw [List.map_append, List.map_append, List.map_map, ← enumerates.places, ← last.places]
    congr 1
    · refine List.map_congr_left fun path member => ?_
      cases path with
      | nil => rfl
      | cons number path => exact followAny_append_left (inside member)
    · exact List.map_congr_left fun path _ => followAny_length

end Snoc

theorem exists_enumerates_followAny {wrappers : List Wrapper}
    (each : ∀ wrapper ∈ wrappers,
      ∃ paths, Enumerates wrapper.follow paths wrapper.withDependencies) :
    ∃ paths, Enumerates (followAny wrappers) paths (wrappers.flatMap withDependencies) := by
  induction wrappers using List.reverseRecOn with
  | nil =>
    refine ⟨[], List.nodup_nil, fun path => ?_, rfl⟩
    cases path <;> simp [followAny]
  | append_singleton wrappers wrapper ih =>
    obtain ⟨before, last⟩ := List.forall_mem_append.mp each
    obtain ⟨paths, enumerates⟩ := ih before
    obtain ⟨inner, enumeratesLast⟩ := last wrapper (List.mem_singleton_self _)
    rw [List.flatMap_append, List.flatMap_singleton]
    exact ⟨_, enumerates.snoc enumeratesLast⟩

/-- A listing shows the end of each path, each path once. -/
theorem exists_enumerates (wrapper : Wrapper) :
    ∃ paths, Enumerates wrapper.follow paths wrapper.withDependencies := by
  induction bound : wrapper.size using Nat.strongRecOn generalizing wrapper with
  | ind size ih =>
    obtain ⟨paths, enumerates⟩ := exists_enumerates_followAny fun sibling member =>
      ih sibling.size (bound ▸ size_lt_of_mem_siblings member) sibling rfl
    refine ⟨[] :: paths, List.nodup_cons.mpr ⟨?_, enumerates.nodup⟩, fun path => ?_, ?_⟩
    · rw [enumerates.complete]
      nofun
    · cases path with
      | nil => simp [follow]
      | cons number path => simpa [follow, followAny] using enumerates.complete (number :: path)
    · rw [withDependencies_eq, List.map_cons, List.map_cons, ← enumerates.places]
      refine congrArg _ (List.map_congr_left fun path member => ?_)
      cases path with
      | nil => exact absurd ((enumerates.complete _).mp member) nofun
      | cons number path => rfl

/-! ## The ordering -/

/-- The loop of an ordering: a stack of tasks, the stamps of the wrappers expanded so far, and what
was put out. -/
structure Ordering where
  tasks : List OrderTask
  seen : List Nat
  out : List Wrapper

namespace Ordering

/-- One turn carries out the task on top of the stack. -/
def turn? : Ordering → Option Ordering
  | ⟨[], _, _⟩ => none
  | ⟨.emit wrapper :: tasks, seen, out⟩ => some ⟨tasks, seen, out ++ [wrapper]⟩
  | ⟨.expand wrapper :: tasks, seen, out⟩ =>
    if wrapper.stamp ∈ seen then some ⟨tasks, seen, out⟩
    else
      some ⟨(wrapper.siblingsExcept (wrapper.stamp :: seen)).map .expand ++ .emit wrapper :: tasks,
        wrapper.stamp :: seen, out⟩

theorem turn?_eq_none_iff {state : Ordering} : state.turn? = none ↔ state.tasks = [] := by
  obtain ⟨tasks, seen, out⟩ := state
  match tasks with
  | [] => exact iff_of_true rfl rfl
  | .emit wrapper :: tasks => exact iff_of_false nofun nofun
  | .expand wrapper :: tasks =>
    refine iff_of_false (fun ended => ?_) nofun
    rw [turn?] at ended
    split at ended <;> cases ended

/-- What the loop comes to. -/
def outcome (state : Ordering) : List Wrapper :=
  state.out ++ order state.tasks state.seen

/-- What is left to do if each wrapper of a list may be expanded once: the tasks on the stack, and
for each wrapper that was not seen itself and its references. -/
def work (wrappers : List Wrapper) (state : Ordering) : Nat :=
  let unseen := wrappers.filter fun wrapper => wrapper.stamp ∉ state.seen
  state.tasks.length + (unseen.map fun wrapper => 1 + wrapper.siblings.length).sum

/-- Every wrapper that is to be expanded is one of the list. -/
def Within (wrappers : List Wrapper) (state : Ordering) : Prop :=
  ∀ wrapper, .expand wrapper ∈ state.tasks → wrapper ∈ wrappers

variable {wrappers : List Wrapper} {seen : List Nat}

theorem sum_filter_add_le (weight : Wrapper → Nat) (keep : Wrapper → Bool)
    (member : wrapper ∈ wrappers) (dropped : keep wrapper = false) :
    ((wrappers.filter keep).map weight).sum + weight wrapper ≤ (wrappers.map weight).sum := by
  induction wrappers with
  | nil => cases member
  | cons first rest ih =>
    rw [List.map_cons, List.sum_cons]
    rcases List.mem_cons.mp member with rfl | member
    · have fewer : ((rest.filter keep).map weight).sum ≤ (rest.map weight).sum :=
        (List.filter_sublist.map weight).sum_le_sum fun _ _ => Nat.zero_le _
      rw [List.filter_cons_of_neg (by simp [dropped])]
      omega
    · have fewer := ih member
      rw [List.filter_cons]
      split
      · rw [List.map_cons, List.sum_cons]
        omega
      · omega

/-- A wrapper that is seen now leaves what is left to do. -/
theorem sum_unseen_add_le (weight : Wrapper → Nat) (member : wrapper ∈ wrappers)
    (unseen : wrapper.stamp ∉ seen) :
    ((wrappers.filter fun other => other.stamp ∉ wrapper.stamp :: seen).map weight).sum +
        weight wrapper ≤
      ((wrappers.filter fun other => other.stamp ∉ seen).map weight).sum := by
  have kept : wrapper ∈ wrappers.filter fun other => other.stamp ∉ seen :=
    List.mem_filter.mpr ⟨member, by simpa using unseen⟩
  have fewer := sum_filter_add_le weight (fun other => other.stamp ≠ wrapper.stamp) kept (by simp)
  rw [List.filter_filter] at fewer
  simpa only [List.mem_cons, not_or, Bool.decide_and] using fewer

/-- A turn lessens the work and keeps the outcome. -/
theorem turn?_cases
    (closed : ∀ wrapper ∈ wrappers, ∀ sibling ∈ wrapper.siblings, sibling ∈ wrappers)
    {state : Ordering} (within : state.Within wrappers) :
    state.turn? = none ∨ ∃ next, state.turn? = some next ∧
      next.work wrappers < state.work wrappers ∧ next.Within wrappers ∧
        next.outcome = state.outcome := by
  obtain ⟨tasks, seen, out⟩ := state
  cases tasks with
  | nil => exact .inl rfl
  | cons task tasks =>
    cases task with
    | emit wrapper =>
      refine .inr ⟨_, rfl, ?_, ?_, ?_⟩
      · simp only [work, List.length_cons]
        omega
      · exact fun other among => within other (List.mem_cons_of_mem _ among)
      · rw [outcome, outcome, order]
        simp
    | expand wrapper =>
      have member : wrapper ∈ wrappers := within wrapper (List.mem_cons_self ..)
      have later : ∀ other, .expand other ∈ tasks → other ∈ wrappers :=
        fun other among => within other (List.mem_cons_of_mem _ among)
      rw [turn?, outcome, order]
      split
      · refine .inr ⟨_, rfl, ?_, later, rfl⟩
        simp only [work, List.length_cons]
        omega
      · next unseen =>
        refine .inr ⟨_, rfl, ?_, ?_, rfl⟩
        · have fewer := sum_unseen_add_le (fun other => 1 + other.siblings.length) member unseen
          have kept :
              (wrapper.siblingsExcept (wrapper.stamp :: seen)).length ≤ wrapper.siblings.length :=
            List.length_filter_le ..
          simp only [work, List.length_append, List.length_map, List.length_cons]
          omega
        · intro other among
          rcases List.mem_append.mp among with below | among
          · obtain ⟨sibling, kept, same⟩ := List.mem_map.mp below
            obtain rfl := OrderTask.expand.inj same
            exact closed wrapper member sibling (List.mem_filter.mp kept).1
          · exact later other ((List.mem_cons.mp among).resolve_left (by simp))

end Ordering

/-- The loop ends with the order of annotation. It takes one turn for the wrapper and no more than
one for each wrapper and one for each reference below. -/
theorem exists_afterTurns?_ordering (distinguished : wrapper.Distinguished) :
    ∃ turns ≤ 1 + (wrapper.annotationOrder.map fun other => 1 + other.siblings.length).sum, ∃ seen,
      afterTurns? Ordering.turn? turns ⟨[.expand wrapper], [], []⟩ =
        some ⟨[], seen, wrapper.annotationOrder⟩ := by
  obtain ⟨-, ordered, -, members⟩ := annotationOrder_emits distinguished
  have closed : ∀ other ∈ wrapper.annotationOrder, ∀ sibling ∈ other.siblings,
      sibling ∈ wrapper.annotationOrder := by
    intro other member sibling depends
    exact (members sibling).mpr (((members other).mp member).tail depends)
  have within : Ordering.Within wrapper.annotationOrder ⟨[.expand wrapper], [], []⟩ := by
    intro other among
    obtain rfl := OrderTask.expand.inj (List.mem_singleton.mp among)
    exact (members other).mpr .refl
  have step (state : Ordering) (holds : state.Within wrapper.annotationOrder ∧
      state.outcome = wrapper.annotationOrder) : state.turn? = none ∨
        ∃ next, state.turn? = some next ∧
          next.work wrapper.annotationOrder < state.work wrapper.annotationOrder ∧
            next.Within wrapper.annotationOrder ∧ next.outcome = wrapper.annotationOrder := by
    refine (Ordering.turn?_cases closed holds.1).imp_right ?_
    rintro ⟨next, turned, less, inside, kept⟩
    exact ⟨next, turned, less, inside, kept.trans holds.2⟩
  obtain ⟨turns, few, ⟨tasks, seen, out⟩, reached, ended, -, same⟩ :=
    exists_afterTurns? step ⟨within, rfl⟩
  obtain rfl : tasks = [] := Ordering.turn?_eq_none_iff.mp ended
  rw [Ordering.outcome, order, List.append_nil] at same
  refine ⟨turns, ?_, seen, same ▸ reached⟩
  simpa [Ordering.work] using few

/-! ## On graphs -/

namespace Graph

variable {Node : Type} (graph : Graph Node)

/-- Where a path from a node leads: each number is that of a reference, counted from zero. -/
def follow : Node → List Nat → Option Node
  | node, [] => some node
  | node, number :: path => (graph.siblings node)[number]?.bind fun sibling => follow sibling path

theorem follow_wrapper (node : Node) (path : List Nat) :
    (graph.wrapper node).follow path = (graph.follow node path).map graph.wrapper := by
  induction path generalizing node with
  | nil => rfl
  | cons number path ih =>
    rw [Wrapper.follow, follow, siblings_wrapper, List.getElem?_map]
    cases (graph.siblings node)[number]? with
    | none => rfl
    | some sibling => exact ih sibling

theorem exists_nodes {root : Node} {wrappers : List Wrapper}
    (below : ∀ wrapper ∈ wrappers, (graph.wrapper root).Reaches wrapper) :
    ∃ nodes : List Node, nodes.map graph.wrapper = wrappers := by
  rw [← Set.mem_range, Set.range_list_map]
  intro wrapper member
  obtain ⟨node, -, same⟩ := graph.reaches_wrapper_iff.mp (below wrapper member)
  exact ⟨node, same⟩

/-- The order of annotation is a topological order of what a node reaches. Its loop ends, after a
number of turns that the number of nodes and of their references bounds; no node stands there twice,
each that is reached does, with all that it refers to before it, and the node itself comes last. -/
theorem annotationOrder_topological (root : Node) :
    ∃ order : List Node, (graph.wrapper root).annotationOrder = order.map graph.wrapper ∧
      (∃ turns ≤ 1 + (order.map fun node => 1 + (graph.siblings node).length).sum, ∃ seen,
        afterTurns? Ordering.turn? turns ⟨[.expand (graph.wrapper root)], [], []⟩ =
          some ⟨[], seen, order.map graph.wrapper⟩) ∧
      order.Nodup ∧ (∀ node, node ∈ order ↔ graph.Reaches root node) ∧
      (∀ before node after, order = before ++ node :: after →
        ∀ sibling ∈ graph.siblings node, sibling ∈ before) ∧
      order.getLast? = some root := by
  have distinguished : (graph.wrapper root).Distinguished := graph.distinguished_wrapper
  obtain ⟨⟨front, last⟩, ordered, stamps, members⟩ := annotationOrder_emits distinguished
  obtain ⟨turns, few, seen, ends⟩ := exists_afterTurns?_ordering distinguished
  obtain ⟨order, same⟩ := graph.exists_nodes fun wrapper member => (members wrapper).mp member
  rw [← same] at last ordered stamps members few ends
  have references (node : Node) :
      (graph.wrapper node).siblings.length = (graph.siblings node).length := by
    rw [siblings_wrapper, List.length_map]
  refine ⟨order, same.symm, ⟨turns, ?_, seen, ends⟩, stamps.of_map.of_map, fun node => ?_, ?_, ?_⟩
  · simpa [Function.comp_def, references] using few
  · rw [← List.mem_map_of_injective graph.wrapper_injective, members, graph.reaches_wrapper_iff]
    exact ⟨fun ⟨other, reaches, equal⟩ => graph.wrapper_injective equal ▸ reaches,
      fun reaches => ⟨node, reaches, rfl⟩⟩
  · rintro before node after rfl sibling depends
    rw [List.map_append, List.map_cons, ordered_append] at ordered
    have present := ordered.2.1 (graph.wrapper sibling)
    rw [siblings_wrapper, List.nil_append, List.mem_map_of_injective graph.wrapper_injective,
      List.mem_map_of_injective graph.wrapper_injective] at present
    exact present depends
  · have final := congrArg List.getLast? last
    rw [List.getLast?_concat, List.getLast?_map] at final
    obtain ⟨node, isLast, equal⟩ := Option.map_eq_some_iff.mp final
    rw [isLast, graph.wrapper_injective equal]

/-- The listing of a node comes from a loop of one turn for each path. It is the wrapper of the node
and the listings of what that refers to, in the order of reference; it runs through the paths down
from the node, each once, and shows where they lead; and it has the members of the order of
annotation. -/
theorem withDependencies_paths (root : Node) :
    afterTurns? Listing.turn? (graph.wrapper root).size ⟨[graph.wrapper root], []⟩ =
        some ⟨[], (graph.wrapper root).withDependencies⟩ ∧
      (graph.wrapper root).withDependencies = graph.wrapper root ::
        (graph.siblings root).flatMap (fun sibling => (graph.wrapper sibling).withDependencies) ∧
      (∃ paths nodes, Enumerates (graph.follow root) paths nodes ∧
        (graph.wrapper root).withDependencies = nodes.map graph.wrapper) ∧
      ∀ other, other ∈ (graph.wrapper root).withDependencies ↔
        other ∈ (graph.wrapper root).annotationOrder := by
  have distinguished : (graph.wrapper root).Distinguished := graph.distinguished_wrapper
  obtain ⟨-, -, -, members⟩ := annotationOrder_emits distinguished
  obtain ⟨paths, enumerates⟩ := exists_enumerates (graph.wrapper root)
  obtain ⟨nodes, same⟩ := graph.exists_nodes fun wrapper member => mem_withDependencies.mp member
  refine ⟨?_, ?_, ⟨paths, nodes, ?_, same.symm⟩, fun other => ?_⟩
  · have ends := afterTurns?_listing [graph.wrapper root] []
    rwa [sizeList_cons, sizeList, Nat.add_zero, List.nil_append] at ends
  · rw [withDependencies_eq, siblings_wrapper, List.flatMap_map]
  · refine ⟨enumerates.nodup, fun path => ?_, ?_⟩
    · rw [enumerates.complete, follow_wrapper, Option.isSome_map]
    · have places := enumerates.places
      have leads : (graph.wrapper root).follow = Option.map graph.wrapper ∘ graph.follow root :=
        funext (graph.follow_wrapper root)
      rw [← same, leads, ← List.map_map] at places
      refine List.map_injective_iff.mpr (Option.map_injective graph.wrapper_injective) ?_
      simpa [Function.comp_def] using places
  · rw [mem_withDependencies, members]

end Graph

/-- A base that two others refer to is listed for each of them, and ordered once. -/
example :
    let node (stamp : Nat) (name : String) (dependencies : List (String × Wrapper)) : Wrapper :=
      .mk stamp (.native .null) name ⟨0⟩ "T" dependencies
    let base := node 0 "base" []
    let left := node 1 "left" [("base", base)]
    let right := node 2 "right" [("base", base)]
    let top := node 3 "top" [("left", left), ("right", right)]
    top.withDependencies.map name = ["top", "left", "base", "right", "base"] ∧
      top.annotationOrder.map name = ["base", "left", "right", "top"] := by
  cbv

end Hybrid.Wrapper
