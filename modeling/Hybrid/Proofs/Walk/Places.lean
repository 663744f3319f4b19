import Mathlib.Data.List.Lex
import Hybrid.Proofs.Expr.Structure
import Hybrid.Proofs.Walk.Agendas

/-! # The places of an expression

A node of an expression is told apart from its equals by its place, the way down to it. The agenda
`numbered` passes each child its place as its input, and unfolds into every node of the expression,
each once, with its true distance from the root. So a walk whose inputs tell the places, and that
schedules every child once, is a `Tour`, whatever the modes are.
-/

namespace Hybrid

/-- The node at a place: each number is that of a child, counted from zero. -/
def Expr.at? : Expr → List Nat → Option Expr
  | expr, [] => some expr
  | expr, number :: place => expr.children[number]?.bind fun child => child.at? place

namespace Walk

variable {σ ι : Type}

/-- Every child once, from left to right, with an input that is given by its number. -/
def eachChild (node : Expr) (given : Nat → ι) : List (Child node × ι) :=
  (childrenOf node).zipIdx.map fun (child, number) => (child, given number)

/-- A place in an expression: the numbers of the children on the way down to it. -/
abbrev Place := List Nat

/-- Every child once, with its place. -/
def numbered : Agenda Place := fun visit =>
  eachChild visit.node fun number => visit.input ++ [number]

section Numbered

variable {node : Expr} {number : Nat} {depth : Nat} {place : Place} {visit : Visit Place}

theorem mem_zipIdx_childrenOf {child : Child node} :
    (child, number) ∈ (childrenOf node).zipIdx ↔ node.children[number]? = some child.val := by
  have children : node.children[number]? = (childrenOf node)[number]?.map Subtype.val := by
    rw [← List.getElem?_map, childrenOf, List.attach_map_subtype_val]
  rw [List.mk_mem_zipIdx_iff_getElem?, children, Option.map_eq_some_iff]
  constructor
  · exact fun there => ⟨child, there, rfl⟩
  · rintro ⟨other, there, same⟩
    rwa [← Subtype.ext same]

theorem mem_eachChild {given : Nat → ι} {request : Child node × ι} :
    request ∈ eachChild node given ↔
      ∃ number, node.children[number]? = some request.1.val ∧ request.2 = given number := by
  obtain ⟨child, input⟩ := request
  simp only [eachChild, List.mem_map, Prod.exists, Prod.mk.injEq]
  constructor
  · rintro ⟨_, number, member, rfl, rfl⟩
    exact ⟨number, mem_zipIdx_childrenOf.mp member, rfl⟩
  · rintro ⟨number, there, rfl⟩
    exact ⟨child, number, mem_zipIdx_childrenOf.mpr there, rfl, rfl⟩

theorem numbers_increasing (node : Expr) :
    ((childrenOf node).zipIdx.map Prod.snd).Pairwise (· < ·) := by
  rw [List.zipIdx_map_snd]
  exact List.pairwise_lt_range'

/-- The agenda leads to what is at the places below, each with its distance from where it began. -/
theorem mem_unfolding_numbered :
    visit ∈ numbered.unfolding ⟨node, depth, place⟩ ↔
      ∃ way, node.at? way = some visit.node ∧ visit.depth = depth + way.length ∧
        visit.input = place ++ way := by
  induction node using Expr.induction_children generalizing depth place with
  | step node ih =>
    rw [Agenda.unfolding, List.mem_cons, List.mem_flatMap]
    constructor
    · rintro (rfl | ⟨⟨child, _⟩, listed, below⟩)
      · exact ⟨[], rfl, rfl, (List.append_nil _).symm⟩
      · obtain ⟨number, there, rfl⟩ := mem_eachChild.mp listed
        obtain ⟨way, found, deep, input⟩ := (ih child.val child.property).mp below
        refine ⟨number :: way, ?_, ?_, ?_⟩
        · rw [Expr.at?, there, Option.bind_some, found]
        · change visit.depth = depth + 1 + way.length at deep
          rw [deep, List.length_cons]
          omega
        · rw [input, List.append_assoc, List.singleton_append]
    · rintro ⟨_ | ⟨number, way⟩, found, deep, input⟩
      · left
        obtain ⟨node, depth, place⟩ := visit
        cases found
        simp_all
      · right
        rw [Expr.at?] at found
        obtain ⟨child, there, found⟩ := Option.bind_eq_some_iff.mp found
        have member : child ∈ node.children := List.mem_of_getElem? there
        refine ⟨(⟨child, member⟩, place ++ [number]), mem_eachChild.mpr ⟨number, there, rfl⟩, ?_⟩
        refine (ih child member).mpr ⟨way, found, ?_, ?_⟩
        · change visit.depth = depth + 1 + way.length
          rw [deep, List.length_cons]
          omega
        · rw [input, List.append_assoc, List.singleton_append]

theorem lt_append_cons (place way : Place) (number : Nat) : place < place ++ number :: way := by
  have after : place ++ [] < place ++ number :: way := List.Lex.append_left _ List.Lex.nil place
  rwa [List.append_nil] at after

/-- What is below a child comes before what is below a child to the right of it. -/
theorem append_lt_append {number other : Nat} (left : number < other) (way across : Place) :
    place ++ number :: way < place ++ other :: across :=
  List.Lex.append_left _ (List.Lex.rel left) place

/-- The agenda unfolds from left to right: the places that it leads to are in lexicographic order. -/
theorem unfolding_numbered_sorted (node : Expr) (depth : Nat) (place : Place) :
    ((numbered.unfolding ⟨node, depth, place⟩).map (·.input)).Pairwise (· < ·) := by
  induction node using Expr.induction_children generalizing depth place with
  | step node ih =>
    have below {child : Child node} {number : Nat} {other : Place}
        (member : other ∈ (numbered.unfolding ⟨child.val, depth + 1, place ++ [number]⟩).map
          (·.input)) : ∃ way, other = place ++ number :: way := by
      obtain ⟨visit, inside, rfl⟩ := List.mem_map.mp member
      obtain ⟨way, -, -, input⟩ := mem_unfolding_numbered.mp inside
      exact ⟨way, by rw [input, List.append_assoc, List.singleton_append]⟩
    rw [Agenda.unfolding, List.map_cons, List.pairwise_cons, List.map_flatMap, numbered, eachChild,
      List.flatMap_map, List.pairwise_flatMap]
    refine ⟨fun other member => ?_, fun request _ => ?_, ?_⟩
    · obtain ⟨⟨child, number⟩, -, member⟩ := List.mem_flatMap.mp member
      obtain ⟨way, rfl⟩ := below member
      exact lt_append_cons ..
    · exact ih request.1.val request.1.property _ _
    · refine (List.pairwise_map.mp (numbers_increasing node)).imp
        fun left first member second member' => ?_
      obtain ⟨way, rfl⟩ := below member
      obtain ⟨across, rfl⟩ := below member'
      exact append_lt_append left way across

end Numbered

/-! ## Tours -/

/-- Visits that take in every node of an expression once. The places say which node each visit is of:
the node is there, at its true distance from the root; each place of the expression is one of them,
once, and behind the place above it. -/
structure Tour (expr : Expr) (visits : List (Visit ι)) (places : List Place) : Prop where
  nodes : List.Forall₂ (fun visit place => expr.at? place = some visit.node ∧
    visit.depth = place.length) visits places
  once : places.Nodup
  all : ∀ place, place ∈ places ↔ (expr.at? place).isSome = true
  parents : ∀ before place number after,
    places = before ++ (place ++ [number]) :: after → place ∈ before

section PassesPlaces

variable {visitor : Visitor σ ι} {mark : ι → Place} {expr : Expr} {input : ι} {state : σ}

/-- Where the inputs tell the places, a visit was scheduled by an earlier one at the place above. -/
theorem exists_parent (passes : visitor.SchedulesMarked mark numbered) (root : mark input = [])
    {before later : List (Turn σ ι)} {turn : Turn σ ι} {place : Place} {number : Nat}
    (split : turns expr input visitor state = before ++ turn :: later)
    (below : mark turn.visit.input = place ++ [number]) :
    ∃ parent ∈ before, mark parent.visit.input = place ∧ turn.visit ∈ parent.scheduled visitor := by
  rcases (stems_of_turnsFrom split).mem_or_scheduled with member | ⟨parent, earlier, made⟩
  · rw [List.mem_singleton.mp member, root] at below
    exact absurd below.symm (List.append_ne_nil_of_right_ne_nil _ (List.cons_ne_nil _ _))
  · obtain ⟨request, listed, same⟩ := passes.mem_scheduled made
    obtain ⟨position, -, passed⟩ := mem_eachChild.mp listed
    have marked : request.2 = mark turn.visit.input := congrArg Visit.input same
    have above := List.append_inj' (passed.symm.trans (marked.trans below)) rfl
    exact ⟨parent, earlier, above.1, made⟩

/-- A walk that schedules every child once and passes it its place is a tour, whatever the modes. -/
theorem tour_of_passes (passes : visitor.SchedulesMarked mark numbered) (root : mark input = []) :
    Tour expr (visits expr input visitor state)
      ((visits expr input visitor state).map fun visit => mark visit.input) := by
  have made := passes.visits_perm_unfolding expr input state
  rw [root] at made
  have places := made.map (·.input)
  rw [List.map_map] at places
  refine ⟨?_, ?_, fun place => ?_, fun before place number after split => ?_⟩
  · rw [List.forall₂_map_right_iff, List.forall₂_same]
    intro visit member
    obtain ⟨way, found, deep, passed⟩ :=
      mem_unfolding_numbered.mp (made.subset (List.mem_map_of_mem member))
    obtain rfl : mark visit.input = way := passed
    exact ⟨found, deep.trans (Nat.zero_add _)⟩
  · have sorted := unfolding_numbered_sorted expr 0 []
    exact places.nodup_iff.mpr (sorted.imp fun less => ne_of_lt less)
  · refine places.mem_iff.trans ?_
    rw [List.mem_map, Option.isSome_iff_exists]
    constructor
    · rintro ⟨visit, member, rfl⟩
      obtain ⟨way, found, -, passed⟩ := mem_unfolding_numbered.mp member
      obtain rfl : visit.input = way := passed
      exact ⟨_, found⟩
    · rintro ⟨node, found⟩
      have member : (⟨node, 0 + place.length, place⟩ : Visit Place) ∈
          numbered.unfolding ⟨expr, 0, []⟩ :=
        mem_unfolding_numbered.mpr ⟨place, found, rfl, rfl⟩
      exact ⟨_, member, rfl⟩
  · rw [visits_eq, List.map_map] at split
    obtain ⟨earlier, rest, turnsSplit, rfl, tail⟩ := List.map_eq_append_iff.mp split
    obtain ⟨turn, later, rfl, below, rfl⟩ := List.map_eq_cons_iff.mp tail
    obtain ⟨parent, member, above, -⟩ := exists_parent passes root turnsSplit below
    exact List.mem_map.mpr ⟨parent, member, above⟩

/-- So a walk is a tour if it does the same as one that also passes the places. -/
theorem tour_of_relabels {other : Visitor σ (ι × Place)} (relabels : other.Relabels Prod.fst visitor)
    (passes : other.SchedulesMarked Prod.snd numbered) (expr : Expr) (input : ι) (state : σ) :
    Tour expr (visits expr input visitor state)
      ((turns expr (input, []) other state).map (·.visit.input.2)) := by
  have tour : Tour expr (visits expr (input, []) other state) _ := tour_of_passes passes rfl
  have places : ((visits expr (input, []) other state).map fun visit => visit.input.2) =
      (turns expr (input, []) other state).map (·.visit.input.2) := by
    rw [visits_eq, List.map_map]
    rfl
  rw [← places]
  refine ⟨?_, tour.once, tour.all, tour.parents⟩
  rw [show input = Prod.fst (input, ([] : Place)) from rfl, relabels.visits_map]
  exact List.forall₂_map_left_iff.mpr tour.nodes

end PassesPlaces

end Walk

end Hybrid
