import Mathlib.Data.Set.Finite.Basic
import Hybrid.Proofs.Wrapper.Order

/-! # Graphs of wrappers

Wrappers refer to each other, and a wrapper that several refer to is one wrapper: what a wrapper
depends on is a finite graph without cycles, of which the wrapper shows the paths. A graph tells its
wrappers apart by their stamps.
-/

namespace Hybrid.Wrapper

open Relation

/-- Finitely many wrappers, which have their stamps for identities, with what each refers to. None
depends on itself. -/
structure Graph (Node : Type) where
  stamp : Node → Nat
  expression : Node → Term
  name : Node → String
  owner : Node → ClassId
  ownerName : Node → String
  dependencies : Node → List (String × Node)
  identity : Function.Injective stamp
  finite : Finite Node
  acyclic : ∀ node,
    ¬ TransGen (fun node sibling => sibling ∈ (dependencies node).map (·.2)) node node

namespace Graph

variable {Node : Type} (graph : Graph Node) {node other : Node}

/-- What a node refers to, in the order of reference. -/
def siblings (node : Node) : List Node :=
  (graph.dependencies node).map (·.2)

/-- The first node depends on the second, or on one that does, or they are the same. -/
def Reaches : Node → Node → Prop :=
  ReflTransGen fun node sibling => sibling ∈ graph.siblings node

theorem wellFounded : WellFounded fun sibling node => sibling ∈ graph.siblings node := by
  have := graph.finite
  let below (other node : Node) : Prop :=
    TransGen (fun node sibling => sibling ∈ graph.siblings node) node other
  have transitive : IsTrans Node below := ⟨fun _ _ _ lower upper => upper.trans lower⟩
  have irreflexive : Std.Irrefl below := ⟨graph.acyclic⟩
  have single {sibling node : Node} (depends : sibling ∈ graph.siblings node) :
      below sibling node :=
    .single depends
  exact Subrelation.wf single (Finite.wellFounded_of_trans_of_irrefl below)

/-- The wrapper that a node stands for. -/
def wrapper (graph : Graph Node) (node : Node) : Wrapper :=
  .mk (graph.stamp node) (graph.expression node) (graph.name node) (graph.owner node)
    (graph.ownerName node)
    ((graph.dependencies node).attach.map fun dependency =>
      (dependency.val.1, graph.wrapper dependency.val.2))
termination_by graph.wellFounded.wrap node
decreasing_by
  exact List.mem_map_of_mem dependency.property

/-- The wrapper of a node, without the proofs that its recursion ends. -/
theorem wrapper_eq :
    graph.wrapper node =
      .mk (graph.stamp node) (graph.expression node) (graph.name node) (graph.owner node)
        (graph.ownerName node)
        ((graph.dependencies node).map fun dependency =>
          (dependency.1, graph.wrapper dependency.2)) := by
  have same := List.attach_map_val (l := graph.dependencies node)
    (f := fun dependency => (dependency.1, graph.wrapper dependency.2))
  rw [wrapper, same]

@[simp] theorem stamp_wrapper : (graph.wrapper node).stamp = graph.stamp node := by
  rw [wrapper_eq]
  rfl

@[simp] theorem siblings_wrapper :
    (graph.wrapper node).siblings = (graph.siblings node).map graph.wrapper := by
  rw [wrapper_eq, Wrapper.siblings, Wrapper.dependencies, siblings, List.map_map, List.map_map]
  rfl

theorem wrapper_injective : Function.Injective graph.wrapper := by
  intro first second same
  have stamps := congrArg Wrapper.stamp same
  simp only [stamp_wrapper] at stamps
  exact graph.identity stamps

/-- What a wrapper reaches is what its node reaches. -/
theorem reaches_wrapper_iff {below : Wrapper} :
    (graph.wrapper node).Reaches below ↔
      ∃ other, graph.Reaches node other ∧ graph.wrapper other = below := by
  constructor
  · intro reaches
    induction reaches with
    | refl => exact ⟨node, .refl, rfl⟩
    | tail _ depends ih =>
      obtain ⟨middle, reaches, rfl⟩ := ih
      rw [siblings_wrapper] at depends
      obtain ⟨sibling, member, rfl⟩ := List.mem_map.mp depends
      exact ⟨sibling, reaches.tail member, rfl⟩
  · rintro ⟨other, reaches, rfl⟩
    induction reaches with
    | refl => exact .refl
    | tail _ depends ih =>
      refine ih.tail ?_
      rw [siblings_wrapper]
      exact List.mem_map_of_mem depends

/-- Below the wrapper of a node, stamps tell wrappers apart. -/
theorem distinguished_wrapper : (graph.wrapper node).Distinguished := by
  intro first second reachesFirst reachesSecond same
  obtain ⟨one, -, rfl⟩ := graph.reaches_wrapper_iff.mp reachesFirst
  obtain ⟨other, -, rfl⟩ := graph.reaches_wrapper_iff.mp reachesSecond
  rw [stamp_wrapper, stamp_wrapper] at same
  rw [graph.identity same]

end Graph

section Below

variable {root : Wrapper} {node sibling other : { wrapper : Wrapper // root.Reaches wrapper }}

/-- What a wrapper below the root refers to, which is below the root as well. -/
def dependenciesBelow (node : { wrapper : Wrapper // root.Reaches wrapper }) :
    List (String × { wrapper : Wrapper // root.Reaches wrapper }) :=
  node.val.dependencies.attach.map fun dependency => (dependency.val.1,
    ⟨dependency.val.2, node.property.tail (List.mem_map_of_mem dependency.property)⟩)

theorem map_dependenciesBelow :
    (dependenciesBelow node).map (fun dependency => (dependency.1, dependency.2.val)) =
      node.val.dependencies := by
  rw [dependenciesBelow, List.map_map]
  exact (List.attach_map_val (f := id)).trans (List.map_id _)

theorem mem_siblings_of_below (depends : sibling ∈ (dependenciesBelow node).map (·.2)) :
    sibling.val ∈ node.val.siblings := by
  obtain ⟨dependency, member, rfl⟩ := List.mem_map.mp depends
  exact List.mem_map.mpr ⟨_, map_dependenciesBelow ▸ List.mem_map_of_mem member, rfl⟩

theorem size_lt_of_below (below : TransGen
      (fun node sibling => sibling ∈ (dependenciesBelow node).map (·.2)) node other) :
    other.val.size < node.val.size := by
  induction below with
  | single depends => exact size_lt_of_mem_siblings (mem_siblings_of_below depends)
  | tail _ depends ih => exact (size_lt_of_mem_siblings (mem_siblings_of_below depends)).trans ih

/-- The graph of all that a wrapper reaches, if stamps tell that apart. -/
def Distinguished.graph (distinguished : root.Distinguished) :
    Graph { wrapper : Wrapper // root.Reaches wrapper } where
  stamp node := node.val.stamp
  expression node := node.val.expression
  name node := node.val.name
  owner node := node.val.owner
  ownerName node := node.val.ownerName
  dependencies := dependenciesBelow
  identity := fun first second same =>
    Subtype.ext (distinguished first second first.property second.property same)
  finite := by
    obtain ⟨-, -, -, members⟩ := annotationOrder_emits distinguished
    refine (root.annotationOrder.finite_toSet.subset fun wrapper reaches => ?_).to_subtype
    exact (members wrapper).mpr reaches
  acyclic := fun _ circle => Nat.lt_irrefl _ (size_lt_of_below circle)

/-- Every wrapper below which stamps tell wrappers apart stands for a node of a graph. -/
theorem Distinguished.wrapper_graph (distinguished : root.Distinguished) :
    distinguished.graph.wrapper node = node.val := by
  induction node using distinguished.graph.wellFounded.induction with
  | h node ih =>
    have inner : (dependenciesBelow node).map
        (fun dependency => (dependency.1, distinguished.graph.wrapper dependency.2)) =
          node.val.dependencies := by
      refine (List.map_congr_left fun dependency member => ?_).trans map_dependenciesBelow
      rw [ih dependency.2 (List.mem_map_of_mem member)]
    have eta : node.val = .mk node.val.stamp node.val.expression node.val.name node.val.owner
        node.val.ownerName node.val.dependencies := by
      cases node.val
      rfl
    rw [distinguished.graph.wrapper_eq, eta, ← inner]
    rfl

end Below

end Hybrid.Wrapper
