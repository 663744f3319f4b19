import Hybrid.Walk.Basic

/-! # Field references

The queries that dependency resolution rests on: the fields that an expression refers to, each
once in the order of first reference, and whether it refers to a given one. Both are walks, so the
depth of an expression is no limit.
-/

namespace Hybrid.Expr

/-- Notes the field at a node, unless it is noted already, or else goes on to the children. -/
def noteReference : Walk.Visitor (List String) Unit := fun visit names =>
  match visit.node.asField? with
  | some name => ([], if names.contains name then names else names ++ [name])
  | none => (Walk.descend visit.node (), names)

/-- The names of the fields referred to, in order of first reference. -/
def fieldReferences (expr : Expr) : List String :=
  Walk.walk expr () noteReference []

/-- Ends the walk at a reference to `name`, or else goes on to the children. -/
def seekReference (name : String) : Walk.Visitor Bool Unit := fun visit found =>
  if visit.node.asField? = some name then ([.clear], true)
  else (Walk.descend visit.node (), found)

/-- Whether the field `name` is referred to; the walk stops at the first reference. -/
def referencesField (expr : Expr) (name : String) : Bool :=
  Walk.walk expr () (seekReference name) false

/-- The number of nodes of a tree and its greatest depth. -/
structure Extent where
  nodes : Nat
  depth : Nat

/-- Counts the node and goes on to its children. -/
def measureNode : Walk.Visitor Extent Unit := fun visit extent =>
  (Walk.descend visit.node (), ⟨extent.nodes + 1, max extent.depth visit.depth⟩)

/-- How many nodes an expression has and how deep it is, the root being at depth zero. -/
def extent (expr : Expr) : Extent :=
  Walk.walk expr () measureNode ⟨0, 0⟩

end Hybrid.Expr
