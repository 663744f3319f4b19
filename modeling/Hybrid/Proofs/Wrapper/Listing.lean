import Hybrid.Wrapper

/-! # What wrappers show

A stamp tells a wrapper apart from equal ones, and that is all that it does. What is listed of a
wrapper and of all that it depends on is the same for any stamps.
-/

namespace Hybrid.Wrapper

mutual

/-- The wrapper with the same stamp everywhere, down to all that it depends on. -/
def unstamped : Wrapper → Wrapper
  | mk _ expression name owner ownerName dependencies =>
    mk 0 expression name owner ownerName (unstampedDependencies dependencies)

/-- The dependencies with the same stamp everywhere. -/
def unstampedDependencies : List (String × Wrapper) → List (String × Wrapper)
  | [] => []
  | dependency :: rest => unstampedDependency dependency :: unstampedDependencies rest

/-- The dependency with the same stamp everywhere. -/
def unstampedDependency : String × Wrapper → String × Wrapper
  | (name, wrapper) => (name, unstamped wrapper)

end

mutual

@[simp] theorem unstamped_unstamped : ∀ wrapper : Wrapper, wrapper.unstamped.unstamped = wrapper.unstamped
  | mk stamp expression name owner ownerName dependencies => by
    rw [unstamped, unstamped, unstampedDependencies_unstamped dependencies]

private theorem unstampedDependencies_unstamped : ∀ dependencies : List (String × Wrapper),
    unstampedDependencies (unstampedDependencies dependencies) = unstampedDependencies dependencies
  | [] => rfl
  | dependency :: rest => by
    rw [unstampedDependencies, unstampedDependencies, unstampedDependency_unstamped dependency,
      unstampedDependencies_unstamped rest]

private theorem unstampedDependency_unstamped : ∀ dependency : String × Wrapper,
    unstampedDependency (unstampedDependency dependency) = unstampedDependency dependency
  | (name, wrapper) => by
    rw [unstampedDependency, unstampedDependency, unstamped_unstamped wrapper]

end

theorem unstampedDependencies_eq (dependencies : List (String × Wrapper)) :
    unstampedDependencies dependencies =
      dependencies.map fun dependency => (dependency.1, dependency.2.unstamped) := by
  induction dependencies with
  | nil => rfl
  | cons dependency rest ih =>
    obtain ⟨name, wrapper⟩ := dependency
    rw [unstampedDependencies, unstampedDependency, ih, List.map_cons]

/-- The names of dependencies have no stamps. -/
theorem unstampedDependencies_names (dependencies : List (String × Wrapper)) :
    (unstampedDependencies dependencies).map (·.1) = dependencies.map (·.1) := by
  rw [unstampedDependencies_eq, List.map_map]
  rfl

@[simp] theorem expression_unstamped (wrapper : Wrapper) :
    wrapper.unstamped.expression = wrapper.expression := by
  cases wrapper
  rfl

theorem dependencies_unstamped (wrapper : Wrapper) :
    wrapper.unstamped.dependencies = unstampedDependencies wrapper.dependencies := by
  cases wrapper
  rfl

theorem siblings_unstamped (wrapper : Wrapper) :
    wrapper.unstamped.siblings = wrapper.siblings.map unstamped := by
  rw [siblings, siblings, dependencies_unstamped, unstampedDependencies_eq, List.map_map,
    List.map_map]
  rfl

/-- What is listed of a wrapper: class, name of the class, name and expression. -/
def entry (wrapper : Wrapper) : ClassId × String × String × Term :=
  (wrapper.owner, wrapper.ownerName, wrapper.name, wrapper.expression)

/-- What is listed of this wrapper and of what it depends on, in order. -/
def listing (wrapper : Wrapper) : List (ClassId × String × String × Term) :=
  wrapper.withDependencies.map entry

private theorem entry_unstamped (wrapper : Wrapper) : wrapper.unstamped.entry = wrapper.entry := by
  cases wrapper
  rfl

private theorem listDependencies_unstamped (stack : List Wrapper) :
    listDependencies (stack.map unstamped) = (listDependencies stack).map unstamped := by
  induction stack using listDependencies.induct with
  | case1 => rw [List.map_nil, listDependencies, List.map_nil]
  | case2 wrapper stack ih =>
    rw [List.map_cons, listDependencies, listDependencies, List.map_cons, siblings_unstamped,
      ← List.map_append, ih]

/-- No stamp is listed. -/
theorem listing_unstamped (wrapper : Wrapper) : wrapper.unstamped.listing = wrapper.listing := by
  have single : [wrapper.unstamped] = [wrapper].map unstamped := rfl
  unfold listing withDependencies
  rw [single, listDependencies_unstamped, List.map_map]
  exact List.map_congr_left fun other _ => entry_unstamped other

end Hybrid.Wrapper
