import Hybrid.Class
import Hybrid.Expr.Substitution

/-! # Class-level results of hybrids

A wrapper holds what reading a hybrid on a class gave: the expression, and for each sibling hybrid
that the expression refers to by name the wrapper of that sibling. Wrappers share siblings, so
together they form a graph; the stamp of a wrapper tells it apart from equal ones.
-/

namespace Hybrid

/-- The result of reading a hybrid on a class. -/
inductive Wrapper where
  | mk (stamp : Nat) (expression : Term) (name : String) (owner : ClassId) (ownerName : String)
    (dependencies : List (String × Wrapper))

namespace Wrapper

/-- The number that tells a wrapper apart from equal ones. -/
def stamp : Wrapper → Nat
  | mk stamp _ _ _ _ _ => stamp

/-- What the function of the hybrid gave. -/
def expression : Wrapper → Term
  | mk _ expression _ _ _ _ => expression

/-- The name of the hybrid. -/
def name : Wrapper → String
  | mk _ _ name _ _ _ => name

/-- The class that the hybrid was read on. -/
def owner : Wrapper → ClassId
  | mk _ _ _ owner _ _ => owner

def ownerName : Wrapper → String
  | mk _ _ _ _ ownerName _ => ownerName

/-- The hybrids that the expression refers to, under the names that it uses. -/
def dependencies : Wrapper → List (String × Wrapper)
  | mk _ _ _ _ _ dependencies => dependencies

/-- The wrappers of the hybrids that the expression refers to. -/
def siblings (wrapper : Wrapper) : List Wrapper :=
  wrapper.dependencies.map (·.2)

/-- Equality of class, name and expression; dependencies do not count. -/
def beq (a b : Wrapper) : Bool :=
  a.owner = b.owner && a.name = b.name && a.expression == b.expression

instance : BEq Wrapper := ⟨beq⟩

def display (wrapper : Wrapper) : String :=
  wrapper.ownerName ++ "." ++ wrapper.name ++ " = " ++ wrapper.expression.display

mutual

/-- The number of paths down from a wrapper, itself included. -/
def size : Wrapper → Nat
  | mk _ _ _ _ _ dependencies => 1 + sizeDependencies dependencies

/-- The number of paths down from the dependencies. -/
def sizeDependencies : List (String × Wrapper) → Nat
  | [] => 0
  | dependency :: rest => sizeDependency dependency + sizeDependencies rest

/-- The number of paths down from one dependency. -/
def sizeDependency : String × Wrapper → Nat
  | (_, wrapper) => size wrapper

end

/-- The number of paths down from wrappers. -/
def sizeList : List Wrapper → Nat
  | [] => 0
  | wrapper :: rest => wrapper.size + sizeList rest

theorem sizeDependencies_eq (dependencies : List (String × Wrapper)) :
    sizeDependencies dependencies = sizeList (dependencies.map (·.2)) := by
  induction dependencies with
  | nil => rfl
  | cons dependency rest ih =>
    rw [sizeDependencies, ih, sizeDependency]
    rfl

theorem size_eq (wrapper : Wrapper) : wrapper.size = 1 + sizeList wrapper.siblings := by
  cases wrapper
  rw [size, sizeDependencies_eq]
  rfl

theorem sizeList_append (first second : List Wrapper) :
    sizeList (first ++ second) = sizeList first + sizeList second := by
  induction first with
  | nil => simp [sizeList]
  | cons wrapper rest ih => simp only [List.cons_append, sizeList, ih]; omega

theorem sizeList_cons (wrapper : Wrapper) (rest : List Wrapper) :
    sizeList (wrapper :: rest) = wrapper.size + sizeList rest := rfl

/-- The wrappers of a stack, each followed by what it depends on. -/
def listDependencies : List Wrapper → List Wrapper
  | [] => []
  | wrapper :: stack => wrapper :: listDependencies (wrapper.siblings ++ stack)
termination_by stack => sizeList stack
decreasing_by
  rw [sizeList_append, sizeList_cons, size_eq wrapper]
  omega

/-- This wrapper and what it depends on, depth first in the order of reference; a wrapper that is
reached on several paths stands there once for each. -/
def withDependencies (wrapper : Wrapper) : List Wrapper :=
  listDependencies [wrapper]

/-- A step of the ordering: expand a wrapper, or put it out after what it depends on. -/
inductive OrderTask where
  | expand (wrapper : Wrapper)
  | emit (wrapper : Wrapper)

/-- The work left in a task, as a bound on the number of steps that it takes. -/
def OrderTask.work : OrderTask → Nat
  | .expand wrapper => 2 * wrapper.size
  | .emit _ => 1

/-- The work left in several tasks. -/
def OrderTask.workList : List OrderTask → Nat
  | [] => 0
  | task :: rest => task.work + workList rest

theorem OrderTask.workList_append (first second : List OrderTask) :
    workList (first ++ second) = workList first + workList second := by
  induction first with
  | nil => simp [workList]
  | cons task rest ih => simp only [List.cons_append, workList, ih]; omega

theorem work_expand_le (wrappers : List Wrapper) (keep : Wrapper → Bool) :
    OrderTask.workList ((wrappers.filter keep).map .expand) ≤ 2 * sizeList wrappers := by
  induction wrappers with
  | nil => exact Nat.le_refl _
  | cons wrapper rest ih =>
    rw [sizeList_cons, List.filter_cons]
    split
    · simp only [List.map_cons, OrderTask.workList, OrderTask.work]
      omega
    · omega

/-- The wrappers that this one refers to, without those of the given stamps. -/
def siblingsExcept (wrapper : Wrapper) (seen : List Nat) : List Wrapper :=
  wrapper.siblings.filter fun sibling => sibling.stamp ∉ seen

/-- Carries out the tasks; `seen` are the stamps of the wrappers expanded so far. -/
def order : List OrderTask → (seen : List Nat) → List Wrapper
  | [], _ => []
  | .emit wrapper :: tasks, seen => wrapper :: order tasks seen
  | .expand wrapper :: tasks, seen =>
    if wrapper.stamp ∈ seen then order tasks seen
    else
      order ((wrapper.siblingsExcept (wrapper.stamp :: seen)).map .expand ++ .emit wrapper :: tasks)
        (wrapper.stamp :: seen)
termination_by tasks => OrderTask.workList tasks
decreasing_by
  · simp only [OrderTask.workList, OrderTask.work]
    omega
  · simp only [OrderTask.workList, OrderTask.work, size_eq wrapper]
    omega
  · have := work_expand_le wrapper.siblings fun sibling => sibling.stamp ∉ wrapper.stamp :: seen
    simp only [OrderTask.workList_append, OrderTask.workList, OrderTask.work, siblingsExcept,
      size_eq wrapper] at this ⊢
    omega

/-- Everything that this wrapper depends on and itself last, each once and after all that it
depends on. -/
def annotationOrder (wrapper : Wrapper) : List Wrapper :=
  order [.expand wrapper] []

/-- The expression with the inlined dependencies in the place of their names; the first dependency
of a name counts. -/
def inlineWith (expression : Term) (dependencies : List (String × Term)) : Term :=
  match expression with
  | .native value => .native value
  | .symbolic expr =>
    .symbolic (expr.substitute fun name => (dependencies.lookup name).map Term.toExpr)

mutual

/-- The expression with every reference to a hybrid replaced by the inlined expression of that
hybrid. What the expression does not refer to is not looked at. -/
def inline : Wrapper → Term
  | mk _ expression _ _ _ dependencies =>
    inlineWith expression (inlineDependencies expression.fieldReferences dependencies)

/-- The first dependency of each name in `wanted`, with its inlined expression. -/
def inlineDependencies (wanted : List String) : List (String × Wrapper) → List (String × Term)
  | [] => []
  | dependency :: rest =>
    if dependency.1 ∈ wanted then
      inlineDependency dependency :: inlineDependencies (wanted.filter (· ≠ dependency.1)) rest
    else inlineDependencies wanted rest

/-- The name of a dependency with its inlined expression. -/
def inlineDependency : String × Wrapper → String × Term
  | (name, wrapper) => (name, inline wrapper)

end

/-- Inlining finds under a wanted name what it would find if all dependencies were inlined. -/
theorem lookup_inlineDependencies {name : String} {wanted : List String} (h : name ∈ wanted)
    (dependencies : List (String × Wrapper)) :
    (inlineDependencies wanted dependencies).lookup name =
      (dependencies.lookup name).map inline := by
  induction dependencies generalizing wanted with
  | nil => rfl
  | cons dependency rest ih =>
    obtain ⟨key, wrapper⟩ := dependency
    rw [inlineDependencies]
    by_cases same : name = key
    · subst same
      simp [h, inlineDependency]
    · have other : (name == key) = false := by simpa using same
      split
      · rw [inlineDependency, List.lookup_cons, List.lookup_cons, other]
        exact ih (by simp [h, same])
      · rw [List.lookup_cons, other]
        exact ih h

end Wrapper

end Hybrid
