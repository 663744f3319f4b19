import Mathlib.Logic.Relation
import Hybrid.Proofs.Body.Leaves
import Hybrid.Proofs.Reading.History
import Hybrid.Proofs.Term.Folding

/-! # The graph of readings

A reading is an attribute in a scope, on a class or on an instance of it. It needs the readings that
its function may make, and on a class also those of the names that its expression may hold or that
the registry lists. Both are read off the text of the functions: which of its leaves a function
reaches, and in which state, does not matter.
-/

namespace Hybrid

open Relation

/-- An attribute in a scope. -/
structure Reading where
  scope : Scope
  name : String

/-- The hybrid that is read, if the attribute is one. -/
def Reading.hybrid? (reading : Reading) : Option Descriptor :=
  match reading.scope.modelClass.attribute? reading.name with
  | some (.hybrid descriptor) => some descriptor
  | _ => none

theorem Reading.hybrid?_eq_some (scope : Scope) {name : String} {descriptor : Descriptor}
    (declared : scope.modelClass.attribute? name = some (.hybrid descriptor)) :
    (Reading.mk scope name).hybrid? = some descriptor := by
  unfold Reading.hybrid?
  dsimp only
  rw [declared]

theorem Reading.attribute?_of_hybrid? {reading : Reading} {descriptor : Descriptor}
    (hybrid : reading.hybrid? = some descriptor) :
    reading.scope.modelClass.attribute? reading.name = some (.hybrid descriptor) := by
  unfold Reading.hybrid? at hybrid
  split at hybrid
  · next found declared => rw [declared, Option.some.inj hybrid]
  · cases hybrid

/-- Reads the attribute, and takes the expression of the wrapper if it is read on a class. -/
def Reading.read (reading : Reading) (directory : Directory) : Action Term :=
  match reading.scope with
  | .onClass modelClass => do
    return (← modelClass.get directory reading.name).expression
  | .onInstance modelClass key => do
    return (← modelClass.getFor directory key reading.name).content

/-- The instance of that name, or the scope's own. -/
def Directory.instanceOf? (directory : Directory) (scope : Scope) : Option String → Option InstanceId
  | some name => directory.instances.get? name
  | none => scope.instance?

theorem Directory.instanceOf_eq (directory : Directory) (scope : Scope) (name? : Option String) :
    directory.instanceOf scope name? =
      match directory.instanceOf? scope name? with
      | some key => pure key
      | none => throw (missing "instance") := by
  cases name? <;> rfl

/-- What a leaf of a program reads. -/
def Directory.target? (directory : Directory) (scope : Scope) : Body → Option Reading
  | .byName name =>
    match scope with
    | .onClass _ => none
    | .onInstance _ _ => some ⟨scope, name⟩
  | .byValue name => some ⟨scope, name⟩
  | .ofClass modelClass name => do
    let modelClass ← directory.classes.get? modelClass
    return ⟨.onClass modelClass, name⟩
  | .ofInstance modelClass instance? name => do
    let modelClass ← directory.classes.get? modelClass
    let key ← directory.instanceOf? scope instance?
    return ⟨.onInstance modelClass key, name⟩
  | _ => none

/-- The names that a leaf of a program puts into an expression by itself. -/
def Scope.written (scope : Scope) : Body → List String
  | .expression expr => expr.occurrences
  | .reference name => [name]
  | .byName name =>
    match scope with
    | .onClass _ => [name]
    | .onInstance _ _ => []
  | .byValue name =>
    match scope, scope.modelClass.attribute? name with
    | .onClass _, some .field => [name]
    | _, _ => []
  | _ => []

/-- Operations on terms put no name into them. -/
theorem Term.closed_occurrences (holds : String → Prop) :
    Term.Closed fun term => ∀ name ∈ term.occurrences, holds name where
  native _ := nofun
  combine left right combined name occurs := by
    rw [Term.occurrences_combine combined] at occurs
    exact (List.mem_append.mp occurs).elim (left name) (right name)
  negate operand negated name occurs := by
    rw [Term.occurrences_negate negated] at occurs
    exact operand name occurs
  call all called name occurs := by
    rw [Term.occurrences_call called] at occurs
    obtain ⟨argument, member, occurs⟩ := List.mem_flatMap.mp occurs
    exact all argument member name occurs

/-- The names that a rule has expressions depend on besides those that they refer to. -/
def WrappingRule.names : WrappingRule → List String
  | .standard => []
  | .listed _ names => names
  | .enclosing _ names => names

namespace Registry

/-- The names that the capabilities of a registry list. -/
def listed (registry : Registry) : List String :=
  registry.contents.flatMap (·.rule.names)

theorem occurrences_wrap (registry : Registry) (term : Term) :
    (registry.wrap term).toTerm.occurrences = term.occurrences := by
  unfold wrap
  split
  · rfl
  · next capability _ =>
    split
    · rfl
    · cases capability.rule with
      | enclosing native names => exact List.append_nil _
      | _ => rfl

/-- A wrapped term depends on names that it refers to or that the registry lists. -/
theorem dependencies_wrap {registry : Registry} {term : Term} {name : String}
    (depends : name ∈ (registry.wrap term).dependencies) :
    name ∈ term.occurrences ∨ name ∈ registry.listed := by
  unfold wrap at depends
  split at depends
  · cases depends
  · next capability charged =>
    have listed (member : name ∈ capability.rule.names) : name ∈ registry.listed := by
      obtain ⟨before, after, split, -⟩ := List.lookup_eq_some_iff.mp charged
      refine List.mem_flatMap.mpr ⟨capability, ?_, member⟩
      unfold Table.contents
      rw [split]
      exact List.mem_map_of_mem (List.mem_append_right _ (List.mem_cons_self ..))
    split at depends
    · cases depends
    · dsimp only [Wrapped.dependencies] at depends
      cases rule : capability.rule with
      | standard =>
        rw [rule] at depends
        exact .inl (Expr.mem_fieldReferences.mp (mem_distinct.mp depends))
      | listed native names =>
        rw [rule] at depends listed
        exact .inr (listed (mem_distinct.mp depends))
      | enclosing native names =>
        rw [rule] at depends listed
        exact .inr (listed (mem_distinct.mp depends))

end Registry

/-- Classes in play, with the directory that their programs use and a store in which nothing was
read yet. What has the same identity is the same. -/
structure Setting where
  family : ModelClass → Prop
  directory : Directory
  start : Store
  listed : ∀ name modelClass, directory.classes.get? name = some modelClass → family modelClass
  classes : ∀ first second, family first → family second → first.id = second.id → first = second
  descriptors : DistinctIn family
  blank : start.Blank family

namespace Setting

variable {setting : Setting} {root reading other : Reading} {name : String}

/-- The function of the first reading may make the second. -/
def MayRead (setting : Setting) (reading other : Reading) : Prop :=
  ∃ descriptor, reading.hybrid? = some descriptor ∧
    ∃ leaf ∈ descriptor.body.leaves reading.scope,
      setting.directory.target? reading.scope leaf = some other

/-- What a reading gives may refer to the name. -/
inductive MayName (setting : Setting) : Reading → String → Prop
  | written {reading : Reading} {descriptor : Descriptor} {leaf : Body} {name : String} :
    reading.hybrid? = some descriptor → leaf ∈ descriptor.body.leaves reading.scope →
      name ∈ reading.scope.written leaf → MayName setting reading name
  | read {reading other : Reading} {name : String} :
    setting.MayRead reading other → MayName setting other name → MayName setting reading name
  /-- The value of a hybrid for an instance is that of any class that shares it. -/
  | shared {reading other : Reading} {descriptor : Descriptor} {key : InstanceId} {name : String} :
    reading.hybrid? = some descriptor → other.hybrid? = some descriptor →
      reading.scope.instance? = some key → other.scope.instance? = some key →
        MayName setting other name → MayName setting reading name

/-- The first reading needs the second. -/
inductive Needs (setting : Setting) : Reading → Reading → Prop
  | read {reading other : Reading} : setting.MayRead reading other → Needs setting reading other
  | named {reading : Reading} {modelClass : ModelClass} {name : String} :
    reading.scope = .onClass modelClass → setting.MayName reading name →
      Needs setting reading ⟨.onClass modelClass, name⟩
  | listed {reading : Reading} {modelClass : ModelClass} {descriptor : Descriptor} {name : String} :
    reading.scope = .onClass modelClass → reading.hybrid? = some descriptor →
      name ∈ (setting.start.registry modelClass.registry).listed →
        Needs setting reading ⟨.onClass modelClass, name⟩

/-- Something that the reading needs, or the reading itself, needs itself. -/
def Cyclic (setting : Setting) (root : Reading) : Prop :=
  ∃ reading, ReflTransGen setting.Needs root reading ∧ TransGen setting.Needs reading reading

/-- Of two hybrids of one name of their own, one needs the other in the same scope. -/
def Clash (setting : Setting) (root : Reading) : Prop :=
  ∃ first second descriptor other, ReflTransGen setting.Needs root first ∧
    TransGen setting.Needs first second ∧ first.scope = second.scope ∧
      first.hybrid? = some descriptor ∧ second.hybrid? = some other ∧
        descriptor ≠ other ∧ descriptor.name = other.name

/-- A function that the reading needs may fail with the error of a cycle of its own accord. -/
def Raises (setting : Setting) (root : Reading) : Prop :=
  ∃ reading descriptor className chain, ReflTransGen setting.Needs root reading ∧
    reading.hybrid? = some descriptor ∧
      .fail (.cyclicDependency className chain) ∈ descriptor.body.leaves reading.scope

/-- What a reading may name depends on the hybrid and the scope alone. -/
theorem MayName.congr (scope : reading.scope = other.scope) (hybrid : reading.hybrid? = other.hybrid?)
    (names : setting.MayName reading name) : setting.MayName other name := by
  cases names with
  | written same leaf written =>
    exact .written (hybrid ▸ same) (scope ▸ leaf) (scope ▸ written)
  | read reads names =>
    obtain ⟨descriptor, same, leaf, member, target⟩ := reads
    exact .read ⟨descriptor, hybrid ▸ same, leaf, scope ▸ member, scope ▸ target⟩ names
  | shared same sameOther key keyOther names =>
    exact .shared (hybrid ▸ same) sameOther (scope ▸ key) keyOther names

/-- What a reading needs depends on the hybrid and the scope alone. -/
theorem Needs.congr {target : Reading} (scope : reading.scope = other.scope)
    (hybrid : reading.hybrid? = other.hybrid?) (needs : setting.Needs reading target) :
    setting.Needs other target := by
  cases needs with
  | read reads =>
    obtain ⟨descriptor, same, leaf, member, target⟩ := reads
    exact .read ⟨descriptor, hybrid ▸ same, leaf, scope ▸ member, scope ▸ target⟩
  | named onClass names => exact .named (scope ▸ onClass) (names.congr scope hybrid)
  | listed onClass same listed => exact .listed (scope ▸ onClass) (hybrid ▸ same) listed

end Setting

end Hybrid
