import Hybrid.Proofs.Reading.Mentions
import Hybrid.Proofs.Wrapper.Order

/-! # What a wrapper leads to

A wrapper that a class has for a hybrid leads to wrappers that the class has for other hybrids. Two
wrappers of one hybrid lead to the same hybrids, though not always to the same wrappers of them. A
hybrid may then stand twice below a wrapper, but only if two others depend on it: otherwise all paths
to it are one path.
-/

namespace Hybrid

open Relation

/-- Below the wrapper, itself included, two different hybrids depend on one and the same. -/
def Wrapper.Shares (wrapper : Wrapper) : Prop :=
  ∃ first second, wrapper.Reaches first ∧ wrapper.Reaches second ∧ first.name ≠ second.name ∧
    ∃ name ∈ first.dependencies.map (·.1), name ∈ second.dependencies.map (·.1)

namespace ModelClass

variable {modelClass : ModelClass} {descriptor : Descriptor}
variable {wrapper other first second : Wrapper} {name : String}

theorem Builds.name_eq (builds : modelClass.Builds descriptor wrapper) :
    wrapper.name = descriptor.name := by
  cases builds
  rfl

theorem Builds.owner_eq (builds : modelClass.Builds descriptor wrapper) :
    wrapper.owner = modelClass.id := by
  cases builds
  rfl

/-- A wrapper depends on the hybrids that its expression refers to, each once. -/
theorem Builds.dependencies_names (builds : modelClass.Builds descriptor wrapper) :
    wrapper.dependencies.map (·.1) =
      wrapper.expression.fieldReferences.filter modelClass.isHybrid := by
  obtain ⟨stamp, wrappers, values, answers, known, hybrids, siblings⟩ := builds
  exact hybrids

/-- The wrapper is built for the hybrid that the class declares under its name. -/
def Has (modelClass : ModelClass) (wrapper : Wrapper) : Prop :=
  ∃ descriptor, modelClass.attribute? wrapper.name = some (.hybrid descriptor) ∧
    modelClass.Builds descriptor wrapper

namespace Has

theorem ofAttribute (own : modelClass.OwnNames) {name : String}
    (declared : modelClass.attribute? name = some (.hybrid descriptor))
    (builds : modelClass.Builds descriptor wrapper) : wrapper.name = name ∧ modelClass.Has wrapper := by
  have same : wrapper.name = name := builds.name_eq.trans (own name descriptor declared)
  exact ⟨same, descriptor, same ▸ declared, builds⟩

/-- A wrapper depends on wrappers of the hybrids that its expression refers to, by their names. -/
theorem dependency (own : modelClass.OwnNames) (has : modelClass.Has wrapper)
    {dependency : String × Wrapper} (member : dependency ∈ wrapper.dependencies) :
    dependency.2.name = dependency.1 ∧ modelClass.Has dependency.2 ∧
      dependency.1 ∈ wrapper.expression.occurrences := by
  obtain ⟨descriptor, -, stamp, wrappers, values, answers, known, hybrids, siblings⟩ := has
  have wanted := hybrids ▸ List.mem_map_of_mem member
  obtain ⟨refers, hybrid⟩ := List.mem_filter.mp wanted
  obtain ⟨sibling, declared⟩ := isHybrid_iff.mp hybrid
  obtain ⟨same, here⟩ := ofAttribute own declared (siblings _ member sibling declared)
  exact ⟨same, here, Term.mem_fieldReferences.mp refers⟩

theorem sibling (own : modelClass.OwnNames) (has : modelClass.Has wrapper)
    (member : other ∈ wrapper.siblings) :
    modelClass.Has other ∧ other.name ∈ wrapper.expression.occurrences := by
  obtain ⟨dependency, listed, rfl⟩ := List.mem_map.mp member
  obtain ⟨same, here, occurs⟩ := has.dependency own listed
  exact ⟨here, same ▸ occurs⟩

/-- An expression refers to fields, and to hybrids that the wrapper depends on. -/
theorem field_or_sibling (own : modelClass.OwnNames) (has : modelClass.Has wrapper) {name : String}
    (occurs : name ∈ wrapper.expression.occurrences) :
    modelClass.attribute? name = some .field ∨ ∃ sibling ∈ wrapper.siblings, sibling.name = name := by
  have wanted := Term.mem_fieldReferences.mpr occurs
  obtain ⟨descriptor, declaredHere, builds⟩ := has
  have here : modelClass.Has wrapper := ⟨descriptor, declaredHere, builds⟩
  obtain ⟨stamp, wrappers, values, answers, known, hybrids, siblings⟩ := builds
  cases declared : modelClass.attribute? name with
  | none => exact absurd declared (known name wanted)
  | some kind =>
    cases kind with
    | field => exact .inl rfl
    | hybrid descriptor =>
      obtain ⟨sibling, -, member⟩ :=
        exists_dependency hybrids wanted (isHybrid_iff.mpr ⟨descriptor, declared⟩)
      exact .inr ⟨sibling, List.mem_map_of_mem member, (here.dependency own member).1⟩

theorem reaches (own : modelClass.OwnNames) (has : modelClass.Has wrapper)
    (reaches : wrapper.Reaches other) : modelClass.Has other := by
  induction reaches with
  | refl => exact has
  | tail _ member ih => exact (ih.sibling own member).1

theorem nodup_dependencies (has : modelClass.Has wrapper) :
    (wrapper.dependencies.map (·.1)).Nodup := by
  obtain ⟨descriptor, -, builds⟩ := has
  rw [builds.dependencies_names]
  exact wrapper.expression.nodup_fieldReferences.filter _

theorem owner_eq (has : modelClass.Has wrapper) : wrapper.owner = modelClass.id := by
  obtain ⟨descriptor, -, builds⟩ := has
  exact builds.owner_eq

section Composed

variable (composed : modelClass.IsComposedOf Body.IsBasic)

include composed

/-- All wrappers of a hybrid depend on the same hybrids. -/
theorem dependencies_names (has : modelClass.Has wrapper) (again : modelClass.Has other)
    (same : wrapper.name = other.name) :
    wrapper.dependencies.map (·.1) = other.dependencies.map (·.1) := by
  obtain ⟨descriptor, declared, builds⟩ := has
  obtain ⟨_, declaredAgain, buildsAgain⟩ := again
  rw [← same, declared] at declaredAgain
  cases declaredAgain
  rw [builds.dependencies_names, buildsAgain.dependencies_names,
    (builds.unique composed (composed _ descriptor declared) buildsAgain).1]

variable (own : modelClass.OwnNames)

include own

/-- Two wrappers of one hybrid are followed down by the same names. -/
theorem follow (walked : Wrapper → Wrapper → Prop) (has : modelClass.Has first)
    (again : modelClass.Has second) (same : first.name = second.name) (start : walked first second)
    (step : ∀ {earlier sibling above dependency}, first.Reaches earlier → second.Reaches above →
      sibling ∈ earlier.siblings → dependency ∈ above.dependencies →
        sibling.name = dependency.1 → above.name = earlier.name → walked earlier above →
          walked sibling dependency.2)
    (reaches : first.Reaches wrapper) :
    ∃ other, second.Reaches other ∧ other.name = wrapper.name ∧ walked wrapper other := by
  induction reaches with
  | refl => exact ⟨second, .refl, same.symm, start⟩
  | @tail earlier sibling begins member ih =>
    obtain ⟨above, beginsAgain, sameName, walks⟩ := ih
    have hasEarlier := has.reaches own begins
    have hasAbove := again.reaches own beginsAgain
    obtain ⟨⟨key, _⟩, listed, rfl⟩ := List.mem_map.mp member
    obtain ⟨named, -, -⟩ := hasEarlier.dependency own listed
    have wanted : key ∈ above.dependencies.map (·.1) := by
      rw [hasAbove.dependencies_names composed hasEarlier sameName]
      exact List.mem_map_of_mem listed
    obtain ⟨dependency, listedAgain, rfl⟩ := List.mem_map.mp wanted
    obtain ⟨namedAgain, -, -⟩ := hasAbove.dependency own listedAgain
    exact ⟨dependency.2, beginsAgain.tail (List.mem_map_of_mem listedAgain),
      namedAgain.trans named.symm,
      step begins beginsAgain member listedAgain named sameName walks⟩

/-- Whether hybrids share one is the same for all wrappers of a hybrid. -/
theorem shares (has : modelClass.Has first) (again : modelClass.Has second)
    (same : first.name = second.name) (shares : first.Shares) : second.Shares := by
  have below {wrapper : Wrapper} (reaches : first.Reaches wrapper) :
      ∃ other, second.Reaches other ∧ other.name = wrapper.name ∧
        other.dependencies.map (·.1) = wrapper.dependencies.map (·.1) := by
    obtain ⟨other, reachesAgain, named, -⟩ :=
      has.follow composed own (fun _ _ => True) again same trivial (fun _ _ _ _ _ _ _ => trivial) reaches
    exact ⟨other, reachesAgain, named, (again.reaches own reachesAgain).dependencies_names composed
      (has.reaches own reaches) named⟩
  obtain ⟨left, right, reachesLeft, reachesRight, differ, shared, inLeft, inRight⟩ := shares
  obtain ⟨left', reachesLeft', namedLeft, dependenciesLeft⟩ := below reachesLeft
  obtain ⟨right', reachesRight', namedRight, dependenciesRight⟩ := below reachesRight
  refine ⟨left', right', reachesLeft', reachesRight', ?_, shared, ?_, ?_⟩
  · rwa [namedLeft, namedRight]
  · rwa [dependenciesLeft]
  · rwa [dependenciesRight]

/-- What a wrapper leads to is mentioned on the way. -/
theorem mentions (has : modelClass.Has wrapper) (reaches : wrapper.Reaches other) :
    ReflTransGen modelClass.Mentions wrapper.name other.name := by
  induction reaches with
  | refl => exact .refl
  | @tail earlier sibling begins member ih =>
    obtain ⟨descriptor, declared, builds⟩ := has.reaches own begins
    have occurs := (ModelClass.Has.sibling own ⟨descriptor, declared, builds⟩ member).2
    exact ih.trans (builds.transGen_of_mem_occurrences composed _ _ declared occurs).to_reflTransGen

/-- No hybrid stands below itself. -/
theorem name_ne (has : modelClass.Has wrapper) (reaches : wrapper.Reaches other)
    (member : second ∈ other.siblings) : second.name ≠ wrapper.name := by
  intro same
  obtain ⟨descriptor, declared, builds⟩ := has.reaches own reaches
  have occurs := (ModelClass.Has.sibling own ⟨descriptor, declared, builds⟩ member).2
  have returns := builds.transGen_of_mem_occurrences composed _ _ declared occurs
  rw [same] at returns
  exact builds.not_circular composed declared
    ⟨other.name, .refl, returns.trans_left (has.mentions composed own reaches)⟩

/-- Where no two hybrids share one, a hybrid has one wrapper. -/
theorem eq_of_not_shares (has : modelClass.Has wrapper) (unshared : ¬ wrapper.Shares)
    (reachesFirst : wrapper.Reaches first) (reachesSecond : wrapper.Reaches second)
    (same : first.name = second.name) : first = second := by
  induction reachesFirst generalizing second with
  | refl =>
    rcases reachesSecond.cases_tail with rfl | ⟨above, begins, member⟩
    · rfl
    · exact absurd same.symm (has.name_ne composed own begins member)
  | @tail earlier first begins member ih =>
    rcases reachesSecond.cases_tail with rfl | ⟨above, beginsSecond, memberSecond⟩
    · exact absurd same (has.name_ne composed own begins member)
    · have hasEarlier := has.reaches own begins
      obtain ⟨⟨key, _⟩, listed, rfl⟩ := List.mem_map.mp member
      obtain ⟨⟨key', _⟩, listedSecond, rfl⟩ := List.mem_map.mp memberSecond
      have named := (hasEarlier.dependency own listed).1
      have namedSecond := ((has.reaches own beginsSecond).dependency own listedSecond).1
      obtain rfl : key = key' := named.symm.trans (same.trans namedSecond)
      have above_eq : earlier.name = above.name := by
        by_contra differ
        exact unshared ⟨earlier, above, begins, beginsSecond, differ, key,
          List.mem_map_of_mem listed, List.mem_map_of_mem listedSecond⟩
      obtain rfl := ih beginsSecond above_eq
      exact congrArg Prod.snd
        (List.inj_on_of_nodup_map hasEarlier.nodup_dependencies listed listedSecond rfl)

end Composed

end Has

end ModelClass

end Hybrid
