import Hybrid.Proofs.Class.Attributes

/-! # The registry of a built class

A builder has the registry that was given last, whatever bases it inherits from. If none was given,
it has the one of the first base: a later base replaces the inherited attributes and leaves the
registry. So a class with several bases may have the attributes of one base and the registry of
another one.
-/

namespace Hybrid

namespace BuilderCall

/-- The registry that a call gives. -/
def registry? : BuilderCall → Option RegistryId
  | .registry chosen => some chosen
  | .field _ | .fields _ | .hybrid _ | .declare _ _ | .inherit _ => none

/-- The registries that calls give, in order. -/
def registries (calls : List BuilderCall) : List RegistryId :=
  calls.filterMap registry?

end BuilderCall

namespace ClassBuilder

open BuilderCall

theorem chosenRegistry_call (builder : ClassBuilder) (call : BuilderCall) :
    (builder.call call).chosenRegistry =
      call.registry?.or (builder.chosenRegistry.or (call.base?.map fun base => base.registry)) := by
  cases call with
  | fields names =>
    rw [ClassBuilder.call, fields_eq]
    exact (Option.or_none).symm
  | inherit | registry => rfl
  | field | hybrid | declare => exact (Option.or_none).symm

/-- The registry that was given last, or else the one of the first base. -/
theorem chosenRegistry_ofCalls (name : String) (calls : List BuilderCall) :
    (ofCalls name calls).chosenRegistry =
      (registries calls).getLast?.or ((bases calls).head?.map fun base => base.registry) := by
  induction calls using List.reverseRecOn with
  | nil => rfl
  | append_singleton calls last ih =>
    have given :
        (registries (calls ++ [last])).getLast? = last.registry?.or (registries calls).getLast? := by
      unfold registries
      rw [List.filterMap_append, List.getLast?_append]
      simp
    have based : (bases (calls ++ [last])).head? = (bases calls).head?.or last.base? := by
      unfold bases
      rw [List.filterMap_append, List.head?_append]
      simp
    rw [ofCalls_concat, chosenRegistry_call, ih, given, based, Option.map_or, Option.or_assoc,
      Option.or_assoc]

variable {name : String} {calls : List BuilderCall} {id : ClassId} {shared : RegistryId}

theorem registry_of_build {built : ModelClass}
    (success : (ofCalls name calls).build id shared = .ok built) :
    built.registry =
      ((registries calls).getLast?.or
        ((bases calls).head?.map fun base => base.registry)).getD shared := by
  rw [(build_eq_ok success).2.2.2, chosenRegistry_ofCalls]

/-- A class has the registry that its builder was given last. If none was given, it has the shared
one, or with bases the registry of the first one, while its attributes come from the last one: it has
the registry of the last base only if the first and the last base have the same. -/
theorem build_registry {built : ModelClass}
    (success : (ofCalls name calls).build id shared = .ok built) :
    (∀ chosen, (registries calls).getLast? = some chosen → built.registry = chosen) ∧
    (registries calls = [] → bases calls = [] → built.registry = shared) ∧
    (∀ first last, registries calls = [] → (bases calls).head? = some first →
      (bases calls).getLast? = some last →
        built.registry = first.registry ∧
        (∀ key, built.attribute? key = ((declarations calls).lookup key).or (last.attribute? key)) ∧
        (built.registry = last.registry ↔ first.registry = last.registry)) := by
  have chosen := registry_of_build success
  refine ⟨?given, ?shared, ?based⟩
  case given =>
    intro registry given
    rw [chosen, given]
    rfl
  case shared =>
    intro none_given no_base
    rw [chosen, none_given, no_base]
    rfl
  case based =>
    intro first last none_given head final
    have registry : built.registry = first.registry := by
      rw [chosen, none_given, head]
      rfl
    refine ⟨registry, fun key => ?_, by rw [registry]⟩
    rw [attribute?_of_build success, ModelClass.attribute?_eq_lookup last]
    unfold inheritance
    rw [final]
    rfl

end ClassBuilder

namespace TwoBases

def first : ModelClass where
  id := ⟨3⟩
  name := "A"
  attributes := [("a", .field)]
  registry := ⟨1⟩

def second : ModelClass where
  id := ⟨4⟩
  name := "B"
  attributes := [("b", .field)]
  registry := ⟨2⟩

/-- The calls of a class that inherits from two bases with registries of their own. -/
def calls : List BuilderCall :=
  [.inherit first, .inherit second]

theorem build_registry_first :
    ∃ built, (ClassBuilder.ofCalls "D" calls).build ⟨5⟩ Store.sharedRegistry = .ok built ∧
      built.registry = first.registry ∧ built.attribute? "b" = some .field := by
  obtain ⟨built, success⟩ : ∃ built,
    (ClassBuilder.ofCalls "D" calls).build ⟨5⟩ Store.sharedRegistry = .ok built := ⟨_, rfl⟩
  obtain ⟨_, _, based⟩ := ClassBuilder.build_registry success
  obtain ⟨registry, inherited, _⟩ := based first second rfl rfl rfl
  exact ⟨built, success, registry, inherited "b"⟩

/-- The class has the attributes of the second base and the registry of the first one. -/
theorem registry_ne_second :
    ∃ built, (ClassBuilder.ofCalls "D" calls).build ⟨5⟩ Store.sharedRegistry = .ok built ∧
      BuilderCall.registries calls = [] ∧ (BuilderCall.bases calls).getLast? = some second ∧
      built.attributes = second.attributes ∧ built.registry ≠ second.registry :=
  ⟨_, rfl, rfl, rfl, rfl, by decide⟩

end TwoBases

end Hybrid
