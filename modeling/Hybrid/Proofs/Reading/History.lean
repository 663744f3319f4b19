import Hybrid.Proofs.Action
import Hybrid.Proofs.Store.Ledger

/-! # Histories of reads and resets

What a user of classes can do to the store: read hybrids on a class or attributes on an instance,
and reset hybrids. A store that is covered by a ledger stays covered through a history if every
read leaves it so.
-/

namespace Hybrid

/-- A read or a reset. -/
inductive Access where
  | ofClass (modelClass : ModelClass) (name : String)
  | ofInstance (modelClass : ModelClass) (key : InstanceId) (name : String)
  | reset (descriptor : Descriptor)
  | resetClass (modelClass : ModelClass)

namespace Access

/-- The store after an access, whether it succeeds or not. -/
def perform (directory : Directory) (store : Store) : Access → Store
  | ofClass modelClass name => ((modelClass.get directory name).run store).2
  | ofInstance modelClass key name => ((modelClass.getFor directory key name).run store).2
  | reset descriptor => store.resetHybrid descriptor
  | resetClass modelClass => store.resetClass modelClass

/-- Whether an access reads classes of a family only; it may reset anything. -/
def Within (family : ModelClass → Prop) : Access → Prop
  | ofClass modelClass _ => family modelClass
  | ofInstance modelClass _ _ => family modelClass
  | reset _ => True
  | resetClass _ => True

end Access

/-- The store after accesses made one after the other. -/
def Store.after (store : Store) (directory : Directory) (history : List Access) : Store :=
  history.foldl (Access.perform directory) store

/-- The descriptors of a family of classes. -/
def Descriptor.In (descriptor : Descriptor) (family : ModelClass → Prop) : Prop :=
  ∃ modelClass, family modelClass ∧ ∃ name, (name, descriptor) ∈ modelClass.hybrids

/-- Different descriptors of a family have different identities. -/
def DistinctIn (family : ModelClass → Prop) : Prop :=
  ∀ first second : Descriptor, first.In family → second.In family → first.id = second.id →
    first = second

/-- Nothing is under evaluation, and nothing is cached for the hybrids of a family. -/
structure Store.Blank (family : ModelClass → Prop) (store : Store) : Prop where
  building : store.building = []
  wrapper {descriptor : Descriptor} : descriptor.In family → ∀ modelClass,
    store.wrapper? descriptor.id modelClass = none
  value {descriptor : Descriptor} : descriptor.In family → ∀ key value,
    ¬ store.HasValue descriptor.id key value

/-- A store that has cached nothing is blank. -/
theorem Store.Blank.ofEmpty {store : Store} (wrappers : store.wrappers = .empty)
    (caches : store.caches = .empty) (building : store.building = []) (family : ModelClass → Prop) :
    store.Blank family where
  building
  wrapper _ modelClass := by
    rw [Store.wrapper?, wrappers]
    rfl
  value _ key value has := by
    obtain ⟨generation, held⟩ := has
    rw [Store.cache, caches] at held
    cases held

/-- A hybrid attribute is listed under its name. -/
theorem ModelClass.mem_hybrids {modelClass : ModelClass} {name : String} {descriptor : Descriptor}
    (declared : modelClass.attribute? name = some (.hybrid descriptor)) :
    (name, descriptor) ∈ modelClass.hybrids :=
  List.mem_filterMap.mpr ⟨_, attribute?_eq_some_iff.mp declared, rfl⟩

/-- A hybrid attribute of a class in the family is one of its descriptors. -/
theorem Descriptor.in_of_attribute? {family : ModelClass → Prop} {modelClass : ModelClass}
    {name : String} {descriptor : Descriptor} (member : family modelClass)
    (declared : modelClass.attribute? name = some (.hybrid descriptor)) : descriptor.In family :=
  ⟨modelClass, member, name, modelClass.mem_hybrids declared⟩

/-- Descriptors of a family differ if the identities in a list of them all do. -/
theorem DistinctIn.ofList {family : ModelClass → Prop} (descriptors : List Descriptor)
    (covers : ∀ modelClass, family modelClass → ∀ hybrid ∈ modelClass.hybrids,
      hybrid.2 ∈ descriptors)
    (distinct : ∀ first ∈ descriptors, ∀ second ∈ descriptors, first.id = second.id → first = second) :
    DistinctIn family := by
  rintro first second ⟨modelClass, family, name, member⟩ ⟨owner, familyOwner, other, memberOther⟩ same
  have listed := covers modelClass family _ member
  have listedOther := covers owner familyOwner _ memberOther
  exact distinct first listed second listedOther same

namespace Ledger

variable {ledger : Ledger} {start store : Store} {stack : List Frame} {directory : Directory}

/-- What is known of the hybrids of a family, with nothing known of the others. -/
def ofFamily (family : ModelClass → Prop) (wrapper : Descriptor → ClassId → Wrapper → Prop)
    (value : Descriptor → InstanceId → Term → Prop) (resets : Table HybridId Nat → Prop) : Ledger where
  wrapper id modelClass cached :=
    ∀ descriptor : Descriptor, descriptor.In family → descriptor.id = id →
      wrapper descriptor modelClass cached
  value id key term :=
    ∀ descriptor : Descriptor, descriptor.In family → descriptor.id = id → value descriptor key term
  resets

section Family

variable {family : ModelClass → Prop} {wrapper : Descriptor → ClassId → Wrapper → Prop}
variable {value : Descriptor → InstanceId → Term → Prop} {resets : Table HybridId Nat → Prop}
variable {descriptor : Descriptor}

theorem ofFamily_wrapper (distinct : DistinctIn family) (member : descriptor.In family)
    {modelClass : ClassId} {cached : Wrapper} :
    (ofFamily family wrapper value resets).wrapper descriptor.id modelClass cached ↔
      wrapper descriptor modelClass cached := by
  constructor
  · exact fun known => known descriptor member rfl
  · intro known other otherMember same
    rw [distinct other descriptor otherMember member same]
    exact known

theorem ofFamily_value (distinct : DistinctIn family) (member : descriptor.In family)
    {key : InstanceId} {term : Term} :
    (ofFamily family wrapper value resets).value descriptor.id key term ↔
      value descriptor key term := by
  constructor
  · exact fun known => known descriptor member rfl
  · intro known other otherMember same
    rw [distinct other descriptor otherMember member same]
    exact known

/-- Where nothing is cached, everything that is cached is known. -/
theorem Keeps.ofBlank (blank : start.Blank family) (counted : resets start.generations) :
    (ofFamily family wrapper value resets).Keeps start [] start where
  covers := {
    wrapper := fun cached descriptor member same => by
      rw [← same, blank.wrapper member] at cached
      cases cached
    value := fun has descriptor member same => absurd has (same ▸ blank.value member _ _)
    resets := counted
    registries := rfl
    record := id }
  building := blank.building

end Family

/-- Resetting every hybrid of a class. -/
theorem Keeps.resetClass (keeps : ledger.Keeps start stack store) (resets : ∀ counts, ledger.resets counts)
    (modelClass : ModelClass) : ledger.Keeps start stack (store.resetClass modelClass) := by
  unfold Store.resetClass
  induction modelClass.hybrids generalizing store with
  | nil => exact keeps
  | cons hybrid rest ih =>
    exact ih ⟨keeps.covers.resetHybrid hybrid.2 (resets _), keeps.building⟩

/-- A history keeps what each of its reads keeps. -/
theorem Keeps.after {family : ModelClass → Prop} (keeps : ledger.Keeps start stack store)
    (resets : ∀ counts, ledger.resets counts)
    (ofClass : ∀ modelClass name, family modelClass → ∀ store, ledger.Keeps start stack store →
      Action.Ensures (modelClass.get directory name) store fun _ after => ledger.Keeps start stack after)
    (ofInstance : ∀ modelClass key name, family modelClass → ∀ store, ledger.Keeps start stack store →
      Action.Ensures (modelClass.getFor directory key name) store fun _ after =>
        ledger.Keeps start stack after)
    {history : List Access} (within : ∀ access ∈ history, access.Within family) :
    ledger.Keeps start stack (store.after directory history) := by
  unfold Store.after
  induction history generalizing store with
  | nil => exact keeps
  | cons access rest ih =>
    obtain ⟨first, others⟩ := List.forall_mem_cons.mp within
    refine ih ?_ others
    cases access with
    | ofClass modelClass name => exact ofClass modelClass name first store keeps
    | ofInstance modelClass key name => exact ofInstance modelClass key name first store keeps
    | reset descriptor => exact ⟨keeps.covers.resetHybrid descriptor (resets _), keeps.building⟩
    | resetClass modelClass => exact keeps.resetClass resets modelClass

end Ledger

end Hybrid
