import Hybrid.Proofs.Reading.Graph
import Hybrid.Proofs.Reading.Rules
import Hybrid.Proofs.Store.Growth

/-! # What a function does to the store

A function changes the store only by what it counts, what it resets and the readings that it makes.
So whatever these preserve is preserved by the function, whether it fails or not.
-/

namespace Hybrid

/-- A quiet change leaves a store covered, with the same hybrids under evaluation. -/
theorem Ledger.Keeps.quiet {ledger : Ledger} {start before after : Store} {stack : List Frame}
    (quiet : before.Quiet after) (keeps : ledger.Keeps start stack before) :
    ledger.Keeps start stack after where
  covers := {
    wrapper := fun cached => by
      rw [Store.wrapper?, quiet.wrappers] at cached
      exact keeps.covers.wrapper cached
    value := fun has => by
      simp only [Store.HasValue, Store.cache, quiet.caches] at has
      exact keeps.covers.value has
    resets := quiet.generations ▸ keeps.covers.resets
    registries := quiet.registries.trans keeps.covers.registries
    record := fun fixed => quiet.record (keeps.covers.record fixed) }
  building := quiet.building.trans keeps.building

variable {kept : Store → Prop} {reads : Reads} {directory : Directory}
variable {modelClass : ModelClass} {key : InstanceId} {name : String}

/-- Whatever the action gives, it preserves what is said of the store. -/
abbrev Action.Preserves {α : Type} (action : Action α) (kept : Store → Prop) : Prop :=
  ∀ store, kept store → action.Ensures store fun _ after => kept after

theorem Action.Preserves.bind {α β : Type} {first : Action α} {next : α → Action β}
    (starts : first.Preserves kept) (continues : ∀ result, (next result).Preserves kept) :
    (first >>= next).Preserves kept := by
  intro store keeps
  refine Action.ensures_bind.mpr ((starts store keeps).mono fun outcome after keeps => ?_)
  cases outcome with
  | ok result => exact continues result after keeps
  | error error => exact keeps

theorem Action.Preserves.pure {α : Type} (result : α) :
    (Pure.pure result : Action α).Preserves kept :=
  fun _ keeps => keeps

theorem Action.Preserves.throw {α : Type} (error : HybridError) :
    (MonadExcept.throw error : Action α).Preserves kept :=
  fun _ keeps => keeps

section Quiet

variable (quiet : ∀ before after, before.Quiet after → kept before → kept after)

include quiet

/-- Reading an attribute of an instance reads a field or a hybrid. -/
theorem Reads.attributeOf_preserves
    (hybrid : ∀ descriptor, modelClass.attribute? name = some (.hybrid descriptor) →
      (reads.ofInstance modelClass key descriptor).Preserves kept) :
    (reads.attributeOf modelClass key name).Preserves kept := by
  unfold Reads.attributeOf
  cases declared : modelClass.attribute? name with
  | none => exact .throw _
  | some kind =>
    cases kind with
    | hybrid descriptor => exact hybrid descriptor declared
    | field =>
      refine .bind (fun store => quiet _ _ (Store.quiet_readField key name)) fun value => ?_
      cases value with
      | none => exact .throw _
      | some value => exact fun store => quiet _ _ Store.quiet_fresh

omit quiet in
/-- Only hybrids are read on a class. -/
theorem Reads.hybridOf_preserves
    (hybrid : ∀ descriptor, modelClass.attribute? name = some (.hybrid descriptor) →
      (reads.ofClass modelClass descriptor).Preserves kept) :
    (reads.hybridOf modelClass name).Preserves kept := by
  unfold Reads.hybridOf
  cases declared : modelClass.attribute? name with
  | none => exact .throw _
  | some kind =>
    cases kind with
    | field => exact .throw _
    | hybrid descriptor => exact hybrid descriptor declared

/-- A leaf counts, resets a hybrid, or reads its target. -/
theorem Body.leaf_preserves {scope : Scope} {leaf : Body} (isLeaf : leaf.IsLeaf)
    (reset : ∀ hybrid, leaf = .reset hybrid → ∀ store descriptor, kept store →
      kept (store.resetHybrid descriptor))
    (ofClass : ∀ modelClass name, directory.target? scope leaf = some ⟨.onClass modelClass, name⟩ →
      ∀ descriptor, modelClass.attribute? name = some (.hybrid descriptor) →
        (reads.ofClass modelClass descriptor).Preserves kept)
    (ofInstance : ∀ modelClass key name,
      directory.target? scope leaf = some ⟨.onInstance modelClass key, name⟩ →
        ∀ descriptor, modelClass.attribute? name = some (.hybrid descriptor) →
          (reads.ofInstance modelClass key descriptor).Preserves kept) :
    (leaf.run reads directory scope).Preserves kept := by
  cases leaf with
  | reset hybrid =>
    rw [Body.run]
    refine .bind ?_ fun descriptor => .bind ?_ fun _ => .pure _
    · unfold Directory.hybrid
      cases directory.hybrids.get? hybrid with
      | none => exact .throw _
      | some descriptor => exact .pure _
    · exact fun store => reset hybrid rfl store descriptor
  | count counter =>
    rw [Body.run]
    exact .bind (fun store => quiet _ _ (Store.quiet_count counter)) fun _ => .pure _
  | byName other =>
    rw [Body.run]
    cases scope with
    | onClass modelClass => exact .pure _
    | onInstance modelClass key =>
      exact .bind (Reads.attributeOf_preserves quiet (ofInstance _ _ _ rfl)) fun _ => .pure _
  | byValue other =>
    rw [Body.run]
    cases scope with
    | onClass modelClass =>
      unfold Reads.byValue
      dsimp only
      cases declared : modelClass.attribute? other with
      | none => exact .throw _
      | some kind =>
        cases kind with
        | field => exact .pure _
        | hybrid sibling => exact .bind (ofClass _ _ rfl sibling declared) fun _ => .pure _
    | onInstance modelClass key =>
      exact .bind (Reads.attributeOf_preserves quiet (ofInstance _ _ _ rfl)) fun _ => .pure _
  | ofClass owner other =>
    rw [Body.run]
    unfold Directory.modelClass
    cases found : directory.classes.get? owner with
    | none => exact .throw _
    | some modelClass =>
      have aims : directory.target? scope (.ofClass owner other) =
          some ⟨.onClass modelClass, other⟩ := by
        simp [Directory.target?, found]
      intro store keeps
      refine Action.ensures_bind.mpr (Action.ensures_pure.mpr ?_)
      have reads := Reads.hybridOf_preserves (ofClass _ _ aims)
      exact Action.Preserves.bind reads (fun _ => .pure _) store keeps
  | ofInstance owner instance? other =>
    rw [Body.run]
    unfold Directory.modelClass
    cases found : directory.classes.get? owner with
    | none => exact .throw _
    | some modelClass =>
      intro store keeps
      refine Action.ensures_bind.mpr (Action.ensures_pure.mpr ?_)
      rw [Directory.instanceOf_eq]
      cases chosen : directory.instanceOf? scope instance? with
      | none => exact keeps
      | some key =>
        have aims : directory.target? scope (.ofInstance owner instance? other) =
            some ⟨.onInstance modelClass key, other⟩ := by
          simp [Directory.target?, found, chosen]
        refine Action.ensures_bind.mpr (Action.ensures_pure.mpr ?_)
        have reads := Reads.attributeOf_preserves quiet (ofInstance _ _ _ aims)
        exact Action.Preserves.bind reads (fun _ => .pure _) store keeps
  | constant value => rw [Body.run]; exact .pure _
  | expression expr => rw [Body.run]; exact .pure _
  | reference other => rw [Body.run]; exact .pure _
  | fail error => rw [Body.run]; exact .throw _
  | isInstance => rw [Body.run]; exact .pure _
  | className => rw [Body.run]; exact .pure _
  | describeScope => rw [Body.run]; exact .pure _
  | _ => exact isLeaf.elim

/-- Calling a function counts the run and runs its program. -/
theorem Descriptor.call_preserves {descriptor : Descriptor} {scope : Scope}
    (leaf : ∀ leaf ∈ descriptor.body.leaves scope, leaf.IsLeaf →
      (leaf.run reads directory scope).Preserves kept) :
    (descriptor.call reads directory scope).Preserves kept := by
  intro store keeps
  refine Descriptor.ensures_call.mpr (Body.run_preserves leaf _ ?_)
  exact quiet _ _ (Store.quiet_countRun descriptor.id) keeps

/-- Resolving names reads hybrids and reports fields. -/
theorem Reads.resolve_preserves
    (siblings : ∀ name sibling, modelClass.attribute? name = some (.hybrid sibling) →
      (reads.ofClass modelClass sibling).Preserves kept) (hybrid : String) (names : List String) :
    (reads.resolve modelClass hybrid names).Preserves kept := by
  induction names with
  | nil => exact .pure _
  | cons name rest ih =>
    unfold Reads.resolve
    cases declared : modelClass.attribute? name with
    | none => exact .throw _
    | some kind =>
      cases kind with
      | field => exact .bind (fun store => quiet _ _ (Store.quiet_report rfl)) fun _ => ih
      | hybrid sibling =>
        exact .bind (siblings name sibling declared) fun _ => .bind ih fun _ => .pure _

variable (building : ∀ (store : Store) stack, kept store → kept { store with building := stack })

include building

omit quiet in
/-- A guarded action changes the build stack besides. -/
theorem Action.guarded_preserves {α : Type} {action : Action α} {instance? : Option InstanceId}
    {hybrid : String} (runs : action.Preserves kept) :
    (Action.guarded modelClass instance? hybrid action).Preserves kept := by
  intro store keeps
  rw [Action.ensures_guarded]
  split
  · exact keeps
  · exact (runs _ (building store _ keeps)).mono fun outcome after ended => building after _ ended

/-- Reading a hybrid on an instance keeps a value besides. -/
theorem Descriptor.readInstance_preserves {descriptor : Descriptor}
    (keepValue : ∀ store cache value, kept store → kept (store.keepValue cache key value).2)
    (calls : (descriptor.call reads directory (.onInstance modelClass key)).Preserves kept) :
    (descriptor.readInstance reads directory modelClass key).Preserves kept := by
  have report (event : Event) (other : event.isBuild = false) : (Action.report event).Preserves kept :=
    fun store => quiet _ _ (Store.quiet_report other)
  unfold Descriptor.readInstance
  refine .bind (fun _ keeps => keeps) fun cache => .bind (fun _ keeps => keeps) fun held => ?_
  cases held with
  | some value => exact .bind (report _ rfl) fun _ => .pure _
  | none =>
    refine Action.guarded_preserves building ?_
    unfold Descriptor.computeValue
    refine .bind calls fun term => .bind (fun store => quiet _ _ Store.quiet_fresh) fun value => ?_
    exact .bind (report _ rfl) fun _ => fun store => keepValue store cache value

/-- Reading a hybrid on a class reports the build of a wrapper and keeps the wrapper besides. -/
theorem Descriptor.readClass_preserves {descriptor : Descriptor}
    (report : ∀ store event, kept store → kept (Store.report store event))
    (keepWrapper : ∀ store wrapper, kept store →
      kept (store.keepWrapper descriptor.id modelClass.id wrapper).2)
    (calls : (descriptor.call reads directory (.onClass modelClass)).Preserves kept)
    (resolves : ∀ names, (reads.resolve modelClass descriptor.name names).Preserves kept) :
    (descriptor.readClass reads directory modelClass).Preserves kept := by
  unfold Descriptor.readClass
  refine .bind (fun _ keeps => keeps) fun held => ?_
  cases held with
  | some wrapper => exact .bind (fun store => report store _) fun _ => .pure _
  | none =>
    refine Action.guarded_preserves building ?_
    unfold Descriptor.buildWrapper
    refine .bind calls fun term => .bind (fun store => quiet _ _ (Store.quiet_wrap _ _)) fun wrapped => ?_
    refine .bind (resolves _) fun dependencies => .bind (fun store => quiet _ _ Store.quiet_fresh)
      fun stamp => ?_
    exact .bind (fun store => report store _) fun _ store => keepWrapper store _

end Quiet

section Anything

variable {ledger : Ledger} {start : Store} {descriptor : Descriptor}

/-- If the ledger allows any wrapper, a read keeps what the function and reads of siblings keep. -/
theorem Descriptor.readClass_anything
    (anything : ∀ wrapper, ledger.wrapper descriptor.id modelClass.id wrapper)
    (runs : ∀ stack,
      (descriptor.body.run reads directory (.onClass modelClass)).Preserves (ledger.Keeps start stack))
    (siblings : ∀ name sibling, modelClass.attribute? name = some (.hybrid sibling) →
      ∀ stack, (reads.ofClass modelClass sibling).Preserves (ledger.Keeps start stack))
    (stack : List Frame) :
    (descriptor.readClass reads directory modelClass).Preserves (ledger.Keeps start stack) := by
  intro store keeps
  refine (Descriptor.readClass_keeps (fun _ => True) keeps (fun _ _ => trivial)
    (fun _ _ => trivial) fun _ store keeps => ?_).mono fun _ _ ended => ended.2
  refine Descriptor.buildWrapper_keeps (fun _ => True) (fun _ => True) keeps (fun _ _ => trivial)
    ?runs ?resolves
  case runs =>
    exact fun store keeps => (runs _ store keeps).mono fun _ _ ended => ⟨.trivial _, ended⟩
  case resolves =>
    intro term _ wrapped _ store keeps
    refine (Reads.resolve_keeps (fun name _ sibling declared store keeps =>
      (siblings name sibling declared _ store keeps).mono fun outcome _ ended =>
        ⟨Outcome.trivial outcome, ended⟩) (fun _ _ _ => trivial) store keeps).mono
      fun outcome after ⟨_, ended⟩ => ⟨?_, ended⟩
    cases outcome with
    | error error => trivial
    | ok dependencies => exact fun stamp => anything _

/-- If the ledger allows any value, a read keeps what the function keeps. -/
theorem Descriptor.readInstance_anything (anything : ∀ term, ledger.value descriptor.id key term)
    (runs : ∀ stack, (descriptor.body.run reads directory (.onInstance modelClass key)).Preserves
      (ledger.Keeps start stack))
    (stack : List Frame) :
    (descriptor.readInstance reads directory modelClass key).Preserves (ledger.Keeps start stack) := by
  intro store keeps
  refine (Descriptor.readInstance_keeps (fun _ => True) keeps (fun _ _ => trivial)
    (fun _ _ => trivial) fun _ store keeps => ?_).mono fun _ _ ended => ended.2
  exact (runs _ store keeps).mono fun _ _ ended => ⟨⟨trivial, fun term _ => anything term⟩, ended⟩

end Anything

end Hybrid
