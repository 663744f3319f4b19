import Hybrid.Proofs.Reading.Reach

/-! # What a read may change in the caches

A read of hybrids that stay in their scope touches only cache entries of its own. On a class it
leaves all instance caches as they are, and adds wrappers of that class alone; on an instance it
leaves all wrappers as they are, and adds values of that instance alone. Either way the entries
belong to hybrids that the attribute leads to. A value goes when its instance has died, and a reset
touches nothing of other hybrids.
-/

namespace Hybrid

open Relation

/-- The second store has the same caches as the first, but for wrappers of the class that were
added for some of the hybrids. -/
structure Store.AddsWrappers (modelClass : ClassId) (hybrids : HybridId → Prop)
    (before after : Store) : Prop where
  caches : after.caches = before.caches
  generations : after.generations = before.generations
  alive (key : InstanceId) : after.isAlive key = before.isAlive key
  kept {hybrid : HybridId} {owner : ClassId} {wrapper : Wrapper} :
    before.wrapper? hybrid owner = some wrapper → after.wrapper? hybrid owner = some wrapper
  added {hybrid : HybridId} {owner : ClassId} {wrapper : Wrapper} :
    after.wrapper? hybrid owner = some wrapper →
      before.wrapper? hybrid owner = some wrapper ∨ owner = modelClass ∧ hybrids hybrid

/-- The second store has the same caches as the first, but for values of the instance that were
added for some of the hybrids, and for entries of dead instances that were dropped. -/
structure Store.AddsValues (key : InstanceId) (hybrids : HybridId → Prop) (before after : Store) :
    Prop where
  wrappers : after.wrappers = before.wrappers
  generations : after.generations = before.generations
  alive (key : InstanceId) : after.isAlive key = before.isAlive key
  kept {cache : CacheId} {other : InstanceId} {value : Stamped Term} :
    before.isAlive other = true → (before.cache cache).find? other = some value →
      (after.cache cache).find? other = some value
  added {cache : CacheId} {other : InstanceId} {value : Stamped Term} :
    (after.cache cache).find? other = some value →
      (before.cache cache).find? other = some value ∨
        other = key ∧ ∃ hybrid, hybrids hybrid ∧ cache = before.currentCache hybrid

/-- The second store has the same caches as the first, but for the hybrid: it has no wrapper, and
another instance cache. -/
structure Store.Forgets (hybrid : HybridId) (before after : Store) : Prop where
  caches : after.caches = before.caches
  wrapper (other : HybridId) (owner : ClassId) : after.wrapper? other owner =
    if other = hybrid then none else before.wrapper? other owner
  current (other : HybridId) :
    after.currentCache other = before.currentCache other ↔ other ≠ hybrid

section Changes

variable {modelClass : ClassId} {key : InstanceId} {hybrids : HybridId → Prop}
variable {before after : Store}

theorem Store.Quiet.addsWrappers (quiet : before.Quiet after) :
    before.AddsWrappers modelClass hybrids after where
  caches := quiet.caches
  generations := quiet.generations
  alive := quiet.alive
  kept cached := by rwa [Store.wrapper?, quiet.wrappers]
  added cached := .inl (by rwa [Store.wrapper?, quiet.wrappers] at cached)

/-- The wrappers of other classes are as before. -/
theorem Store.AddsWrappers.wrapper?_eq (adds : before.AddsWrappers modelClass hybrids after)
    {owner : ClassId} (other : owner ≠ modelClass) (hybrid : HybridId) :
    after.wrapper? hybrid owner = before.wrapper? hybrid owner := by
  apply Option.ext
  intro wrapper
  exact ⟨fun cached => (adds.added cached).resolve_right fun ⟨same, _⟩ => other same, adds.kept⟩

/-- The values of other instances that are alive are as before. -/
theorem Store.AddsValues.find?_eq (adds : before.AddsValues key hybrids after) {other : InstanceId}
    (differs : other ≠ key) (lives : before.isAlive other = true) (cache : CacheId) :
    (after.cache cache).find? other = (before.cache cache).find? other := by
  apply Option.ext
  intro value
  exact ⟨fun held => (adds.added held).resolve_right fun ⟨same, _⟩ => differs same, adds.kept lives⟩

/-- A reset touches nothing of the other hybrids. -/
theorem Store.forgets_resetHybrid (store : Store) (descriptor : Descriptor) :
    store.Forgets descriptor.id (store.resetHybrid descriptor) where
  caches := rfl
  wrapper _ owner := wrapper?_resetHybrid descriptor owner
  current other := by
    unfold currentCache resetHybrid report
    dsimp only
    rw [Table.get?_put]
    by_cases same : other = descriptor.id <;> simp [same]

end Changes

namespace Setting

variable {setting : Setting} {modelClass : ModelClass} {descriptor : Descriptor} {name : String}
variable {key : InstanceId} {store : Store} {room : Nat}

section OnClasses

/-- Class reads keep no values. -/
theorem StaysInScope.caches (stays : setting.StaysInScope) (family : setting.family modelClass)
    (known : descriptor.In setting.family) (caches : Table CacheId InstanceCache) (room : Nat) :
    ((setting.directory.readsWithin room).ofClass modelClass descriptor).Preserves
      fun store => store.caches = caches := by
  have quiet (before after : Store) (quiet : before.Quiet after)
      (keeps : before.caches = caches) : after.caches = caches := quiet.caches.trans keeps
  induction room generalizing descriptor with
  | zero => exact .throw _
  | succ room ih =>
    refine Descriptor.readClass_preserves quiet (fun _ _ => id) (fun _ _ => id) ?keepWrapper ?calls
      fun names => Reads.resolve_preserves quiet
        (fun name sibling declared => ih (Descriptor.in_of_attribute? family declared)) _ names
    case keepWrapper =>
      intro store wrapper keeps
      obtain ⟨wrappers, changed⟩ := store.keepWrapper_eq descriptor.id modelClass.id wrapper
      rw [changed]
      exact keeps
    case calls =>
      refine Descriptor.call_preserves quiet fun leaf member isLeaf => ?_
      have isLocal := stays descriptor known _ leaf member
      refine Body.leaf_preserves quiet isLeaf ?reset ?ofClass ?ofInstance
      case reset =>
        rintro hybrid rfl
        exact isLocal.elim
      case ofClass =>
        intro owner name aims sibling declared
        obtain ⟨same, -⟩ := isLocal.target? aims
        cases same
        exact ih (Descriptor.in_of_attribute? family declared)
      case ofInstance =>
        intro owner key name aims
        obtain ⟨same, -⟩ := isLocal.target? aims
        cases same

theorem traced_of_keeps {reached : Descriptor → Prop} {before : Store} {stack : List Frame}
    (keeps : (setting.footprint modelClass reached before).Keeps before stack store) :
    setting.Traced store := by
  intro owner descriptor wrapper playing cached
  have held := (Ledger.ofFamily_wrapper setting.descriptors playing.2).mp (keeps.covers.wrapper cached)
  exact held.2 owner playing.1 rfl

/-- A class read leaves the cached wrappers traced. -/
theorem Traced.ofClass (stays : setting.StaysInScope) (traced : setting.Traced store)
    (playing : setting.Plays (.onClass modelClass) descriptor) :
    ((setting.directory.readsWithin room).ofClass modelClass descriptor).Ensures store
      fun _ after => setting.Traced after := by
  have trace : setting.ReadsTrace modelClass (fun _ => True) store
      (setting.directory.readsWithin room) :=
    stays.readsTrace playing.1 (fun _ _ _ _ => trivial) room
  exact (trace descriptor playing.2 trivial _ store traced.keeps).mono
    fun _ _ ⟨_, keeps⟩ => traced_of_keeps keeps

/-- Reading an attribute on a class adds wrappers of the class for hybrids that it leads to. -/
theorem Traced.get (stays : setting.StaysInScope) (traced : setting.Traced store)
    (family : setting.family modelClass) (name : String) :
    (modelClass.get setting.directory name).Ensures store fun _ after =>
      store.AddsWrappers modelClass.id
        ((Scope.onClass modelClass).Reaches (store.registry modelClass.registry).listed name)
        after := by
  have unchanged : store.AddsWrappers modelClass.id
      ((Scope.onClass modelClass).Reaches (store.registry modelClass.registry).listed name) store :=
    (Store.Quiet.refl store).addsWrappers
  unfold ModelClass.get Reads.hybridOf
  cases declared : modelClass.attribute? name with
  | none => exact unchanged
  | some kind =>
    cases kind with
    | field => exact unchanged
    | hybrid descriptor =>
      have known := Descriptor.in_of_attribute? family declared
      have playing : setting.Plays (.onClass modelClass) descriptor := ⟨family, known⟩
      have read : ((setting.directory.reads modelClass).ofClass modelClass descriptor).Growing
          setting.directory setting.Plays store :=
        (stays.resetFree.inPlay.grow _).ofClass_grows playing
      have same := stays.caches family known store.caches (setting.directory.room modelClass) store rfl
      have trace := stays.readsTrace family (fun _ _ => ReflTransGen.tail)
        (setting.directory.room modelClass) descriptor known .refl store.building store traced.keeps
      refine (read.and (same.and trace)).mono fun outcome after ⟨grows, same, _, keeps⟩ => ?_
      refine ⟨same, grows.precedes.generations, grows.precedes.alive, grows.precedes.wrapper, ?_⟩
      intro hybrid owner wrapper cached
      rcases grows.wrapper cached with held | ⟨other, last, rfl, rfl, origin⟩
      · exact .inl held
      · have held := (Ledger.ofFamily_wrapper setting.descriptors origin.inPlay.2).mp
          (keeps.covers.wrapper cached)
        exact held.1.imp_right fun ⟨sameClass, reached⟩ =>
          ⟨sameClass, descriptor, last, declared, reached, rfl⟩

end OnClasses

section OnInstances

variable {reached : Descriptor → Prop}

/-- The hybrids of the family that are reached, in the scope of one instance. -/
def PlaysFor (setting : Setting) (modelClass : ModelClass) (key : InstanceId)
    (reached : Descriptor → Prop) (scope : Scope) (descriptor : Descriptor) : Prop :=
  scope = .onInstance modelClass key ∧ descriptor.In setting.family ∧ reached descriptor

theorem StaysInScope.inPlay (stays : setting.StaysInScope) (family : setting.family modelClass)
    (closed : ∀ first second, reached first →
      (Scope.onInstance modelClass key).Needs [] first second → reached second) :
    setting.directory.InPlay (setting.PlaysFor modelClass key reached) where
  noReset := fun ⟨_, known, _⟩ member => stays _ known _ _ member
  reads := by
    rintro scope descriptor other leaf reading ⟨rfl, known, isReached⟩ member aims hybrid
    obtain ⟨same, touched⟩ := (stays _ known _ _ member).target? aims
    have declared := Reading.attribute?_of_hybrid? hybrid
    rw [same] at declared
    exact ⟨same, Descriptor.in_of_attribute? family declared,
      closed _ _ isReached ⟨reading.name, declared, .inl ⟨leaf, member, touched⟩⟩⟩
  siblings := fun ⟨impossible, _⟩ => nomatch impossible
  distinct first second same := setting.descriptors _ _ first.2.1 second.2.1 same

variable {before after : Store}

/-- Where only hybrids in the scope of an instance are in play, no wrapper is added. -/
theorem wrappers_of_grows
    (grows : Grows setting.directory (setting.PlaysFor modelClass key reached) before after) :
    after.wrappers = before.wrappers := by
  obtain ⟨added, gains⟩ := grows.gains
  have none : added = [] := by
    rw [List.eq_nil_iff_forall_not_mem]
    rintro ⟨⟨hybrid, owner⟩, wrapper⟩ member
    obtain ⟨held, cached⟩ := Option.ne_none_iff_exists'.mp (gains.get?_ne_none member)
    rcases grows.wrapper cached with former | ⟨_, _, _, _, origin⟩
    · exact Option.some_ne_none held (former.symm.trans (gains.absent _ member))
    · exact nomatch origin.inPlay.1
  have entries := gains.entries
  rw [none, List.append_nil] at entries
  exact congrArg Table.mk entries

theorem addsValues_of_grows
    (grows : Grows setting.directory (setting.PlaysFor modelClass key reached) before after)
    {hybrids : HybridId → Prop} (counts : ∀ descriptor, reached descriptor → hybrids descriptor.id) :
    before.AddsValues key hybrids after where
  wrappers := wrappers_of_grows grows
  generations := grows.precedes.generations
  alive := grows.precedes.alive
  kept := grows.precedes.value
  added held := by
    refine (grows.value held).imp_right fun ⟨owner, descriptor, origin⟩ => ?_
    obtain ⟨same, -, isReached⟩ := origin.inPlay
    obtain ⟨-, sameKey⟩ := Scope.onInstance.inj same
    exact ⟨sameKey, descriptor.id, counts descriptor isReached, origin.current⟩

/-- Reading an attribute on an instance adds values of the instance for hybrids that it leads to. -/
theorem StaysInScope.getFor (stays : setting.StaysInScope) (family : setting.family modelClass)
    (key : InstanceId) (name : String) :
    (modelClass.getFor setting.directory key name).Ensures store fun _ after =>
      store.AddsValues key ((Scope.onInstance modelClass key).Reaches [] name) after := by
  have inPlay : setting.directory.InPlay (setting.PlaysFor modelClass key fun last =>
      ∃ first, modelClass.attribute? name = some (.hybrid first) ∧
        ReflTransGen ((Scope.onInstance modelClass key).Needs []) first last) :=
    stays.inPlay family fun _ _ ⟨first, declared, path⟩ needs => ⟨first, declared, path.tail needs⟩
  refine ((inPlay.grow _).attributeOf fun descriptor declared => ?_).mono fun _ after grows =>
    addsValues_of_grows grows fun last ⟨first, declared, path⟩ => ⟨first, last, declared, path, rfl⟩
  exact ⟨rfl, Descriptor.in_of_attribute? family declared, descriptor, declared, .refl⟩

/-- An instance read of a hybrid, which the class need not declare, adds no wrapper. -/
theorem StaysInScope.ofInstance (stays : setting.StaysInScope)
    (playing : setting.Plays (.onInstance modelClass key) descriptor) :
    ((setting.directory.reads modelClass).ofInstance modelClass key descriptor).Ensures store
      fun _ after => after.wrappers = store.wrappers := by
  have inPlay : setting.directory.InPlay (setting.PlaysFor modelClass key fun _ => True) :=
    stays.inPlay playing.1 fun _ _ _ _ => trivial
  exact ((inPlay.grow _).ofInstance_grows ⟨rfl, playing.2, trivial⟩).mono
    fun _ _ grows => wrappers_of_grows grows

end OnInstances

section States

/-- The stores that reads lead to. In between hybrids may be reset, instances may come, change and
die, and registries may change: anything that caches no wrapper. -/
inductive Reached (setting : Setting) : Store → Prop
  | start : Reached setting setting.start
  | read {store : Store} {modelClass : ModelClass} {descriptor : Descriptor} {room : Nat} :
    Reached setting store → setting.Plays (.onClass modelClass) descriptor →
      Reached setting
        (((setting.directory.readsWithin room).ofClass modelClass descriptor).run store).2
  | change {before after : Store} : Reached setting before →
    (∀ hybrid owner wrapper, after.wrapper? hybrid owner = some wrapper →
      before.wrapper? hybrid owner = some wrapper) → Reached setting after

theorem Reached.traced (stays : setting.StaysInScope) (reached : setting.Reached store) :
    setting.Traced store := by
  induction reached with
  | start => exact setting.traced_start
  | read _ playing ih => exact ih.ofClass stays playing
  | change _ cached ih =>
    exact fun _ _ _ playing held => ih _ _ _ playing (cached _ _ _ held)

theorem Reached.sameWrappers {before after : Store} (reached : setting.Reached before)
    (same : after.wrappers = before.wrappers) : setting.Reached after :=
  reached.change fun _ _ _ cached => by rwa [Store.wrapper?, same] at cached

theorem Reached.resetHybrid (reached : setting.Reached store) (descriptor : Descriptor) :
    setting.Reached (store.resetHybrid descriptor) := by
  refine reached.change fun hybrid owner wrapper cached => ?_
  rw [Store.wrapper?_resetHybrid] at cached
  split at cached
  · cases cached
  · exact cached

theorem Reached.resetClass (reached : setting.Reached store) (modelClass : ModelClass) :
    setting.Reached (store.resetClass modelClass) := by
  unfold Store.resetClass
  induction modelClass.hybrids generalizing store with
  | nil => exact reached
  | cons hybrid rest ih => exact ih (reached.resetHybrid hybrid.2)

theorem Reached.register (reached : setting.Reached store) (registry : RegistryId) (kind : TermKind)
    (capability : Capability) : setting.Reached (store.register registry kind capability).2 := by
  refine reached.sameWrappers ?_
  unfold Store.register
  dsimp only
  split <;> rfl

theorem Reached.unregister (reached : setting.Reached store) (registry : RegistryId)
    (kind : TermKind) : setting.Reached (store.unregister registry kind).2 :=
  reached.sameWrappers rfl

theorem Reached.get (reached : setting.Reached store)
    (family : setting.family modelClass) (name : String) :
    (modelClass.get setting.directory name).Ensures store fun _ after => setting.Reached after := by
  unfold ModelClass.get Reads.hybridOf
  cases declared : modelClass.attribute? name with
  | none => exact reached
  | some kind =>
    cases kind with
    | field => exact reached
    | hybrid descriptor => exact reached.read ⟨family, Descriptor.in_of_attribute? family declared⟩

theorem Reached.getFor (stays : setting.StaysInScope) (reached : setting.Reached store)
    (family : setting.family modelClass) (key : InstanceId) (name : String) :
    (modelClass.getFor setting.directory key name).Ensures store fun _ after =>
      setting.Reached after :=
  (stays.getFor family key name).mono fun _ _ adds => reached.sameWrappers adds.wrappers

theorem Reached.reading (stays : setting.StaysInScope) (reached : setting.Reached store)
    {reading : Reading} (family : setting.family reading.scope.modelClass) :
    (reading.read setting.directory).Ensures store fun _ after => setting.Reached after := by
  obtain ⟨scope, name⟩ := reading
  cases scope with
  | onClass modelClass =>
    refine Action.ensures_bind_pure.mpr ?_
    exact reached.get family name
  | onInstance modelClass key =>
    refine Action.ensures_bind_pure.mpr ?_
    exact reached.getFor stays family key name

/-- Every history of reads and resets leads on. -/
theorem Reached.after (stays : setting.StaysInScope) (reached : setting.Reached store)
    {history : List Access} (within : ∀ access ∈ history, access.Within setting.family) :
    setting.Reached (store.after setting.directory history) := by
  unfold Store.after
  induction history generalizing store with
  | nil => exact reached
  | cons access rest ih =>
    obtain ⟨first, others⟩ := List.forall_mem_cons.mp within
    refine ih ?_ others
    cases access with
    | ofClass modelClass name => exact reached.get first name
    | ofInstance modelClass key name => exact reached.getFor stays first key name
    | reset descriptor => exact reached.resetHybrid descriptor
    | resetClass modelClass => exact reached.resetClass modelClass

/-- So does every run of reads while instances come and go. -/
theorem Reached.through (stays : setting.StaysInScope) (reached : setting.Reached store)
    {run : List Activity} (within : ∀ activity ∈ run, activity.Within setting.family) :
    setting.Reached (store.through setting.directory run) := by
  refine Store.through_preserves setting.Reached (fun activity member store reached => ?_) reached
  have here := within activity member
  cases activity with
  | read reading => exact reached.reading stays here
  | ofClass modelClass descriptor => exact reached.read here
  | ofInstance modelClass key descriptor =>
    have same : ((setting.directory.reads modelClass).ofInstance modelClass key descriptor).Ensures
        store fun _ after => after.wrappers = store.wrappers := stays.ofInstance here
    exact reached.sameWrappers same
  | arrive key model => exact reached.sameWrappers rfl
  | leave key => exact reached.sameWrappers rfl

end States

/-- Reads touch their own cache entries only, in whatever state they begin and whether they succeed
or not. On a class a read adds wrappers of the class for hybrids that the attribute leads to; on an
instance it adds values of the instance for hybrids that the attribute leads to, and may drop the
entries of dead instances. A reset only touches what is cached for its hybrid. -/
theorem reads_touch_own (stays : setting.StaysInScope) (reached : setting.Reached store)
    (family : setting.family modelClass) :
    (∀ name, (modelClass.get setting.directory name).Ensures store fun _ after =>
      store.AddsWrappers modelClass.id
        ((Scope.onClass modelClass).Reaches (store.registry modelClass.registry).listed name)
        after) ∧
    (∀ key name, (modelClass.getFor setting.directory key name).Ensures store fun _ after =>
      store.AddsValues key ((Scope.onInstance modelClass key).Reaches [] name) after) ∧
    ∀ descriptor : Descriptor, store.Forgets descriptor.id (store.resetHybrid descriptor) :=
  ⟨(reached.traced stays).get stays family, stays.getFor family, store.forgets_resetHybrid⟩

end Setting

end Hybrid

namespace Hybrid.Override

private theorem staysInScope : setting.StaysInScope := by
  intro descriptor known
  rcases eq_of_in known with rfl | rfl | rfl
  · exact Body.ComposedOf.staysInScope (.leaf (.read (.constant _)))
  · exact Body.ComposedOf.staysInScope (.leaf (.read (.constant _)))
  · exact Body.ComposedOf.staysInScope (.leaf (.read (.byName _)))

/-- The charge was read on the derived class and on an instance, and the rate was reset. Since then
no class depends on what its expressions refer to. -/
def used : Store :=
  (((setting.after [.ofClass derived charge, .arrive ⟨2⟩ (.record .empty)]).after setting.directory
    [.ofInstance derived ⟨2⟩ "charge", .reset ofDerived]).unregister Store.sharedRegistry
      (.symbolic .field)).2

private theorem reached_used : setting.Reached used := by
  refine ((Setting.Reached.through staysInScope .start ?_).after staysInScope ?_).unregister _ _
  · simp only [List.forall_mem_cons, List.not_mem_nil, IsEmpty.forall_iff, implies_true, and_true]
    exact ⟨⟨.inr rfl, charge_in⟩, trivial⟩
  · simp only [List.forall_mem_cons, List.not_mem_nil, IsEmpty.forall_iff, implies_true, and_true]
    exact ⟨.inr rfl, trivial⟩

/-- The charge is a hybrid of both classes, but reading it on the base class leaves the derived one
its wrappers, and reading it on one instance leaves another one its value. -/
theorem reads_touch_own_charge :
    setting.StaysInScope ∧ setting.Reached used ∧ setting.family base ∧
    (base.get setting.directory "charge").Ensures used (fun _ after => after.caches = used.caches ∧
      ∀ hybrid, after.wrapper? hybrid derived.id = used.wrapper? hybrid derived.id) ∧
    (base.getFor setting.directory ⟨1⟩ "charge").Ensures used (fun _ after =>
      after.wrappers = used.wrappers ∧ ∀ cache,
        (after.cache cache).find? ⟨2⟩ = (used.cache cache).find? ⟨2⟩) ∧
    (used.resetHybrid charge).currentCache ofBase.id = used.currentCache ofBase.id := by
  obtain ⟨classes, instances, resets⟩ :=
    Setting.reads_touch_own staysInScope reached_used (show setting.family base from .inl rfl)
  refine ⟨staysInScope, reached_used, .inl rfl, ?_, ?_, ?_⟩
  · exact (classes "charge").mono fun _ after adds =>
      ⟨adds.caches, adds.wrapper?_eq (by decide)⟩
  · have lives : used.isAlive ⟨2⟩ = true := by cbv
    exact (instances ⟨1⟩ "charge").mono fun _ after adds =>
      ⟨adds.wrappers, adds.find?_eq (by decide) lives⟩
  · exact ((resets charge).current ofBase.id).mpr (by decide)

end Hybrid.Override
