import Hybrid.Proofs.Reading.Effects

/-! # Reading only adds to what is cached

A read of hybrids whose functions reset nothing leaves the build stack as it was and takes nothing
from the caches, whether it succeeds or not. Every wrapper and value that it adds has an origin: a
hybrid that was not under evaluation when the read began, and a build or an evaluation of it that
was completed in the course of the read and had this result. As a hybrid is under evaluation while
it is built, no other build of it for the same class is completed meanwhile. So what a build gives is
what is cached.
-/

namespace Hybrid

/-- Between the two stores the action ran and had this result. -/
def Action.RanBetween {α : Type} (action : Action α) (result : α) (before after : Store) : Prop :=
  ∃ begun ended, before.Precedes begun ∧ action.run begun = (.ok result, ended) ∧
    ended.Precedes after

theorem Action.RanBetween.widen {α : Type} {action : Action α} {result : α}
    {before after first last : Store} (ran : action.RanBetween result before after)
    (earlier : first.Precedes before) (later : after.Precedes last) :
    action.RanBetween result first last := by
  obtain ⟨begun, ended, begins, run, ends⟩ := ran
  exact ⟨begun, ended, earlier.trans begins, run, ends.trans later⟩

/-- The class has the wrapper cached for its hybrid of that name. -/
def Store.HasWrapper (store : Store) (modelClass : ModelClass) (name : String) (wrapper : Wrapper) :
    Prop :=
  ∃ descriptor, modelClass.attribute? name = some (.hybrid descriptor) ∧
    store.wrapper? descriptor.id modelClass.id = some wrapper

theorem Store.HasWrapper.later {before after : Store} {modelClass : ModelClass} {name : String}
    {wrapper : Wrapper} (has : before.HasWrapper modelClass name wrapper)
    (precedes : before.Precedes after) : after.HasWrapper modelClass name wrapper := by
  obtain ⟨descriptor, declared, cached⟩ := has
  exact ⟨descriptor, declared, precedes.wrapper cached⟩

/-- The hybrids that may be read in each scope: what their functions and expressions lead to is
again in play, and none of their functions resets a hybrid. -/
structure Directory.InPlay (directory : Directory) (play : Scope → Descriptor → Prop) : Prop where
  noReset {scope : Scope} {descriptor : Descriptor} {hybrid : String} : play scope descriptor →
    .reset hybrid ∉ descriptor.body.leaves scope
  reads {scope : Scope} {descriptor other : Descriptor} {leaf : Body} {reading : Reading} :
    play scope descriptor → leaf ∈ descriptor.body.leaves scope →
      directory.target? scope leaf = some reading → reading.hybrid? = some other →
        play reading.scope other
  siblings {modelClass : ModelClass} {descriptor sibling : Descriptor} {name : String} :
    play (.onClass modelClass) descriptor →
      modelClass.attribute? name = some (.hybrid sibling) → play (.onClass modelClass) sibling
  distinct {scope scope' : Scope} {first second : Descriptor} : play scope first →
    play scope' second → first.id = second.id → first = second

/-- Where a wrapper comes from that was cached between two stores. -/
structure WrapperOrigin (directory : Directory) (play : Scope → Descriptor → Prop)
    (before after : Store) (modelClass : ModelClass) (descriptor : Descriptor) (wrapper : Wrapper) :
    Prop where
  inPlay : play (.onClass modelClass) descriptor
  entered : ⟨modelClass.id, none, descriptor.name⟩ ∉ before.building
  built : ∃ room, (descriptor.buildWrapper (directory.readsWithin room) directory
    modelClass).RanBetween wrapper before after
  dependencies : ∀ dependency ∈ wrapper.dependencies,
    after.HasWrapper modelClass dependency.1 dependency.2

/-- Where a value comes from that was cached between two stores. -/
structure ValueOrigin (directory : Directory) (play : Scope → Descriptor → Prop)
    (before after : Store) (modelClass : ModelClass) (key : InstanceId) (descriptor : Descriptor)
    (cache : CacheId) (value : Stamped Term) : Prop where
  inPlay : play (.onInstance modelClass key) descriptor
  entered : ⟨modelClass.id, some key, descriptor.name⟩ ∉ before.building
  current : cache = before.currentCache descriptor.id
  evaluated : ∃ room, (descriptor.computeValue (directory.readsWithin room) directory
    modelClass key cache).RanBetween value before after

/-- What reading makes of a store. -/
structure Grows (directory : Directory) (play : Scope → Descriptor → Prop) (before after : Store) :
    Prop where
  precedes : before.Precedes after
  building : after.building = before.building
  gains : ∃ added, before.Gains after added
  wrapper {hybrid : HybridId} {owner : ClassId} {wrapper : Wrapper} :
    after.wrapper? hybrid owner = some wrapper →
      before.wrapper? hybrid owner = some wrapper ∨
        ∃ modelClass descriptor, modelClass.id = owner ∧ descriptor.id = hybrid ∧
          WrapperOrigin directory play before after modelClass descriptor wrapper
  value {cache : CacheId} {key : InstanceId} {value : Stamped Term} :
    (after.cache cache).find? key = some value →
      (before.cache cache).find? key = some value ∨
        ∃ modelClass descriptor,
          ValueOrigin directory play before after modelClass key descriptor cache value

section Growth

variable {directory : Directory} {play : Scope → Descriptor → Prop}
variable {before middle after : Store} {modelClass : ModelClass} {descriptor : Descriptor}
variable {key : InstanceId}

theorem WrapperOrigin.widen {first last : Store} {wrapper : Wrapper}
    (origin : WrapperOrigin directory play before after modelClass descriptor wrapper)
    (earlier : first.Precedes before) (building : ∀ frame ∈ first.building, frame ∈ before.building)
    (later : after.Precedes last) :
    WrapperOrigin directory play first last modelClass descriptor wrapper where
  inPlay := origin.inPlay
  entered member := origin.entered (building _ member)
  built := origin.built.imp fun _ ran => ran.widen earlier later
  dependencies dependency member := (origin.dependencies dependency member).later later

theorem ValueOrigin.widen {first last : Store} {cache : CacheId} {value : Stamped Term}
    (origin : ValueOrigin directory play before after modelClass key descriptor cache value)
    (earlier : first.Precedes before) (building : ∀ frame ∈ first.building, frame ∈ before.building)
    (later : after.Precedes last) :
    ValueOrigin directory play first last modelClass key descriptor cache value where
  inPlay := origin.inPlay
  entered member := origin.entered (building _ member)
  current := origin.current.trans (earlier.currentCache descriptor.id)
  evaluated := origin.evaluated.imp fun _ ran => ran.widen earlier later

theorem Store.Quiet.grows (quiet : before.Quiet after) : Grows directory play before after where
  precedes := quiet.precedes
  building := quiet.building
  gains := ⟨[], quiet.gains⟩
  wrapper cached := .inl (by simpa only [Store.wrapper?, quiet.wrappers] using cached)
  value held := .inl (by simpa only [Store.cache, quiet.caches] using held)

theorem Grows.refl (store : Store) : Grows directory play store store :=
  Store.Quiet.grows (.refl store)

theorem Grows.trans (first : Grows directory play before middle)
    (second : Grows directory play middle after) : Grows directory play before after where
  precedes := first.precedes.trans second.precedes
  building := second.building.trans first.building
  gains := by
    obtain ⟨added, gains⟩ := first.gains
    obtain ⟨more, gainsMore⟩ := second.gains
    exact ⟨added ++ more, gains.trans gainsMore⟩
  wrapper cached := by
    have same : ∀ frame ∈ before.building, frame ∈ middle.building := by
      simp [first.building]
    rcases second.wrapper cached with cached | ⟨owner, found, sameClass, sameHybrid, origin⟩
    · rcases first.wrapper cached with cached | ⟨owner, found, sameClass, sameHybrid, origin⟩
      · exact .inl cached
      · exact .inr ⟨owner, found, sameClass, sameHybrid,
          origin.widen (.refl _) (fun _ => id) second.precedes⟩
    · exact .inr ⟨owner, found, sameClass, sameHybrid, origin.widen first.precedes same (.refl _)⟩
  value held := by
    have same : ∀ frame ∈ before.building, frame ∈ middle.building := by
      simp [first.building]
    rcases second.value held with held | ⟨owner, found, origin⟩
    · rcases first.value held with held | ⟨owner, found, origin⟩
      · exact .inl held
      · exact .inr ⟨owner, found, origin.widen (.refl _) (fun _ => id) second.precedes⟩
    · exact .inr ⟨owner, found, origin.widen first.precedes same (.refl _)⟩

theorem Grows.quiet (quiet : middle.Quiet after) (grows : Grows directory play before middle) :
    Grows directory play before after :=
  grows.trans (Store.Quiet.grows quiet)

/-- Only hybrids that were not under evaluation count. -/
theorem Grows.impose {play' : Scope → Descriptor → Prop} (grows : Grows directory play before after)
    (remains : ∀ scope descriptor, play scope descriptor →
      ⟨scope.modelClass.id, scope.instance?, descriptor.name⟩ ∉ before.building →
        play' scope descriptor) : Grows directory play' before after where
  precedes := grows.precedes
  building := grows.building
  gains := grows.gains
  wrapper cached := by
    refine (grows.wrapper cached).imp id fun ⟨owner, found, sameClass, sameHybrid, origin⟩ => ?_
    have playing := remains (.onClass owner) found origin.inPlay origin.entered
    exact ⟨owner, found, sameClass, sameHybrid, playing, origin.entered, origin.built,
      origin.dependencies⟩
  value held := by
    refine (grows.value held).imp id fun ⟨owner, found, origin⟩ => ?_
    have playing := remains (.onInstance owner _) found origin.inPlay origin.entered
    exact ⟨owner, found, playing, origin.entered, origin.current, origin.evaluated⟩

/-- What grows with a frame on top of the build stack has grown once the frame is taken off. -/
theorem Grows.pop {frame : Frame}
    (grows : Grows directory play { before with building := before.building ++ [frame] } after) :
    Grows directory play before
      { after with building := after.building.take before.building.length } where
  precedes := (Store.Precedes.withBuilding before _).trans
    (grows.precedes.trans (.withBuilding after _))
  building := by
    dsimp only
    rw [grows.building, List.take_left]
  gains := by
    obtain ⟨added, gains⟩ := grows.gains
    exact ⟨added, gains.withBuilding before.building _⟩
  wrapper cached := by
    refine (grows.wrapper cached).imp id fun ⟨owner, found, sameClass, sameHybrid, origin⟩ => ?_
    exact ⟨owner, found, sameClass, sameHybrid, origin.widen (.withBuilding before _)
      (fun _ member => List.mem_append_left _ member) (.withBuilding after _)⟩
  value held := by
    refine (grows.value held).imp id fun ⟨owner, found, origin⟩ => ?_
    exact ⟨owner, found, origin.widen (.withBuilding before _)
      (fun _ member => List.mem_append_left _ member) (.withBuilding after _)⟩

/-- What a ledger says of the store, it goes on to say if it says so of what is added. -/
theorem Grows.keeps {ledger : Ledger} {start : Store} {stack : List Frame}
    (grows : Grows directory play before after) (keeps : ledger.Keeps start stack before)
    (wrapper : ∀ modelClass descriptor wrapper,
      WrapperOrigin directory play before after modelClass descriptor wrapper →
        ledger.wrapper descriptor.id modelClass.id wrapper)
    (value : ∀ modelClass key descriptor cache value,
      ValueOrigin directory play before after modelClass key descriptor cache value →
        ledger.value descriptor.id key value.content) : ledger.Keeps start stack after where
  building := grows.building.trans keeps.building
  covers := {
    wrapper := fun cached => by
      rcases grows.wrapper cached with held | ⟨owner, found, rfl, rfl, origin⟩
      · exact keeps.covers.wrapper held
      · exact wrapper owner found _ origin
    value := fun {hybrid key stamped} ⟨generation, held⟩ => by
      rcases grows.value held with former | ⟨owner, found, origin⟩
      · exact keeps.covers.value ⟨generation, former⟩
      · rw [(CacheId.ofHybrid.inj origin.current).1]
        exact value owner key found _ stamped origin
    resets := grows.precedes.generations ▸ keeps.covers.resets
    registries := grows.precedes.registries.trans keeps.covers.registries
    record := fun fixed => grows.precedes.record (keeps.covers.record fixed) }

/-- What a read leaves that fails: the store has grown as it would with the hybrid under evaluation
all along. -/
structure GrowsUnder (directory : Directory) (play : Scope → Descriptor → Prop) (frame : Frame)
    (before after : Store) : Prop where
  building : after.building = before.building
  under : Grows directory play { before with building := before.building ++ [frame] }
    { after with building := before.building ++ [frame] }

theorem GrowsUnder.refl (frame : Frame) (store : Store) :
    GrowsUnder directory play frame store store :=
  ⟨rfl, .refl _⟩

theorem GrowsUnder.pop {frame : Frame}
    (grows : Grows directory play { before with building := before.building ++ [frame] } after) :
    GrowsUnder directory play frame before
      { after with building := after.building.take before.building.length } where
  building := grows.pop.building
  under := by
    have same : after.building = before.building ++ [frame] := grows.building
    dsimp only
    rw [← same] at grows ⊢
    exact grows

theorem GrowsUnder.grows {frame : Frame} (failed : GrowsUnder directory play frame before after) :
    Grows directory play before after := by
  have popped := failed.under.pop
  dsimp only at popped
  rw [List.take_left, ← failed.building] at popped
  exact popped

theorem GrowsUnder.impose {play' : Scope → Descriptor → Prop} {frame : Frame}
    (failed : GrowsUnder directory play frame before after)
    (remains : ∀ scope descriptor, play scope descriptor →
      ⟨scope.modelClass.id, scope.instance?, descriptor.name⟩ ∉ before.building ++ [frame] →
        play' scope descriptor) : GrowsUnder directory play' frame before after :=
  ⟨failed.building, failed.under.impose remains⟩

/-- A new wrapper with an origin may be added. -/
theorem Grows.addWrapper {wrapper : Wrapper} (grows : Grows directory play before middle)
    (absent : middle.wrapper? descriptor.id modelClass.id = none)
    (origin : WrapperOrigin directory play before
      (middle.addWrapper descriptor.id modelClass.id wrapper) modelClass descriptor wrapper) :
    Grows directory play before (middle.addWrapper descriptor.id modelClass.id wrapper) where
  precedes := grows.precedes.trans (Store.precedes_addWrapper absent)
  building := grows.building
  gains := by
    obtain ⟨added, gains⟩ := grows.gains
    exact ⟨_, gains.trans (Store.gains_addWrapper absent)⟩
  wrapper cached := by
    rw [Store.wrapper?_addWrapper] at cached
    split at cached
    · next same =>
      injection same with sameHybrid sameClass
      rw [← Option.some.inj cached]
      exact .inr ⟨modelClass, descriptor, sameClass.symm, sameHybrid.symm, origin⟩
    · refine (grows.wrapper cached).imp id fun ⟨owner, found, sameClass, sameHybrid, former⟩ => ?_
      exact ⟨owner, found, sameClass, sameHybrid,
        former.widen (.refl _) (fun _ => id) (Store.precedes_addWrapper absent)⟩
  value held := by
    refine (grows.value held).imp id fun ⟨owner, found, former⟩ => ?_
    exact ⟨owner, found, former.widen (.refl _) (fun _ => id) (Store.precedes_addWrapper absent)⟩

/-- A value may be kept if what is held then has an origin. -/
theorem Grows.keepValue {cache : CacheId} {given value : Stamped Term}
    (grows : Grows directory play before middle)
    (kept : middle.keepValue cache key given = (value, after))
    (origin : ValueOrigin directory play before after modelClass key descriptor cache value) :
    Grows directory play before after := by
  have precedes := middle.precedes_keepValue cache key given
  have gains := middle.gains_keepValue cache key given
  have found {target : CacheId} {other : InstanceId} {held : Stamped Term} :
      ((middle.keepValue cache key given).2.cache target).find? other = some held →
        (middle.cache target).find? other = some held ∨
          target = cache ∧ other = key ∧ held = (middle.keepValue cache key given).1 :=
    Store.find?_of_keepValue
  obtain ⟨events, changed⟩ := middle.keepValue_eq cache key given
  rw [kept] at precedes gains found changed
  dsimp only at precedes gains found changed
  have wrappers : after.wrappers = middle.wrappers := by rw [changed]
  have building : after.building = middle.building := by rw [changed]
  refine ⟨grows.precedes.trans precedes, building.trans grows.building, ?_, fun cached => ?_,
    fun held => ?_⟩
  · obtain ⟨added, former⟩ := grows.gains
    exact ⟨_, former.trans gains⟩
  · rw [Store.wrapper?, wrappers] at cached
    rcases grows.wrapper cached with cached | ⟨owner, found, sameClass, sameHybrid, former⟩
    · exact .inl cached
    · exact .inr ⟨owner, found, sameClass, sameHybrid,
        former.widen (.refl _) (fun _ => id) precedes⟩
  · rcases found held with former | ⟨rfl, rfl, rfl⟩
    · rcases grows.value former with held | ⟨owner, found, former⟩
      · exact .inl held
      · exact .inr ⟨owner, found, former.widen (.refl _) (fun _ => id) precedes⟩
    · exact .inr ⟨modelClass, descriptor, origin⟩

/-- While a hybrid is under evaluation on a class, no wrapper of it is cached for the class. -/
theorem Grows.wrapper?_eq_none (grows : Grows directory play before after)
    (inPlay : directory.InPlay play) (playing : play (.onClass modelClass) descriptor)
    (under : ⟨modelClass.id, none, descriptor.name⟩ ∈ before.building)
    (absent : before.wrapper? descriptor.id modelClass.id = none) :
    after.wrapper? descriptor.id modelClass.id = none := by
  cases cached : after.wrapper? descriptor.id modelClass.id with
  | none => rfl
  | some wrapper =>
    rcases grows.wrapper cached with held | ⟨owner, found, sameClass, sameHybrid, origin⟩
    · rw [absent] at held
      cases held
    · obtain rfl := inPlay.distinct origin.inPlay playing sameHybrid
      have entered := origin.entered
      rw [sameClass] at entered
      exact absurd under entered

end Growth

/-- Whatever the action gives, it makes the store grow. -/
abbrev Action.Growing {α : Type} (action : Action α) (directory : Directory)
    (play : Scope → Descriptor → Prop) (store : Store) : Prop :=
  action.Ensures store fun _ after => Grows directory play store after

section Reads

variable {directory : Directory} {play : Scope → Descriptor → Prop} {store : Store}
variable {modelClass : ModelClass} {key : InstanceId} {descriptor : Descriptor}

/-- An action that goes on after one that makes the store grow makes it grow. -/
theorem Action.Growing.bind {α β : Type} {first : Action α} {next : α → Action β}
    (starts : first.Growing directory play store)
    (continues : ∀ result after, (next result).Growing directory play after) :
    (first >>= next).Growing directory play store := by
  refine Action.ensures_bind.mpr (starts.mono fun outcome after grows => ?_)
  cases outcome with
  | ok result => exact (continues result after).mono fun _ _ more => grows.trans more
  | error error => exact grows

/-- What grows from every store goes on to grow. -/
theorem Action.Growing.preserves {α : Type} {action : Action α}
    (grows : ∀ store, action.Growing directory play store) :
    action.Preserves (Grows directory play store) :=
  fun middle grown => (grows middle).mono fun _ _ more => grown.trans more

theorem Action.Preserves.growing {α : Type} {action : Action α}
    (preserves : action.Preserves (Grows directory play store)) :
    action.Growing directory play store :=
  preserves store (.refl store)

/-- How hybrids in play are read. -/
structure Reads.Grow (reads : Reads) (directory : Directory) (play : Scope → Descriptor → Prop) :
    Prop where
  ofClass {modelClass : ModelClass} {descriptor : Descriptor} (store : Store) :
    play (.onClass modelClass) descriptor →
      (reads.ofClass modelClass descriptor).Ensures store fun outcome after =>
        match outcome with
        | .ok wrapper => Grows directory play store after ∧
          after.wrapper? descriptor.id modelClass.id = some wrapper
        | .error _ =>
          GrowsUnder directory play ⟨modelClass.id, none, descriptor.name⟩ store after
  ofInstance {modelClass : ModelClass} {key : InstanceId} {descriptor : Descriptor} (store : Store) :
    play (.onInstance modelClass key) descriptor →
      (reads.ofInstance modelClass key descriptor).Ensures store fun outcome after =>
        match outcome with
        | .ok _ => Grows directory play store after
        | .error _ =>
          GrowsUnder directory play ⟨modelClass.id, some key, descriptor.name⟩ store after

section Functions

variable {reads : Reads} (grow : reads.Grow directory play)

include grow

theorem Reads.Grow.ofClass_grows (playing : play (.onClass modelClass) descriptor) :
    (reads.ofClass modelClass descriptor).Growing directory play store := by
  refine (grow.ofClass store playing).mono fun outcome after read => ?_
  cases outcome with
  | ok wrapper => exact read.1
  | error error => exact read.grows

theorem Reads.Grow.ofInstance_grows (playing : play (.onInstance modelClass key) descriptor) :
    (reads.ofInstance modelClass key descriptor).Growing directory play store := by
  refine (grow.ofInstance store playing).mono fun outcome after read => ?_
  cases outcome with
  | ok value => exact read
  | error error => exact read.grows

theorem Reads.Grow.attributeOf {name : String}
    (playing : ∀ descriptor, modelClass.attribute? name = some (.hybrid descriptor) →
      play (.onInstance modelClass key) descriptor) :
    (reads.attributeOf modelClass key name).Growing directory play store := by
  refine Action.Preserves.growing (Reads.attributeOf_preserves (fun _ _ => Grows.quiet) ?_)
  intro descriptor declared
  exact Action.Growing.preserves fun _ => grow.ofInstance_grows (playing descriptor declared)

theorem Reads.Grow.hybridOf {name : String}
    (playing : ∀ descriptor, modelClass.attribute? name = some (.hybrid descriptor) →
      play (.onClass modelClass) descriptor) :
    (reads.hybridOf modelClass name).Growing directory play store := by
  refine Action.Preserves.growing (Reads.hybridOf_preserves ?_)
  intro descriptor declared
  exact Action.Growing.preserves fun _ => grow.ofClass_grows (playing descriptor declared)

/-- Every leaf of a function makes the store grow. -/
private theorem leaf_grows (inPlay : directory.InPlay play) {scope : Scope}
    (playing : play scope descriptor) {leaf : Body}
    (member : leaf ∈ descriptor.body.leaves scope) (isLeaf : leaf.IsLeaf) :
    (leaf.run reads directory scope).Growing directory play store := by
  have target {reading : Reading} (aims : directory.target? scope leaf = some reading)
      (other : Descriptor)
      (declared : reading.scope.modelClass.attribute? reading.name = some (.hybrid other)) :
      play reading.scope other :=
    inPlay.reads playing member aims (Reading.hybrid?_eq_some reading.scope declared)
  refine Action.Preserves.growing (Body.leaf_preserves (fun _ _ => Grows.quiet) isLeaf ?reset
    ?ofClass ?ofInstance)
  case reset =>
    rintro hybrid rfl
    exact absurd member (inPlay.noReset playing)
  case ofClass =>
    intro owner name aims sibling declared
    exact Action.Growing.preserves fun _ => grow.ofClass_grows (target aims sibling declared)
  case ofInstance =>
    intro owner key name aims sibling declared
    exact Action.Growing.preserves fun _ => grow.ofInstance_grows (target aims sibling declared)

/-- Calling a function makes the store grow. -/
theorem Reads.Grow.call (inPlay : directory.InPlay play) {scope : Scope}
    (playing : play scope descriptor) :
    (descriptor.call reads directory scope).Growing directory play store := by
  refine Action.Preserves.growing (Descriptor.call_preserves (fun _ _ => Grows.quiet) ?_)
  intro leaf member isLeaf
  exact Action.Growing.preserves fun _ => leaf_grows grow inPlay playing member isLeaf

/-- Resolving names makes the store grow, and what it returns is cached. -/
theorem Reads.Grow.resolve
    (siblings : ∀ name sibling, modelClass.attribute? name = some (.hybrid sibling) →
      play (.onClass modelClass) sibling) (hybrid : String) (names : List String) :
    ∀ store, (reads.resolve modelClass hybrid names).Ensures store fun outcome after =>
      Grows directory play store after ∧ ∀ dependencies, outcome = .ok dependencies →
        ∀ dependency ∈ dependencies, after.HasWrapper modelClass dependency.1 dependency.2 := by
  induction names with
  | nil =>
    intro store
    refine ⟨Grows.refl store, fun dependencies same => ?_⟩
    rw [← Except.ok.inj same]
    exact List.forall_mem_nil _
  | cons name rest ih =>
    intro store
    unfold Reads.resolve
    cases declared : modelClass.attribute? name with
    | none =>
      refine ⟨Grows.refl store, fun dependencies same => ?_⟩
      cases same
    | some kind =>
      cases kind with
      | field =>
        refine Action.ensures_bind.mpr (Action.ensures_report.mpr ?_)
        have reported : Grows directory play store
            (store.report (.readsField modelClass.name hybrid name)) :=
          (Store.quiet_report rfl).grows
        refine (ih _).mono fun _ _ resolved => ?_
        exact ⟨reported.trans resolved.1, resolved.2⟩
      | hybrid sibling =>
        refine Action.ensures_bind.mpr ((grow.ofClass store (siblings name sibling declared)).mono ?_)
        intro outcome after read
        cases outcome with
        | error error =>
          refine ⟨read.grows, fun dependencies same => ?_⟩
          cases same
        | ok wrapper =>
          obtain ⟨grown, cached⟩ := read
          refine Action.ensures_bind_pure.mpr ((ih after).mono ?_)
          rintro outcome last ⟨more, held⟩
          refine ⟨grown.trans more, fun dependencies same => ?_⟩
          cases outcome with
          | error error => cases same
          | ok others =>
            rw [← Except.ok.inj same]
            refine List.forall_mem_cons.mpr ⟨?_, held others rfl⟩
            exact ⟨sibling, declared, more.precedes.wrapper cached⟩

/-- A build reports the new wrapper and then caches it: nothing was cached for the hybrid while it
was under evaluation. -/
theorem Reads.Grow.buildWrapper (inPlay : directory.InPlay play)
    (playing : play (.onClass modelClass) descriptor)
    (under : ⟨modelClass.id, none, descriptor.name⟩ ∈ store.building)
    (absent : store.wrapper? descriptor.id modelClass.id = none) :
    (descriptor.buildWrapper reads directory modelClass).Ensures store fun outcome after =>
      match outcome with
      | .error _ => Grows directory play store after
      | .ok wrapper => ∃ resolved, Grows directory play store resolved ∧
        resolved.wrapper? descriptor.id modelClass.id = none ∧
        (∀ dependency ∈ wrapper.dependencies,
          resolved.HasWrapper modelClass dependency.1 dependency.2) ∧
        after = resolved.addWrapper descriptor.id modelClass.id wrapper := by
  unfold Descriptor.buildWrapper
  refine Action.ensures_bind.mpr ((grow.call inPlay playing).mono fun outcome ran called => ?_)
  cases outcome with
  | error error => exact called
  | ok term =>
    refine Action.ensures_bind.mpr (Action.ensures_ofStep.mpr ?_)
    have asked : Grows directory play store (ran.wrap modelClass.registry term).2 :=
      called.trans (Store.quiet_wrap _ _).grows
    have siblings (name : String) (sibling : Descriptor)
        (declared : modelClass.attribute? name = some (.hybrid sibling)) :
        play (.onClass modelClass) sibling := inPlay.siblings playing declared
    refine Action.ensures_bind.mpr ((grow.resolve siblings descriptor.name _ _).mono ?_)
    rintro outcome resolved ⟨more, held⟩
    have grown := asked.trans more
    cases outcome with
    | error error => exact grown
    | ok dependencies =>
      refine Action.ensures_bind.mpr (Action.ensures_ofStep.mpr ?_)
      refine Action.ensures_bind.mpr (Action.ensures_report.mpr (Action.ensures_ofStep.mpr ?_))
      have stamped := grown.trans Store.quiet_fresh.grows
      have missing := stamped.wrapper?_eq_none inPlay playing under absent
      have kept := Store.keepWrapper_of_none (.mk resolved.fresh.1
        (ran.wrap modelClass.registry term).1.toTerm descriptor.name modelClass.id modelClass.name
        dependencies) missing
      dsimp only [Wrapper.report, Wrapper.ownerName, Wrapper.name, Wrapper.expression,
        Wrapper.dependencies] at kept
      rw [kept]
      exact ⟨resolved.fresh.2, stamped, missing, held dependencies rfl, rfl⟩

/-- An evaluation keeps its value, unless there is one by then. -/
theorem Reads.Grow.computeValue (inPlay : directory.InPlay play)
    (playing : play (.onInstance modelClass key) descriptor) (cache : CacheId) :
    (descriptor.computeValue reads directory modelClass key cache).Ensures store
      fun outcome after =>
        match outcome with
        | .error _ => Grows directory play store after
        | .ok value => ∃ evaluated given, Grows directory play store evaluated ∧
          evaluated.keepValue cache key given = (value, after) := by
  unfold Descriptor.computeValue
  refine Action.ensures_bind.mpr ((grow.call inPlay playing).mono fun outcome ran called => ?_)
  cases outcome with
  | error error => exact called
  | ok term =>
    refine Action.ensures_bind.mpr (Action.ensures_stamp.mpr ?_)
    refine Action.ensures_bind.mpr (Action.ensures_report.mpr (Action.ensures_ofStep.mpr ?_))
    have stamped : Grows directory play ran ran.fresh.2 := Store.quiet_fresh.grows
    have reported : Grows directory play ran.fresh.2
        (ran.fresh.2.report (.evaluated modelClass.name descriptor.name term)) :=
      (Store.quiet_report rfl).grows
    exact ⟨_, _, called.trans (stamped.trans reported), rfl⟩

end Functions

section Hybrids

variable {room : Nat} (grow : (directory.readsWithin room).Grow directory play)
variable (inPlay : directory.InPlay play)

include grow inPlay

/-- Reading a hybrid on a class makes the store grow, and what is read is cached. -/
private theorem readClass_grows (playing : play (.onClass modelClass) descriptor) :
    (descriptor.readClass (directory.readsWithin room) directory modelClass).Ensures store
      fun outcome after =>
        match outcome with
        | .ok wrapper => Grows directory play store after ∧
          after.wrapper? descriptor.id modelClass.id = some wrapper
        | .error _ =>
          GrowsUnder directory play ⟨modelClass.id, none, descriptor.name⟩ store after := by
  unfold Descriptor.readClass
  refine Action.ensures_bind.mpr (Action.ensures_look.mpr ?_)
  dsimp only
  cases hit : store.wrapper? descriptor.id modelClass.id with
  | some wrapper =>
    exact Action.ensures_bind.mpr (Action.ensures_report.mpr ⟨(Store.quiet_report rfl).grows, hit⟩)
  | none =>
    rw [Action.ensures_guarded]
    cases entered : store.cycle? ⟨modelClass.id, none, descriptor.name⟩ with
    | some chain => exact .refl _ store
    | none =>
      have outside := Store.cycle?_eq_none.mp entered
      have under : (⟨modelClass.id, none, descriptor.name⟩ : Frame) ∈
          store.building ++ [⟨modelClass.id, none, descriptor.name⟩] := by simp
      refine (Reads.Grow.buildWrapper grow inPlay playing under (by exact hit)).mono_run ?_
      intro outcome after run built
      cases outcome with
      | error error => exact .pop built
      | ok wrapper =>
        obtain ⟨resolved, grown, absent, held, rfl⟩ := built
        have popped := grown.pop
        have ends := Store.Precedes.withBuilding
          (resolved.addWrapper descriptor.id modelClass.id wrapper)
          (resolved.building.take store.building.length)
        have later := (Store.precedes_addWrapper absent).trans ends
        refine ⟨popped.addWrapper absent ⟨playing, outside, ⟨room, _, _, .withBuilding _ _, run, ends⟩,
          fun dependency member => (held dependency member).later later⟩, ?_⟩
        have cached : (resolved.addWrapper descriptor.id modelClass.id wrapper).wrapper?
            descriptor.id modelClass.id = some wrapper := by
          rw [Store.wrapper?_addWrapper, if_pos rfl]
        exact cached

/-- Reading a hybrid on an instance makes the store grow. -/
private theorem readInstance_grows (playing : play (.onInstance modelClass key) descriptor) :
    (descriptor.readInstance (directory.readsWithin room) directory modelClass key).Ensures store
      fun outcome after =>
        match outcome with
        | .ok _ => Grows directory play store after
        | .error _ =>
          GrowsUnder directory play ⟨modelClass.id, some key, descriptor.name⟩ store after := by
  unfold Descriptor.readInstance
  refine Action.ensures_bind.mpr (Action.ensures_look.mpr ?_)
  refine Action.ensures_bind.mpr (Action.ensures_look.mpr ?_)
  dsimp only
  cases (store.cache (store.currentCache descriptor.id)).get? store.isAlive key with
  | some value => exact Action.ensures_bind.mpr (Store.quiet_report rfl).grows
  | none =>
    rw [Action.ensures_guarded]
    cases entered : store.cycle? ⟨modelClass.id, some key, descriptor.name⟩ with
    | some chain => exact .refl _ store
    | none =>
      have outside := Store.cycle?_eq_none.mp entered
      refine (grow.computeValue inPlay playing _).mono_run ?_
      intro outcome after run computed
      cases outcome with
      | error error => exact .pop computed
      | ok value =>
        obtain ⟨evaluated, given, grown, kept⟩ := computed
        have commutes := evaluated.keepValue_withBuilding (store.currentCache descriptor.id) key given
          (evaluated.building.take store.building.length)
        obtain ⟨events, changed⟩ :=
          evaluated.keepValue_eq (store.currentCache descriptor.id) key given
        rw [kept] at commutes changed
        dsimp only at commutes changed
        have same : after.building = evaluated.building := by rw [changed]
        rw [same]
        exact grown.pop.keepValue commutes
          ⟨playing, outside, rfl, room, _, _, .withBuilding _ _, run, .withBuilding _ _⟩

end Hybrids

/-- Reads of hybrids make the store grow, however many may be nested. -/
theorem Directory.InPlay.grow (inPlay : directory.InPlay play) (room : Nat) :
    (directory.readsWithin room).Grow directory play := by
  induction room with
  | zero => exact ⟨fun store _ => .refl _ store, fun store _ => .refl _ store⟩
  | succ room grow =>
    exact ⟨fun store playing => readClass_grows grow inPlay playing,
      fun store playing => readInstance_grows grow inPlay playing⟩

/-- A reading makes the store grow. -/
theorem Reading.read_grows (inPlay : directory.InPlay play) {reading : Reading}
    (playing : ∀ descriptor, reading.hybrid? = some descriptor → play reading.scope descriptor) :
    (reading.read directory).Growing directory play store := by
  obtain ⟨scope, name⟩ := reading
  have declared (descriptor : Descriptor)
      (declared : scope.modelClass.attribute? name = some (.hybrid descriptor)) :
      play scope descriptor :=
    playing descriptor (Reading.hybrid?_eq_some scope declared)
  have grow := inPlay.grow (directory.room scope.modelClass)
  cases scope with
  | onClass modelClass => exact .bind (grow.hybridOf declared) fun _ after => Grows.refl after
  | onInstance modelClass key =>
    exact .bind (grow.attributeOf declared) fun _ after => Grows.refl after

end Reads

end Hybrid
