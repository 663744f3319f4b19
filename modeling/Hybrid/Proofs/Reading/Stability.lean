import Mathlib
import Hybrid.Proofs.Reading.Growth
import Hybrid.Proofs.Reading.Transparency

/-! # Identity between resets

Classes are read in any order, by attributes or by hybrids themselves, while instances come and go.
As long as nothing is reset, a hybrid has one wrapper for a class from its first successful read on,
wherever this read was nested, and one value for an instance as long as the instance is alive. Each
completed build is reported once and has its own pair of a hybrid and a class. A wrapper always
depends on the wrappers that reading its dependencies returns.
-/

namespace Hybrid

/-- What a user of classes may do, other than to reset hybrids. -/
inductive Activity where
  /-- An attribute is read by its name. -/
  | read (reading : Reading)
  /-- A hybrid is read on a class, which need not declare it. -/
  | ofClass (modelClass : ModelClass) (descriptor : Descriptor)
  /-- A hybrid is read on an instance of a class. -/
  | ofInstance (modelClass : ModelClass) (key : InstanceId) (descriptor : Descriptor)
  /-- An instance comes to life, or holds something else from now on. -/
  | arrive (key : InstanceId) (model : Model)
  /-- An instance dies. -/
  | leave (key : InstanceId)

namespace Activity

/-- The store after an activity, whether it succeeds or not. -/
def perform (directory : Directory) (store : Store) : Activity → Store
  | read reading => ((reading.read directory).run store).2
  | ofClass modelClass descriptor =>
    (((directory.reads modelClass).ofClass modelClass descriptor).run store).2
  | ofInstance modelClass key descriptor =>
    (((directory.reads modelClass).ofInstance modelClass key descriptor).run store).2
  | arrive key model => { store with instances := store.instances.put key model }
  | leave key => { store with instances := store.instances.erase key }

/-- Whether an activity reads classes and hybrids of a family only. -/
def Within (family : ModelClass → Prop) : Activity → Prop
  | read reading => family reading.scope.modelClass
  | ofClass modelClass descriptor => family modelClass ∧ descriptor.In family
  | ofInstance modelClass _ descriptor => family modelClass ∧ descriptor.In family
  | arrive _ _ => True
  | leave _ => True

end Activity

/-- The store after activities one after the other. -/
def Store.through (store : Store) (directory : Directory) (run : List Activity) : Store :=
  run.foldl (Activity.perform directory) store

/-- A run preserves what each of its activities preserves. -/
theorem Store.through_preserves (kept : Store → Prop) {directory : Directory} {run : List Activity}
    (step : ∀ activity ∈ run, ∀ store, kept store → kept (activity.perform directory store)) :
    ∀ {store : Store}, kept store → kept (store.through directory run) := by
  unfold Store.through
  induction run with
  | nil => exact id
  | cons activity rest ih =>
    intro store keeps
    obtain ⟨first, others⟩ := List.forall_mem_cons.mp step
    exact ih others (first store keeps)

theorem Store.through_append (store : Store) (directory : Directory) (first second : List Activity) :
    store.through directory (first ++ second) =
      (store.through directory first).through directory second :=
  List.foldl_append ..

/-- A value of a live instance stays. -/
theorem Store.Precedes.value? {before after : Store} (precedes : before.Precedes after)
    {hybrid : HybridId} {key : InstanceId} {value : Stamped Term}
    (cached : before.value? hybrid key = some value) : after.value? hybrid key = some value := by
  obtain ⟨lives, held⟩ := Option.ite_none_right_eq_some.mp cached
  unfold Store.value? InstanceCache.get?
  rw [precedes.currentCache, precedes.alive, if_pos lives]
  exact precedes.value lives held

section Hits

variable {descriptor : Descriptor} {modelClass : ModelClass} {store : Store} {wrapper : Wrapper}

/-- A cached wrapper is read, and nothing is run. -/
theorem Descriptor.readClass_hit (reads : Reads) (directory : Directory)
    (cached : store.wrapper? descriptor.id modelClass.id = some wrapper) :
    (descriptor.readClass reads directory modelClass).run store =
      (.ok wrapper, store.report (.classHit modelClass.name descriptor.name)) := by
  have hit : (descriptor.readClass reads directory modelClass).Ensures store fun outcome after =>
      (outcome, after) =
        (.ok wrapper, store.report (.classHit modelClass.name descriptor.name)) := by
    unfold Descriptor.readClass
    refine Action.ensures_bind.mpr (Action.ensures_look.mpr ?_)
    rw [cached]
    exact Action.ensures_bind.mpr (Action.ensures_report.mpr rfl)
  exact hit

/-- There is room for reading a hybrid. -/
theorem Directory.exists_room (directory : Directory) (modelClass : ModelClass) :
    ∃ room, directory.reads modelClass = directory.readsWithin (room + 1) := by
  obtain ⟨room, enough⟩ : ∃ less, directory.room modelClass = less + 1 :=
    ⟨directory.room modelClass - 1, by unfold Directory.room; omega⟩
  exact ⟨room, by rw [Directory.reads, enough]⟩

end Hits

/-- A dependency that is cached for a class is what reading its name on the class returns. -/
theorem Store.HasWrapper.get {store : Store} {modelClass : ModelClass} {name : String}
    {wrapper : Wrapper} (has : store.HasWrapper modelClass name wrapper) (directory : Directory) :
    ((modelClass.get directory name).run store).1 = .ok wrapper := by
  obtain ⟨descriptor, declared, cached⟩ := has
  obtain ⟨room, reads⟩ := directory.exists_room modelClass
  have hit := descriptor.readClass_hit (directory.readsWithin room) directory cached
  unfold ModelClass.get Reads.hybridOf
  rw [reads, declared]
  exact congrArg Prod.fst hit

namespace Setting

variable {setting : Setting}

/-- A hybrid of the family in the scope of one of its classes. -/
def Plays (setting : Setting) (scope : Scope) (descriptor : Descriptor) : Prop :=
  setting.family scope.modelClass ∧ descriptor.In setting.family

/-- No function of the family resets a hybrid. -/
def ResetFree (setting : Setting) : Prop :=
  ∀ scope descriptor hybrid, setting.Plays scope descriptor →
    .reset hybrid ∉ descriptor.body.leaves scope

/-- What a function reads belongs to a class of the family. -/
theorem family_of_target? {scope : Scope} {leaf : Body} {reading : Reading}
    (family : setting.family scope.modelClass)
    (aims : setting.directory.target? scope leaf = some reading) :
    setting.family reading.scope.modelClass := by
  cases leaf with
  | byName name =>
    cases scope with
    | onClass modelClass => cases aims
    | onInstance modelClass key =>
      obtain rfl := Option.some.inj aims
      exact family
  | byValue name =>
    obtain rfl := Option.some.inj aims
    exact family
  | ofClass owner name =>
    obtain ⟨modelClass, found, same⟩ := Option.bind_eq_some_iff.mp aims
    obtain rfl := Option.some.inj same
    exact setting.listed _ _ found
  | ofInstance owner instance? name =>
    obtain ⟨modelClass, found, rest⟩ := Option.bind_eq_some_iff.mp aims
    obtain ⟨key, -, same⟩ := Option.bind_eq_some_iff.mp rest
    obtain rfl := Option.some.inj same
    exact setting.listed _ _ found
  | _ => cases aims

/-- A function may read and reset what it likes: if the ledger does not count resets, it keeps what
reads of the family keep. -/
theorem run_preserves {ledger : Ledger} {start : Store} {stack : List Frame} {reads : Reads}
    (resets : ∀ counts, ledger.resets counts)
    (ofClass : ∀ modelClass name descriptor, setting.family modelClass →
      modelClass.attribute? name = some (.hybrid descriptor) →
        (reads.ofClass modelClass descriptor).Preserves (ledger.Keeps start stack))
    (ofInstance : ∀ modelClass key name descriptor, setting.family modelClass →
      modelClass.attribute? name = some (.hybrid descriptor) →
        (reads.ofInstance modelClass key descriptor).Preserves (ledger.Keeps start stack))
    (scope : Scope) (family : setting.family scope.modelClass) (body : Body) :
    (body.run reads setting.directory scope).Preserves (ledger.Keeps start stack) := by
  refine Body.run_preserves fun leaf _ isLeaf => ?_
  refine Body.leaf_preserves (fun _ _ => Ledger.Keeps.quiet) isLeaf ?reset ?ofClass ?ofInstance
  case reset =>
    exact fun _ _ store descriptor keeps =>
      ⟨keeps.covers.resetHybrid descriptor (resets _), keeps.building⟩
  case ofClass =>
    exact fun owner name aims descriptor declared =>
      ofClass owner name descriptor (family_of_target? family aims) declared
  case ofInstance =>
    exact fun owner key name aims descriptor declared =>
      ofInstance owner key name descriptor (family_of_target? family aims) declared

/-- The hybrids of a family only lead to each other. -/
theorem ResetFree.inPlay (resetFree : setting.ResetFree) :
    setting.directory.InPlay setting.Plays where
  noReset playing := resetFree _ _ _ playing
  reads := by
    intro scope descriptor other leaf reading playing _ aims hybrid
    have family := family_of_target? playing.1 aims
    exact ⟨family, Descriptor.in_of_attribute? family (Reading.attribute?_of_hybrid? hybrid)⟩
  siblings := by
    intro modelClass descriptor sibling name playing declared
    exact ⟨playing.1, Descriptor.in_of_attribute? playing.1 declared⟩
  distinct first second same := setting.descriptors _ _ first.2 second.2 same

/-- An activity makes the store grow, or only has an instance come or go. -/
theorem ResetFree.perform (resetFree : setting.ResetFree) {activity : Activity}
    (within : activity.Within setting.family) (store : Store) :
    Grows setting.directory setting.Plays store (activity.perform setting.directory store) ∨
      ∃ instances, activity.perform setting.directory store = { store with instances } ∧
        ∀ key, activity ≠ .leave key → store.isAlive key = true →
          (activity.perform setting.directory store).isAlive key = true := by
  have inPlay := resetFree.inPlay
  cases activity with
  | read reading =>
    left
    exact Reading.read_grows inPlay fun descriptor hybrid =>
      ⟨within, Descriptor.in_of_attribute? within (Reading.attribute?_of_hybrid? hybrid)⟩
  | ofClass modelClass descriptor =>
    left
    have playing : setting.Plays (.onClass modelClass) descriptor := within
    exact (inPlay.grow _).ofClass_grows playing
  | ofInstance modelClass key descriptor =>
    left
    have playing : setting.Plays (.onInstance modelClass key) descriptor := within
    exact (inPlay.grow _).ofInstance_grows playing
  | arrive key model =>
    right
    refine ⟨_, rfl, fun other _ lives => ?_⟩
    unfold Activity.perform Store.isAlive
    dsimp only
    rw [Table.get?_put]
    split
    · rfl
    · exact lives
  | leave key =>
    right
    refine ⟨_, rfl, fun other stays lives => ?_⟩
    unfold Activity.perform Store.isAlive
    dsimp only
    have differ : other ≠ key := fun same => stays (by rw [same])
    rw [Table.get?_erase, if_neg differ]
    exact lives

/-- Every wrapper of the family depends on what its class has cached. -/
def Linked (setting : Setting) (store : Store) : Prop :=
  ∀ modelClass descriptor wrapper, setting.Plays (.onClass modelClass) descriptor →
    store.wrapper? descriptor.id modelClass.id = some wrapper →
      ∀ dependency ∈ wrapper.dependencies, store.HasWrapper modelClass dependency.1 dependency.2

theorem Linked.grows {before after : Store} (linked : setting.Linked before)
    (grows : Grows setting.directory setting.Plays before after) : setting.Linked after := by
  intro modelClass descriptor wrapper playing cached dependency member
  rcases grows.wrapper cached with held | ⟨owner, found, sameClass, -, origin⟩
  · exact (linked _ _ _ playing held dependency member).later grows.precedes
  · obtain rfl := setting.classes owner modelClass origin.inPlay.1 playing.1 sameClass
    exact origin.dependencies dependency member

section Run

variable (resetFree : setting.ResetFree) {run : List Activity} {store : Store}
variable (within : ∀ activity ∈ run, activity.Within setting.family)

include resetFree within

/-- Wrappers stay. -/
private theorem wrapper?_through {hybrid : HybridId} {owner : ClassId} {wrapper : Wrapper}
    (cached : store.wrapper? hybrid owner = some wrapper) :
    (store.through setting.directory run).wrapper? hybrid owner = some wrapper := by
  refine Store.through_preserves (fun store => store.wrapper? hybrid owner = some wrapper)
    (fun activity member store cached => ?_) cached
  rcases resetFree.perform (within activity member) store with grows | ⟨instances, changed, -⟩
  · exact grows.precedes.wrapper cached
  · rw [changed]
    exact cached

/-- Values stay as long as their instance is alive. -/
private theorem value?_through {hybrid : HybridId} {key : InstanceId} {value : Stamped Term}
    (stays : .leave key ∉ run) (cached : store.value? hybrid key = some value) :
    (store.through setting.directory run).value? hybrid key = some value := by
  refine Store.through_preserves (fun store => store.value? hybrid key = some value)
    (fun activity member store cached => ?_) cached
  rcases resetFree.perform (within activity member) store with grows | ⟨instances, changed, alive⟩
  · exact grows.precedes.value? cached
  · obtain ⟨lives, held⟩ := Option.ite_none_right_eq_some.mp cached
    have remains := alive key (fun same => stays (same ▸ member)) lives
    rw [changed] at remains ⊢
    unfold Store.value? InstanceCache.get?
    rw [if_pos remains]
    exact held

private theorem linked_through (linked : setting.Linked store) :
    setting.Linked (store.through setting.directory run) := by
  refine Store.through_preserves setting.Linked (fun activity member store linked => ?_) linked
  rcases resetFree.perform (within activity member) store with grows | ⟨instances, changed, -⟩
  · exact linked.grows grows
  · rw [changed]
    exact linked

/-- Every wrapper that is gained in a run is reported once. -/
private theorem gains_through (store : Store) :
    ∃ added, store.Gains (store.through setting.directory run) added := by
  refine Store.through_preserves (fun after => ∃ added, store.Gains after added)
    (fun activity member middle ⟨added, gains⟩ => ?_) ⟨[], .refl store⟩
  rcases resetFree.perform (within activity member) middle with grows | ⟨instances, changed, -⟩
  · obtain ⟨more, gainsMore⟩ := grows.gains
    exact ⟨added ++ more, gains.trans gainsMore⟩
  · rw [changed]
    exact ⟨added, gains.entries, gains.builds, gains.absent, gains.nodup⟩

end Run

/-- The store after a run from the start. -/
def after (setting : Setting) (run : List Activity) : Store :=
  setting.start.through setting.directory run

theorem after_append (setting : Setting) (first second : List Activity) :
    setting.after (first ++ second) = (setting.after first).through setting.directory second :=
  Store.through_append ..

/-- In the beginning there are no wrappers that could depend on others. -/
theorem linked_start (setting : Setting) : setting.Linked setting.start := by
  intro modelClass descriptor wrapper playing cached
  rw [setting.blank.wrapper playing.2] at cached
  cases cached

variable {modelClass : ModelClass} {descriptor : Descriptor} {key : InstanceId} {room : Nat}
variable {before after : Store}

/-- What a class read returned is cached after it. -/
private theorem ResetFree.wrapper?_of_ran (resetFree : setting.ResetFree)
    (playing : setting.Plays (.onClass modelClass) descriptor) {wrapper : Wrapper}
    (ran : ((setting.directory.readsWithin room).ofClass modelClass descriptor).RanBetween wrapper
      before after) : after.wrapper? descriptor.id modelClass.id = some wrapper := by
  obtain ⟨begun, ended, -, run, ends⟩ := ran
  have read := (resetFree.inPlay.grow room).ofClass begun playing
  unfold Action.Ensures at read
  rw [run] at read
  exact ends.wrapper read.2

/-- What an instance read returned is cached after it if the instance is alive. -/
private theorem ResetFree.value?_of_ran (resetFree : setting.ResetFree)
    (playing : setting.Plays (.onInstance modelClass key) descriptor) {value : Stamped Term}
    (lives : before.isAlive key = true)
    (ran : ((setting.directory.readsWithin room).ofInstance modelClass key descriptor).RanBetween value
      before after) : after.value? descriptor.id key = some value := by
  obtain ⟨begun, ended, begins, run, ends⟩ := ran
  cases room with
  | zero => cases run
  | succ room =>
    have grows := (resetFree.inPlay.grow (room + 1)).ofInstance begun playing
    have cached := descriptor.value?_readInstance (setting.directory.readsWithin room)
      setting.directory modelClass key begun
    have same : (descriptor.readInstance (setting.directory.readsWithin room) setting.directory
        modelClass key).run begun = (.ok value, ended) := run
    unfold Action.Ensures at grows cached
    rw [run] at grows
    rw [same] at cached
    dsimp only at grows
    refine ends.value? (cached value rfl grows.precedes.generations ?_)
    rw [grows.precedes.alive, begins.alive, lives]

/-- Between resets a hybrid keeps its identity. Take any activity of a run that resets nothing, and
a read that is made in the course of it, at whatever depth.

If a class read of a hybrid returned a wrapper, then every later read of the hybrid on the class
returns this very wrapper and runs nothing, and so does every read of a dependency of it. If an
instance read of a hybrid returned a value, then as long as the instance is alive every later read
of the hybrid on it returns this very value, through whatever class. The completed builds that the
run reports are those of the wrappers that it has cached, each for its own hybrid and class. -/
theorem reads_stable (resetFree : setting.ResetFree) {first second : List Activity}
    {activity : Activity}
    (within : ∀ other ∈ first ++ activity :: second, other.Within setting.family) :
    (∀ modelClass descriptor room wrapper, setting.Plays (.onClass modelClass) descriptor →
      (((setting.directory.readsWithin room).ofClass modelClass descriptor).RanBetween wrapper
        (setting.after first) (setting.after (first ++ [activity]))) →
      (((setting.directory.reads modelClass).ofClass modelClass descriptor).run
        (setting.after (first ++ activity :: second)) =
          (.ok wrapper, (setting.after (first ++ activity :: second)).report
            (.classHit modelClass.name descriptor.name))) ∧
      ∀ dependency ∈ wrapper.dependencies,
        ((modelClass.get setting.directory dependency.1).run
          (setting.after (first ++ activity :: second))).1 = .ok dependency.2) ∧
    (∀ modelClass other descriptor key room value,
      setting.Plays (.onInstance modelClass key) descriptor →
      (setting.after first).isAlive key = true → .leave key ∉ second →
      (((setting.directory.readsWithin room).ofInstance modelClass key descriptor).RanBetween value
        (setting.after first) (setting.after (first ++ [activity]))) →
      (((setting.directory.reads other).ofInstance other key descriptor).run
        (setting.after (first ++ activity :: second))).1 = .ok value) ∧
    ∃ added, setting.start.Gains (setting.after (first ++ activity :: second)) added := by
  have later : ∀ other ∈ second, other.Within setting.family := fun other member =>
    within other (List.mem_append_right _ (List.mem_cons_of_mem _ member))
  have split : setting.after (first ++ activity :: second) =
      (setting.after (first ++ [activity])).through setting.directory second := by
    rw [← setting.after_append, List.append_assoc]
    rfl
  have linked := linked_through resetFree within setting.linked_start
  change setting.Linked (setting.after (first ++ activity :: second)) at linked
  refine ⟨?ofClass, ?ofInstance, gains_through resetFree within setting.start⟩
  case ofClass =>
    intro modelClass descriptor room wrapper playing ran
    have cached := wrapper?_through resetFree later (resetFree.wrapper?_of_ran playing ran)
    rw [← split] at cached
    obtain ⟨less, reads⟩ := setting.directory.exists_room modelClass
    rw [reads]
    refine ⟨descriptor.readClass_hit _ _ cached, fun dependency member => ?_⟩
    exact (linked _ _ _ playing cached dependency member).get setting.directory
  case ofInstance =>
    intro modelClass other descriptor key room value playing lives stays ran
    have cached := value?_through resetFree later stays (resetFree.value?_of_ran playing lives ran)
    rw [← split] at cached
    obtain ⟨less, reads⟩ := setting.directory.exists_room other
    rw [reads]
    exact descriptor.readInstance_hit (setting.directory.readsWithin less) setting.directory other
      cached

end Setting

end Hybrid

namespace Hybrid.Override

private theorem resetFree : setting.ResetFree := by
  rintro scope descriptor hybrid ⟨-, known⟩
  rcases eq_of_in known with rfl | rfl | rfl <;> simp [ofBase, ofDerived, charge, Body.leaves]

/-- The charge on the base class, and the rate that it depends on. -/
def baseCharge : Wrapper :=
  .mk 2 (.symbolic (.field "rate")) "charge" ⟨1⟩ "Base"
    [("rate", .mk 1 (.native (.int 1)) "rate" ⟨1⟩ "Base" [])]

private theorem ofClass_charge :
    (((setting.directory.reads base).ofClass base charge).run setting.start).1 = .ok baseCharge := by
  cbv

private theorem ofInstance_charge :
    (((setting.directory.reads base).ofInstance base ⟨1⟩ charge).run setting.start).1 =
      .ok ⟨2, .native (.int 1)⟩ := by
  cbv

/-- After the charge was read on the base class and on the instance, further reads return the same
wrapper and the same value, also through the derived class. -/
theorem reads_stable_charge :
    (((setting.directory.reads base).ofClass base charge).run
      (setting.after [.ofClass base charge, .ofInstance derived ⟨1⟩ charge])).1 = .ok baseCharge ∧
    (((setting.directory.reads derived).ofInstance derived ⟨1⟩ charge).run
      (setting.after [.ofInstance base ⟨1⟩ charge, .leave ⟨2⟩])).1 = .ok ⟨2, .native (.int 1)⟩ := by
  have onClass : ∀ other ∈ [] ++ Activity.ofClass base charge :: [.ofInstance derived ⟨1⟩ charge],
      other.Within setting.family := by
    simp only [List.nil_append, List.forall_mem_cons, List.not_mem_nil, IsEmpty.forall_iff,
      implies_true, and_true]
    exact ⟨⟨.inl rfl, charge_in⟩, .inr rfl, charge_in⟩
  have onInstance : ∀ other ∈ [] ++ Activity.ofInstance base ⟨1⟩ charge :: [.leave ⟨2⟩],
      other.Within setting.family := by
    simp only [List.nil_append, List.forall_mem_cons, List.not_mem_nil, IsEmpty.forall_iff,
      implies_true, and_true]
    exact ⟨⟨.inl rfl, charge_in⟩, trivial⟩
  obtain ⟨classes, -, -⟩ := Setting.reads_stable resetFree onClass
  obtain ⟨-, instances, -⟩ := Setting.reads_stable resetFree onInstance
  constructor
  · have stays := classes base charge _ baseCharge ⟨.inl rfl, charge_in⟩
      ⟨setting.start, _, .refl _, Prod.ext ofClass_charge rfl, .refl _⟩
    exact congrArg Prod.fst stays.1
  · exact instances base derived charge ⟨1⟩ _ ⟨2, .native (.int 1)⟩ ⟨.inl rfl, charge_in⟩ rfl
      (by simp) ⟨setting.start, _, .refl _, Prod.ext ofInstance_charge rfl, .refl _⟩

end Hybrid.Override
