import Mathlib.Data.List.TakeWhile
import Hybrid.Proofs.Store.Caches

/-! # What a store is known to hold

A ledger says what is known of the wrappers and values that are cached. A store is covered if
everything in its caches, replaced ones included, is as the ledger says, and if it has the
registries and the fixed instances that it started with. Each change that reading makes to a store
leaves it covered, as long as what is newly cached is as the ledger says.
-/

namespace Hybrid

/-- What is known of the things that are cached. -/
structure Ledger where
  wrapper : HybridId → ClassId → Wrapper → Prop
  value : HybridId → InstanceId → Term → Prop
  /-- How often hybrids were reset. -/
  resets : Table HybridId Nat → Prop

/-- Everything in the store is as the ledger says, and what reading never changes is as it was. -/
structure Ledger.Covers (ledger : Ledger) (start store : Store) : Prop where
  wrapper {hybrid : HybridId} {modelClass : ClassId} {wrapper : Wrapper} :
    store.wrapper? hybrid modelClass = some wrapper → ledger.wrapper hybrid modelClass wrapper
  value {hybrid : HybridId} {key : InstanceId} {value : Stamped Term} :
    store.HasValue hybrid key value → ledger.value hybrid key value.content
  resets : ledger.resets store.generations
  registries : store.registries = start.registries
  record {key : InstanceId} {values : Table String Value} :
    start.instances.get? key = some (.record values) →
      store.instances.get? key = some (.record values)

/-- A covered store with these hybrids under evaluation. -/
structure Ledger.Keeps (ledger : Ledger) (start : Store) (stack : List Frame) (store : Store) :
    Prop where
  covers : ledger.Covers start store
  building : store.building = stack

namespace Ledger

variable {ledger : Ledger} {start store after : Store} {stack : List Frame}

/-- What is not looked at may change. -/
theorem Covers.congr (covers : ledger.Covers start store)
    (wrappers : after.wrappers = store.wrappers) (caches : after.caches = store.caches)
    (generations : after.generations = store.generations)
    (registries : after.registries = store.registries)
    (instances : after.instances = store.instances) : ledger.Covers start after where
  wrapper cached := covers.wrapper (by simpa only [Store.wrapper?, wrappers] using cached)
  value has := covers.value (by simpa only [Store.HasValue, Store.cache, caches] using has)
  resets := generations ▸ covers.resets
  registries := registries.trans covers.registries
  record fixed := instances ▸ covers.record fixed

theorem Keeps.congr (keeps : ledger.Keeps start stack store)
    (building : after.building = store.building)
    (wrappers : after.wrappers = store.wrappers) (caches : after.caches = store.caches)
    (generations : after.generations = store.generations)
    (registries : after.registries = store.registries)
    (instances : after.instances = store.instances) : ledger.Keeps start stack after :=
  ⟨keeps.covers.congr wrappers caches generations registries instances, building.trans keeps.building⟩

theorem Covers.registry (covers : ledger.Covers start store) (id : RegistryId) :
    store.registry id = start.registry id := by
  unfold Store.registry
  rw [covers.registries]

theorem Covers.keepWrapper (covers : ledger.Covers start store) {hybrid : HybridId}
    {modelClass : ClassId} {wrapper : Wrapper} (known : ledger.wrapper hybrid modelClass wrapper) :
    ledger.wrapper hybrid modelClass (store.keepWrapper hybrid modelClass wrapper).1 ∧
      ledger.Covers start (store.keepWrapper hybrid modelClass wrapper).2 := by
  obtain ⟨wrappers, changed⟩ := store.keepWrapper_eq hybrid modelClass wrapper
  refine ⟨?_, fun cached => ?_, ?_, ?_, ?_, ?_⟩
  · rcases store.keepWrapper_returns hybrid modelClass wrapper with given | cached
    · rw [given]
      exact known
    · exact covers.wrapper cached
  · rcases Store.wrapper?_of_keepWrapper cached with before | ⟨rfl, rfl, rfl⟩
    · exact covers.wrapper before
    · exact known
  all_goals rw [changed]
  · exact covers.value
  · exact covers.resets
  · exact covers.registries
  · exact covers.record

theorem Covers.keepValue (covers : ledger.Covers start store) (hybrid : HybridId)
    (generation : Nat) (key : InstanceId) (value : Stamped Term)
    (known : ledger.value hybrid key value.content) :
    ledger.value hybrid key
        (store.keepValue (.ofHybrid hybrid generation) key value).1.content ∧
      ledger.Covers start (store.keepValue (.ofHybrid hybrid generation) key value).2 := by
  obtain ⟨events, changed⟩ := store.keepValue_eq (.ofHybrid hybrid generation) key value
  refine ⟨?_, ?_, fun has => ?_, ?_, ?_, ?_⟩
  · rcases store.keepValue_returns hybrid generation key value with given | has
    · rw [given]
      exact known
    · exact covers.value has
  · rw [changed]
    exact covers.wrapper
  · rcases Store.hasValue_of_keepValue has with before | ⟨rfl, rfl, rfl⟩
    · exact covers.value before
    · exact known
  all_goals rw [changed]
  · exact covers.resets
  · exact covers.registries
  · exact covers.record

theorem Keeps.keepWrapper (keeps : ledger.Keeps start stack store) {hybrid : HybridId}
    {modelClass : ClassId} {wrapper : Wrapper} (known : ledger.wrapper hybrid modelClass wrapper) :
    ledger.wrapper hybrid modelClass (store.keepWrapper hybrid modelClass wrapper).1 ∧
      ledger.Keeps start stack (store.keepWrapper hybrid modelClass wrapper).2 := by
  obtain ⟨held, covers⟩ := keeps.covers.keepWrapper known
  obtain ⟨wrappers, changed⟩ := store.keepWrapper_eq hybrid modelClass wrapper
  refine ⟨held, covers, ?_⟩
  rw [changed]
  exact keeps.building

theorem Keeps.keepValue (keeps : ledger.Keeps start stack store) (hybrid : HybridId)
    (generation : Nat) (key : InstanceId) (value : Stamped Term)
    (known : ledger.value hybrid key value.content) :
    ledger.value hybrid key
        (store.keepValue (.ofHybrid hybrid generation) key value).1.content ∧
      ledger.Keeps start stack (store.keepValue (.ofHybrid hybrid generation) key value).2 := by
  obtain ⟨held, covers⟩ := keeps.covers.keepValue hybrid generation key value known
  obtain ⟨events, changed⟩ := store.keepValue_eq (.ofHybrid hybrid generation) key value
  refine ⟨held, covers, ?_⟩
  rw [changed]
  exact keeps.building

/-- Forgetting what is cached leaves a store covered. -/
theorem Covers.resetHybrid (covers : ledger.Covers start store) (descriptor : Descriptor)
    (resets : ledger.resets (store.resetHybrid descriptor).generations) :
    ledger.Covers start (store.resetHybrid descriptor) where
  wrapper cached := by
    rw [Store.wrapper?_resetHybrid] at cached
    split at cached
    · cases cached
    · exact covers.wrapper cached
  value has := covers.value has
  resets := resets
  registries := covers.registries
  record := covers.record

/-- Reading a field changes no fixed instance. -/
theorem Covers.readField (covers : ledger.Covers start store) (key : InstanceId) (name : String) :
    ledger.Covers start (store.readField key name).2 := by
  unfold Store.readField
  split
  · exact covers
  · exact covers
  · next names next ticks =>
    split
    · refine ⟨covers.wrapper, covers.value, covers.resets, covers.registries, fun fixed => ?_⟩
      have held := covers.record fixed
      rw [Table.get?_put]
      split
      · next same => rw [same, ticks] at held; cases held
      · exact held
    · exact covers

end Ledger

/-- A field of a fixed instance reads as the value that it has. -/
theorem Store.readField_record {store : Store} {key : InstanceId} {values : Table String Value}
    (fixed : store.instances.get? key = some (.record values)) (name : String) :
    store.readField key name = (values.get? name, store) := by
  unfold Store.readField
  rw [fixed]

/-- A hybrid is read in a cycle if its frame is on the build stack. -/
theorem Store.cycle?_eq_none {store : Store} {frame : Frame} :
    store.cycle? frame = none ↔ frame ∉ store.building := by
  unfold Store.cycle?
  have stops : store.building.dropWhile (· ≠ frame) = [] ↔ frame ∉ store.building := by
    rw [List.dropWhile_eq_nil_iff]
    constructor
    · exact fun all member => by simpa using all frame member
    · rintro absent other member
      simpa using fun same : other = frame => absent (same ▸ member)
  rw [← stops]
  cases store.building.dropWhile (· ≠ frame) <;> simp

/-- Frames below the first one that is entered again are not part of a cycle. -/
theorem Store.cycle?_of_append {store : Store} {outer inner : List Frame} {frame : Frame}
    (building : store.building = outer ++ inner) (outside : frame ∉ outer) :
    store.cycle? frame = ({ store with building := inner } : Store).cycle? frame := by
  have passes : ∀ other ∈ outer, decide (other ≠ frame) = true := fun other member =>
    decide_eq_true fun same => outside (same ▸ member)
  unfold Store.cycle?
  rw [building, List.dropWhile_append_of_pos passes]

/-- With hybrids of one class and instance under evaluation, a cycle shows by the names. -/
theorem Store.cycle?_of_building {store : Store} {modelClass : ClassId} {instance? : Option InstanceId}
    {under : List String} (building : store.building = under.map (Frame.mk modelClass instance?))
    (own : String) :
    store.cycle? ⟨modelClass, instance?, own⟩ =
      if own ∈ under then some (under.dropWhile (· ≠ own) ++ [own]) else none := by
  have stops : (under.map (Frame.mk modelClass instance?)).dropWhile
        (· ≠ ⟨modelClass, instance?, own⟩) =
      (under.dropWhile (· ≠ own)).map (Frame.mk modelClass instance?) := by
    rw [List.dropWhile_map]
    congr 2
    funext other
    simp
  have sides (names : List String) :
      ((names.map (Frame.mk modelClass instance?)).filter
        (Frame.sameSide ⟨modelClass, instance?, own⟩)).map (·.hybrid) = names := by
    induction names with
    | nil => rfl
    | cons name rest ih => simpa [Frame.sameSide] using ih
  split
  · next member =>
    have remains : under.dropWhile (· ≠ own) ≠ [] := by
      rw [Ne, List.dropWhile_eq_nil_iff]
      intro all
      simpa using all own member
    unfold Store.cycle?
    rw [building, stops]
    cases kept : under.dropWhile (· ≠ own) with
    | nil => exact absurd kept remains
    | cons first rest =>
      have names := sides (first :: rest)
      rw [List.map_cons] at names ⊢
      dsimp only
      rw [names]
  · next outside =>
    rw [Store.cycle?_eq_none, building]
    simpa using outside

end Hybrid
