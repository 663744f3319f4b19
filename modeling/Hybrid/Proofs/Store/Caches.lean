import Hybrid.Store

/-! # What operations on the store do to the caches

One equation for each operation on an instance cache, in terms of looking up a key, and for the
store what the cached wrappers and the values of a hybrid are after each operation. A replaced cache
stays in the store, so the values of a hybrid are those in any of its caches.
-/

namespace Hybrid

/-- Removing entries by their keys leaves the other keys alone. -/
theorem Table.get?_filter {κ α : Type} [DecidableEq κ] (table : Table κ α) (keep : κ → Bool)
    (key : κ) :
    (Table.mk (table.entries.filter fun entry => keep entry.1)).get? key =
      if keep key then table.get? key else none := by
  unfold Table.get?
  induction table.entries with
  | nil => simp
  | cons entry rest ih =>
    obtain ⟨held, content⟩ := entry
    rw [List.filter_cons]
    by_cases same : key = held
    · subst same
      by_cases kept : keep key = true
      · simp [kept]
      · simpa [kept] using ih
    · have other : (key == held) = false := beq_false_of_ne same
      by_cases kept : keep held = true
      · simpa [kept, List.lookup_cons, other] using ih
      · simpa [kept, List.lookup_cons, other] using ih

namespace InstanceCache

variable {cache : InstanceCache} {alive : InstanceId → Bool} {key other : InstanceId}

theorem find?_living (entries : List CacheEntry) (purgeAt : Nat) :
    find? ⟨(InstanceCache.mk entries purgeAt).living alive, purgeAt⟩ key =
      if alive key then find? ⟨entries, purgeAt⟩ key else none := by
  unfold find? living
  induction entries with
  | nil => simp
  | cons entry rest ih =>
    by_cases same : entry.key = key
    · by_cases lives : alive key = true
      · simp [same, lives]
      · simpa [same, lives] using ih
    · by_cases lives : alive entry.key = true
      · simpa [same, lives] using ih
      · simpa [same, lives] using ih

/-- Purging forgets dead instances only. -/
theorem find?_purge : (cache.purge alive).1.find? key = if alive key then cache.find? key else none :=
  find?_living cache.entries cache.purgeAt

/-- An entry that is left after a purge that may be due was there before. -/
theorem find?_of_purgeIfDue {value : Stamped Term}
    (found : (cache.purgeIfDue alive).1.find? key = some value) : cache.find? key = some value := by
  unfold purgeIfDue at found
  split at found
  · exact found
  · have kept : (cache.purge alive).1.find? key = some value := found
    rw [find?_purge] at kept
    split at kept
    · exact kept
    · cases kept

/-- Adding a value leaves the other instances alone. -/
theorem find?_add (value : Stamped Term) :
    (cache.add key value).1.find? other =
      if other = key then some (cache.add key value).2 else cache.find? other := by
  unfold add
  cases held : cache.find? key with
  | some former =>
    dsimp only
    split
    · next same => rw [same, held]
    · rfl
  | none =>
    have absent : cache.entries.find? (·.key = key) = none := by
      simpa only [find?, Option.map_eq_none_iff] using held
    simp only [find?, List.find?_append]
    split
    · next same => simp [same, absent]
    · next differ =>
      have last : [CacheEntry.mk key value].find? (·.key = other) = none := by
        simpa using Ne.symm differ
      rw [last, Option.or_none]

/-- The value given for an instance, unless it has one. -/
theorem add_snd (cache : InstanceCache) (key : InstanceId) (value : Stamped Term) :
    (cache.add key value).2 = value ∨ cache.find? key = some (cache.add key value).2 := by
  unfold add
  cases cache.find? key with
  | some former => exact .inr rfl
  | none => exact .inl rfl

end InstanceCache

namespace Store

variable {store : Store} {hybrid other : HybridId} {key otherKey : InstanceId}

/-- A hybrid has the value for an instance in one of its caches, the current or a replaced one. -/
def HasValue (store : Store) (hybrid : HybridId) (key : InstanceId) (value : Stamped Term) : Prop :=
  ∃ generation, (store.cache (.ofHybrid hybrid generation)).find? key = some value

/-- The cache that a value goes to, after the purge that may be due. -/
def purgedCache (store : Store) (id : CacheId) : InstanceCache :=
  ((store.cache id).purgeIfDue store.isAlive).1

theorem keepValue_fst (id : CacheId) (value : Stamped Term) :
    (store.keepValue id key value).1 = ((store.purgedCache id).add key value).2 := rfl

theorem keepValue_caches (id : CacheId) (value : Stamped Term) :
    (store.keepValue id key value).2.caches =
      store.caches.put id ((store.purgedCache id).add key value).1 := by
  unfold keepValue purgedCache
  rcases (store.cache id).purgeIfDue store.isAlive with ⟨purged, _ | purge⟩ <;> rfl

/-- Keeping a value changes nothing but the caches and what is reported. -/
theorem keepValue_eq (store : Store) (id : CacheId) (key : InstanceId) (value : Stamped Term) :
    ∃ events, (store.keepValue id key value).2 =
      { store with
        caches := store.caches.put id ((store.purgedCache id).add key value).1
        events } := by
  unfold keepValue purgedCache
  rcases (store.cache id).purgeIfDue store.isAlive with ⟨purged, _ | purge⟩
  · exact ⟨store.events, rfl⟩
  · exact ⟨_, rfl⟩

theorem find?_keepValue {id : CacheId} {value : Stamped Term} (target : CacheId) :
    ((store.keepValue id key value).2.cache target).find? otherKey =
      if target = id then
        if otherKey = key then some (store.keepValue id key value).1
        else (store.purgedCache id).find? otherKey
      else (store.cache target).find? otherKey := by
  unfold cache
  rw [keepValue_caches, Table.get?_put]
  split
  · next same => rw [Option.getD_some, InstanceCache.find?_add, keepValue_fst]
  · rfl

/-- What a hybrid has after a value is kept, it had before or it is that value. -/
theorem hasValue_of_keepValue {generation : Nat} {value found : Stamped Term}
    (has : (store.keepValue (.ofHybrid hybrid generation) key value).2.HasValue other otherKey found) :
    store.HasValue other otherKey found ∨ other = hybrid ∧ otherKey = key ∧ found = value := by
  obtain ⟨target, has⟩ := has
  rw [find?_keepValue] at has
  split at has
  · next same =>
    injection same with sameHybrid sameGeneration
    subst sameHybrid
    split at has
    · next sameKey =>
      subst sameKey
      rw [keepValue_fst] at has
      rcases InstanceCache.add_snd (store.purgedCache (.ofHybrid other generation)) otherKey value with
        given | held
      · exact .inr ⟨rfl, rfl, (Option.some.inj has).symm.trans given⟩
      · exact .inl ⟨generation, InstanceCache.find?_of_purgeIfDue (held.trans has)⟩
    · exact .inl ⟨generation, InstanceCache.find?_of_purgeIfDue has⟩
  · exact .inl ⟨target, has⟩

/-- The value that is returned is the given one, or one that the hybrid had. -/
theorem keepValue_returns (store : Store) (hybrid : HybridId) (generation : Nat) (key : InstanceId)
    (value : Stamped Term) :
    (store.keepValue (.ofHybrid hybrid generation) key value).1 = value ∨
      store.HasValue hybrid key (store.keepValue (.ofHybrid hybrid generation) key value).1 := by
  rw [keepValue_fst]
  refine (InstanceCache.add_snd _ key value).imp id fun held => ?_
  exact ⟨generation, InstanceCache.find?_of_purgeIfDue held⟩

/-- The value that is returned is served from the cache from then on. -/
theorem value?_of_keepValue {id : CacheId} {value : Stamped Term} {after : Store}
    (caches : after.caches = (store.keepValue id key value).2.caches)
    (current : after.currentCache hybrid = id) (alive : after.isAlive key = true) :
    after.value? hybrid key = some (store.keepValue id key value).1 := by
  have held : ((store.keepValue id key value).2.cache id).find? key =
      some (store.keepValue id key value).1 := by
    rw [find?_keepValue, if_pos rfl, if_pos rfl]
  have same : after.cache id = (store.keepValue id key value).2.cache id := by
    unfold cache
    rw [caches]
  unfold value? InstanceCache.get?
  rw [current, if_pos alive, same]
  exact held

/-- A wrapper that is cached after one is kept was cached before, or it is that wrapper. -/
theorem wrapper?_of_keepWrapper {modelClass otherClass : ClassId} {wrapper found : Wrapper}
    (cached : (store.keepWrapper hybrid modelClass wrapper).2.wrapper? other otherClass = some found) :
    store.wrapper? other otherClass = some found ∨
      other = hybrid ∧ otherClass = modelClass ∧ found = wrapper := by
  unfold keepWrapper at cached
  split at cached
  · exact .inl cached
  · unfold wrapper? at cached
    rw [Table.get?_put] at cached
    split at cached
    · next same =>
      injection same with sameHybrid sameClass
      exact .inr ⟨sameHybrid, sameClass, (Option.some.inj cached).symm⟩
    · exact .inl cached

/-- The wrapper that is returned is the given one, or one that was cached. -/
theorem keepWrapper_returns (store : Store) (hybrid : HybridId) (modelClass : ClassId)
    (wrapper : Wrapper) :
    (store.keepWrapper hybrid modelClass wrapper).1 = wrapper ∨
      store.wrapper? hybrid modelClass = some (store.keepWrapper hybrid modelClass wrapper).1 := by
  unfold keepWrapper
  split
  · next cached => exact .inr cached
  · exact .inl rfl

/-- Keeping a wrapper changes nothing but the wrappers. -/
theorem keepWrapper_eq (store : Store) (hybrid : HybridId) (modelClass : ClassId)
    (wrapper : Wrapper) :
    ∃ wrappers, (store.keepWrapper hybrid modelClass wrapper).2 = { store with wrappers } := by
  unfold keepWrapper
  split
  · exact ⟨store.wrappers, rfl⟩
  · exact ⟨_, rfl⟩

/-- A reset takes the wrappers of its hybrid and leaves those of the others. -/
theorem wrapper?_resetHybrid (descriptor : Descriptor) (modelClass : ClassId) :
    (store.resetHybrid descriptor).wrapper? other modelClass =
      if other = descriptor.id then none else store.wrapper? other modelClass := by
  unfold resetHybrid wrapper? report
  rw [Table.get?_filter store.wrappers (·.1 ≠ descriptor.id)]
  by_cases same : other = descriptor.id <;> simp [same]

end Store

end Hybrid
