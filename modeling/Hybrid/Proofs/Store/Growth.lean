import Mathlib.Data.List.Nodup
import Hybrid.Proofs.Store.Caches

/-! # How a store grows between resets

As long as nothing is reset, a store only gains. `Store.Precedes` says of two stores that the second
comes later in such a stretch: what was cached is still there, and more may have been reported.
`Store.Gains` lists the wrappers that were cached in between: each under a pair of a hybrid and a
class that had none, and each reported once as built.
-/

namespace Hybrid

/-- A key that has no entry gets one at the end. -/
theorem Table.entries_put {κ α : Type} [DecidableEq κ] {table : Table κ α} {key : κ}
    (absent : table.get? key = none) (entry : α) :
    (table.put key entry).entries = table.entries ++ [(key, entry)] := by
  have unused : ¬ table.entries.any (·.1 = key) = true := by
    intro used
    obtain ⟨old, member, same⟩ := List.any_eq_true.mp used
    have differ := List.lookup_eq_none_iff.mp absent old member
    simp_all
  unfold Table.put
  rw [if_neg unused]

/-- The first entries of a key come before those that were appended. -/
theorem Table.get?_append {κ α : Type} [DecidableEq κ] {table more : Table κ α}
    {added : List (κ × α)} (entries : more.entries = table.entries ++ added) (key : κ) :
    more.get? key = (table.get? key).or ((Table.mk added).get? key) := by
  unfold Table.get?
  rw [entries, List.lookup_append]

/-- A key that is listed has an entry. -/
theorem Table.get?_ne_none {κ α : Type} [DecidableEq κ] {table : Table κ α} {entry : κ × α}
    (listed : entry ∈ table.entries) : table.get? entry.1 ≠ none := by
  intro absent
  have differ := List.lookup_eq_none_iff.mp absent entry listed
  simp at differ

/-- Whether an event reports that a hybrid was built. -/
def Event.isBuild : Event → Bool
  | .builtHybrid _ _ _ _ => true
  | _ => false

/-- The event that reports the build of a wrapper. -/
def Wrapper.report (wrapper : Wrapper) : Event :=
  .builtHybrid wrapper.ownerName wrapper.name wrapper.expression wrapper.dependencies.length

namespace InstanceCache

/-- A purge that may be due leaves the live instances alone. -/
theorem find?_purgeIfDue {cache : InstanceCache} {alive : InstanceId → Bool} {key : InstanceId}
    (lives : alive key = true) : (cache.purgeIfDue alive).1.find? key = cache.find? key := by
  unfold purgeIfDue
  split
  · rfl
  · have kept : (cache.purge alive).1.find? key = cache.find? key := by
      rw [find?_purge, if_pos lives]
    exact kept

/-- A value that an instance has is the one that it goes on to have. -/
theorem add_snd_of_find? {cache : InstanceCache} {key : InstanceId} {held : Stamped Term}
    (found : cache.find? key = some held) (value : Stamped Term) :
    (cache.add key value).2 = held := by
  unfold add
  rw [found]

end InstanceCache

namespace Store

/-- The builds that were reported, in order. -/
def builds (store : Store) : List Event :=
  (store.events.filter Event.isBuild).reverse

/-- The second store comes later, with no reset in between: every wrapper is still cached, and so is
every value of a live instance, in whatever cache it was. -/
structure Precedes (before after : Store) : Prop where
  wrapper {hybrid : HybridId} {modelClass : ClassId} {wrapper : Wrapper} :
    before.wrapper? hybrid modelClass = some wrapper →
      after.wrapper? hybrid modelClass = some wrapper
  value {id : CacheId} {key : InstanceId} {value : Stamped Term} : before.isAlive key = true →
    (before.cache id).find? key = some value → (after.cache id).find? key = some value
  alive (key : InstanceId) : after.isAlive key = before.isAlive key
  record {key : InstanceId} {values : Table String Value} :
    before.instances.get? key = some (.record values) →
      after.instances.get? key = some (.record values)
  generations : after.generations = before.generations
  registries : after.registries = before.registries
  events : before.events <:+ after.events
  next : before.next ≤ after.next

/-- The second store has these wrappers besides those of the first, and reports their builds. -/
structure Gains (before after : Store) (added : List ((HybridId × ClassId) × Wrapper)) : Prop where
  entries : after.wrappers.entries = before.wrappers.entries ++ added
  builds : after.builds = before.builds ++ added.map fun entry => entry.2.report
  absent : ∀ entry ∈ added, before.wrappers.get? entry.1 = none
  nodup : (added.map (·.1)).Nodup

/-- Nothing has changed but counts, the numbers that are given out, what tickers read next, and
reports of something else than builds. -/
structure Quiet (before after : Store) : Prop where
  wrappers : after.wrappers = before.wrappers
  caches : after.caches = before.caches
  generations : after.generations = before.generations
  registries : after.registries = before.registries
  building : after.building = before.building
  alive (key : InstanceId) : after.isAlive key = before.isAlive key
  record {key : InstanceId} {values : Table String Value} :
    before.instances.get? key = some (.record values) →
      after.instances.get? key = some (.record values)
  events : ∃ reported, after.events = reported ++ before.events ∧
    ∀ event ∈ reported, event.isBuild = false
  next : before.next ≤ after.next

variable {store before middle after : Store} {added more : List ((HybridId × ClassId) × Wrapper)}

section Precedence

theorem Precedes.refl (store : Store) : store.Precedes store :=
  ⟨id, fun _ => id, fun _ => rfl, id, rfl, rfl, List.suffix_refl _, Nat.le_refl _⟩

theorem Precedes.trans (first : before.Precedes middle) (second : middle.Precedes after) :
    before.Precedes after where
  wrapper cached := second.wrapper (first.wrapper cached)
  value lives held := second.value ((first.alive _).trans lives) (first.value lives held)
  alive key := (second.alive key).trans (first.alive key)
  record held := second.record (first.record held)
  generations := second.generations.trans first.generations
  registries := second.registries.trans first.registries
  events := first.events.trans second.events
  next := Nat.le_trans first.next second.next

/-- Which hybrids are under evaluation does not matter. -/
theorem Precedes.withBuilding (store : Store) (stack : List Frame) :
    store.Precedes { store with building := stack } :=
  ⟨id, fun _ => id, fun _ => rfl, id, rfl, rfl, List.suffix_refl _, Nat.le_refl _⟩

theorem Precedes.currentCache (precedes : before.Precedes after) (hybrid : HybridId) :
    after.currentCache hybrid = before.currentCache hybrid := by
  unfold Store.currentCache
  rw [precedes.generations]

end Precedence

section Gain

theorem Gains.refl (store : Store) : store.Gains store [] :=
  ⟨by simp, by simp, nofun, List.nodup_nil⟩

/-- A wrapper that was gained is found. -/
theorem Gains.get?_ne_none (gains : before.Gains after added)
    {entry : (HybridId × ClassId) × Wrapper} (member : entry ∈ added) :
    after.wrappers.get? entry.1 ≠ none := by
  refine Table.get?_ne_none ?_
  rw [gains.entries]
  exact List.mem_append_right _ member

/-- What had no wrapper later had none before. -/
theorem Gains.get?_eq_none (gains : before.Gains after added) {key : HybridId × ClassId}
    (absent : after.wrappers.get? key = none) : before.wrappers.get? key = none := by
  rw [Table.get?_append gains.entries, Option.or_eq_none_iff] at absent
  exact absent.1

theorem Gains.wrapper (gains : before.Gains after added) {hybrid : HybridId} {modelClass : ClassId}
    {wrapper : Wrapper} (cached : before.wrapper? hybrid modelClass = some wrapper) :
    after.wrapper? hybrid modelClass = some wrapper := by
  unfold Store.wrapper? at cached ⊢
  rw [Table.get?_append gains.entries, cached]
  rfl

theorem Gains.trans (first : before.Gains middle added) (second : middle.Gains after more) :
    before.Gains after (added ++ more) where
  entries := by rw [second.entries, first.entries, List.append_assoc]
  builds := by rw [second.builds, first.builds, List.map_append, List.append_assoc]
  absent entry member := by
    rcases List.mem_append.mp member with member | member
    · exact first.absent entry member
    · exact first.get?_eq_none (second.absent entry member)
  nodup := by
    rw [List.map_append]
    refine first.nodup.append second.nodup ?_
    intro key left right
    obtain ⟨entry, member, rfl⟩ := List.mem_map.mp left
    obtain ⟨other, memberOther, same⟩ := List.mem_map.mp right
    have absent := second.absent other memberOther
    rw [same] at absent
    exact first.get?_ne_none member absent

/-- Nothing is gained where no wrapper is cached and no build is reported. -/
theorem Gains.ofUnbuilt (wrappers : after.wrappers = before.wrappers)
    (events : ∃ reported, after.events = reported ++ before.events ∧
      ∀ event ∈ reported, event.isBuild = false) : before.Gains after [] where
  entries := by rw [wrappers, List.append_nil]
  builds := by
    obtain ⟨reported, same, others⟩ := events
    have none : reported.filter Event.isBuild = [] := by
      rw [List.filter_eq_nil_iff]
      intro event member
      simp [others event member]
    unfold Store.builds
    rw [same, List.filter_append, none, List.map_nil, List.append_nil, List.nil_append]
  absent := nofun
  nodup := List.nodup_nil

theorem Gains.withBuilding (gains : before.Gains after added) (stack stack' : List Frame) :
    Store.Gains { before with building := stack } { after with building := stack' } added :=
  ⟨gains.entries, gains.builds, gains.absent, gains.nodup⟩

end Gain

section Quietness

theorem Quiet.refl (store : Store) : store.Quiet store :=
  ⟨rfl, rfl, rfl, rfl, rfl, fun _ => rfl, id, ⟨[], rfl, nofun⟩, Nat.le_refl _⟩

theorem Quiet.precedes (quiet : before.Quiet after) : before.Precedes after where
  wrapper cached := by
    unfold Store.wrapper? at cached ⊢
    rwa [quiet.wrappers]
  value _ held := by
    unfold Store.cache at held ⊢
    rwa [quiet.caches]
  alive := quiet.alive
  record := quiet.record
  generations := quiet.generations
  registries := quiet.registries
  events := by
    obtain ⟨reported, same, -⟩ := quiet.events
    exact ⟨reported, same.symm⟩
  next := quiet.next

theorem Quiet.gains (quiet : before.Quiet after) : before.Gains after [] :=
  .ofUnbuilt quiet.wrappers quiet.events

theorem quiet_report {event : Event} (other : event.isBuild = false) :
    store.Quiet (store.report event) :=
  ⟨rfl, rfl, rfl, rfl, rfl, fun _ => rfl, id, ⟨[event], rfl, by simpa using other⟩, Nat.le_refl _⟩

theorem quiet_countRun (hybrid : HybridId) : store.Quiet (store.countRun hybrid) :=
  ⟨rfl, rfl, rfl, rfl, rfl, fun _ => rfl, id, ⟨[], rfl, nofun⟩, Nat.le_refl _⟩

theorem quiet_count (counter : String) : store.Quiet (store.count counter).2 :=
  ⟨rfl, rfl, rfl, rfl, rfl, fun _ => rfl, id, ⟨[], rfl, nofun⟩, Nat.le_refl _⟩

theorem quiet_wrap (registry : RegistryId) (term : Term) :
    store.Quiet (store.wrap registry term).2 :=
  ⟨rfl, rfl, rfl, rfl, rfl, fun _ => rfl, id, ⟨[], rfl, nofun⟩, Nat.le_refl _⟩

theorem quiet_fresh : store.Quiet store.fresh.2 :=
  ⟨rfl, rfl, rfl, rfl, rfl, fun _ => rfl, id, ⟨[], rfl, nofun⟩, Nat.le_succ _⟩

/-- Reading a field ends no instance and starts none. -/
theorem quiet_readField (key : InstanceId) (name : String) :
    store.Quiet (store.readField key name).2 := by
  unfold Store.readField
  split
  · exact .refl store
  · exact .refl store
  · next names next ticks =>
    split
    · refine ⟨rfl, rfl, rfl, rfl, rfl, fun other => ?_, fun {other values} held => ?_,
        ⟨[], rfl, nofun⟩, Nat.le_refl _⟩
      · unfold Store.isAlive
        dsimp only
        rw [Table.get?_put]
        split
        · next same => rw [same, ticks]; rfl
        · rfl
      · rw [Table.get?_put]
        split
        · next same => rw [same, ticks] at held; cases held
        · exact held
    · exact .refl store

end Quietness

section Keeping

variable {hybrid : HybridId} {modelClass : ClassId} {wrapper : Wrapper}

/-- The store after the build of a wrapper is reported and the wrapper is cached. -/
def addWrapper (store : Store) (hybrid : HybridId) (modelClass : ClassId) (wrapper : Wrapper) :
    Store :=
  { store.report wrapper.report with
    wrappers := store.wrappers.put (hybrid, modelClass) wrapper }

/-- The first wrapper of a hybrid for a class is cached. -/
theorem keepWrapper_of_none (wrapper : Wrapper)
    (absent : store.wrapper? hybrid modelClass = none) :
    (store.report wrapper.report).keepWrapper hybrid modelClass wrapper =
      (wrapper, store.addWrapper hybrid modelClass wrapper) := by
  have missing : (store.report wrapper.report).wrapper? hybrid modelClass = none := absent
  unfold keepWrapper
  rw [missing]
  rfl

theorem wrapper?_addWrapper {other : HybridId} {otherClass : ClassId} :
    (store.addWrapper hybrid modelClass wrapper).wrapper? other otherClass =
      if (other, otherClass) = (hybrid, modelClass) then some wrapper
      else store.wrapper? other otherClass :=
  Table.get?_put store.wrappers (hybrid, modelClass) (other, otherClass) wrapper

theorem gains_addWrapper (absent : store.wrapper? hybrid modelClass = none) :
    store.Gains (store.addWrapper hybrid modelClass wrapper) [((hybrid, modelClass), wrapper)] := by
  refine ⟨Table.entries_put absent wrapper, ?_, ?_, List.nodup_singleton _⟩
  · unfold Store.builds addWrapper Store.report
    rw [List.filter_cons_of_pos rfl, List.reverse_cons]
    rfl
  · intro entry member
    rw [List.mem_singleton.mp member]
    exact absent

theorem precedes_addWrapper (absent : store.wrapper? hybrid modelClass = none) :
    store.Precedes (store.addWrapper hybrid modelClass wrapper) :=
  ⟨(gains_addWrapper absent).wrapper, fun _ => id, fun _ => rfl, id, rfl, rfl,
    ⟨[wrapper.report], rfl⟩, Nat.le_refl _⟩

/-- Which hybrids are under evaluation does not matter for keeping a value. -/
theorem keepValue_withBuilding (store : Store) (id : CacheId) (key : InstanceId)
    (value : Stamped Term) (stack : List Frame) :
    Store.keepValue { store with building := stack } id key value =
      ((store.keepValue id key value).1,
        { (store.keepValue id key value).2 with building := stack }) := by
  have sameCache : Store.cache { store with building := stack } id = store.cache id := rfl
  have sameAlive : Store.isAlive { store with building := stack } = store.isAlive := rfl
  unfold keepValue
  rw [sameCache, sameAlive]
  rcases (store.cache id).purgeIfDue store.isAlive with ⟨purged, _ | purge⟩ <;> rfl

/-- Keeping a value reports no build. -/
theorem events_keepValue (store : Store) (id : CacheId) (key : InstanceId) (value : Stamped Term) :
    ∃ reported, (store.keepValue id key value).2.events = reported ++ store.events ∧
      ∀ event ∈ reported, event.isBuild = false := by
  unfold keepValue
  rcases (store.cache id).purgeIfDue store.isAlive with ⟨purged, _ | purge⟩
  · exact ⟨[], rfl, nofun⟩
  · exact ⟨[.purged purge.dropped purge.left], rfl, by simp [Event.isBuild]⟩

/-- Keeping a value takes none from a live instance. -/
theorem precedes_keepValue (id : CacheId) (key : InstanceId) (value : Stamped Term) :
    store.Precedes (store.keepValue id key value).2 := by
  obtain ⟨events, changed⟩ := store.keepValue_eq id key value
  obtain ⟨reported, same, -⟩ := store.events_keepValue id key value
  refine ⟨?_, fun {target other held} lives found => ?_, ?_, ?_, ?_, ?_, ⟨reported, same.symm⟩, ?_⟩
  · rw [changed]
    exact fun cached => cached
  · rw [find?_keepValue]
    have left : (store.purgedCache id).find? other = (store.cache id).find? other :=
      InstanceCache.find?_purgeIfDue lives
    split
    · next sameCache =>
      subst sameCache
      split
      · next sameKey =>
        subst sameKey
        rw [keepValue_fst, InstanceCache.add_snd_of_find? (left.trans found)]
      · rw [left, found]
    · exact found
  · rw [changed]
    exact fun _ => rfl
  · rw [changed]
    exact fun held => held
  · rw [changed]
  · rw [changed]
  · simp only [changed, Nat.le_refl]

theorem gains_keepValue (id : CacheId) (key : InstanceId) (value : Stamped Term) :
    store.Gains (store.keepValue id key value).2 [] := by
  obtain ⟨events, changed⟩ := store.keepValue_eq id key value
  exact .ofUnbuilt (by rw [changed]) (store.events_keepValue id key value)

/-- What is held after a value is kept was held before, or it is what the keeping returned. -/
theorem find?_of_keepValue {id target : CacheId} {key other : InstanceId} {value found : Stamped Term}
    (held : ((store.keepValue id key value).2.cache target).find? other = some found) :
    (store.cache target).find? other = some found ∨
      target = id ∧ other = key ∧ found = (store.keepValue id key value).1 := by
  rw [find?_keepValue] at held
  split at held
  · next sameCache =>
    subst sameCache
    split at held
    · next sameKey => exact .inr ⟨rfl, sameKey, (Option.some.inj held).symm⟩
    · exact .inl (InstanceCache.find?_of_purgeIfDue held)
  · exact .inl held

end Keeping

end Store

end Hybrid
