import Hybrid.Identity
import Hybrid.Term

/-! # Caches of instance values

An instance cache maps instances to the values of one hybrid. The first value given for an instance
stays. An entry outlives its instance without being served again, and such dead entries are dropped
each time the number of entries has doubled. Which instances are alive is not the cache's to know:
every operation is told.
-/

namespace Hybrid

/-- The value of an instance. -/
structure CacheEntry where
  key : InstanceId
  value : Stamped Term

/-- The values of a hybrid by instance. -/
structure InstanceCache where
  entries : List CacheEntry
  /-- The number of entries at which dead ones are next looked for. -/
  purgeAt : Nat

/-- How many dead entries were dropped and how many entries were left. -/
structure Purge where
  dropped : Nat
  left : Nat

namespace InstanceCache

def empty : InstanceCache := ⟨[], 0⟩

/-- The number of entries below which dead ones are never looked for. -/
def minimumPurge : Nat := 32

/-- The number of entries, dead ones included. -/
def size (cache : InstanceCache) : Nat :=
  cache.entries.length

/-- The entry of an instance, alive or dead. -/
def find? (cache : InstanceCache) (key : InstanceId) : Option (Stamped Term) :=
  (cache.entries.find? (·.key = key)).map (·.value)

/-- The value of an instance, if the instance is alive. -/
def get? (cache : InstanceCache) (alive : InstanceId → Bool) (key : InstanceId) :
    Option (Stamped Term) :=
  if alive key then cache.find? key else none

/-- The entries of live instances. -/
def living (cache : InstanceCache) (alive : InstanceId → Bool) : List CacheEntry :=
  cache.entries.filter (alive ·.key)

/-- Drops the entries of dead instances. -/
def purge (cache : InstanceCache) (alive : InstanceId → Bool) : InstanceCache × Purge :=
  let kept := cache.living alive
  ({ cache with entries := kept }, ⟨cache.size - kept.length, kept.length⟩)

/-- Drops dead entries if the cache has grown to the number at which that is due, and settles when
it is due next: when the entries that were left have doubled. -/
def purgeIfDue (cache : InstanceCache) (alive : InstanceId → Bool) : InstanceCache × Option Purge :=
  if cache.size < max cache.purgeAt minimumPurge then (cache, none)
  else
    let (purged, purge) := cache.purge alive
    ({ purged with purgeAt := max (2 * purge.left) minimumPurge }, some purge)

/-- Adds a value for an instance unless it has one; returns the value that the cache then holds. -/
def add (cache : InstanceCache) (key : InstanceId) (value : Stamped Term) :
    InstanceCache × Stamped Term :=
  match cache.find? key with
  | some held => (cache, held)
  | none => ({ cache with entries := cache.entries ++ [⟨key, value⟩] }, value)

/-- Whether two caches map the same live instances to equal values. -/
def agree (alive : InstanceId → Bool) (a b : InstanceCache) : Bool :=
  (a.living alive).length = (b.living alive).length &&
    (a.living alive).all fun entry =>
      match b.get? alive entry.key with
      | some other => entry.value.content == other.content
      | none => false

end InstanceCache

end Hybrid
