import Hybrid.Class
import Hybrid.Event
import Hybrid.InstanceCache
import Hybrid.Registry
import Hybrid.Wrapper

/-! # The store

Everything that reading attributes may change: what is cached for the hybrids, which of them are
under evaluation, the instances that are alive, and the counts that show what was run. A hybrid has
one wrapper for each class and one instance cache, which a reset replaces by a new one.
-/

namespace Hybrid

/-- What an instance holds. -/
inductive Model where
  /-- Fixed values by field. -/
  | record (values : Table String Value)
  /-- Fields that read as a number, the next one at each read of any of them. -/
  | ticker (names : List String) (next : Int)

/-- A frame of the build stack: a hybrid under evaluation, on a class or on an instance of it. -/
structure Frame where
  modelClass : ClassId
  instance? : Option InstanceId
  hybrid : String
  deriving DecidableEq

/-- Whether two frames are of the same class and the same instance, or both of no instance. -/
def Frame.sameSide (a b : Frame) : Bool :=
  a.modelClass = b.modelClass && a.instance? = b.instance?

/-- The state of the library. -/
structure Store where
  /-- The cached wrappers. -/
  wrappers : Table (HybridId × ClassId) Wrapper
  /-- How often each hybrid was reset. -/
  generations : Table HybridId Nat
  caches : Table CacheId InstanceCache
  /-- The instances that are alive. -/
  instances : Table InstanceId Model
  registries : Table RegistryId Registry
  /-- How often each capability was asked whether a term is native. -/
  asked : Table CapabilityId Nat
  /-- How often the function of each hybrid ran. -/
  runs : Table HybridId Nat
  counters : Table String Int
  /-- The hybrids under evaluation, the innermost last. -/
  building : List Frame
  /-- The next number for an identity or a stamp. -/
  next : Nat
  /-- The events so far, the last one first. -/
  events : List Event

namespace Store

/-- The registry that classes use if they choose none. -/
def sharedRegistry : RegistryId := ⟨0⟩

/-- The store before anything is done: it holds the shared registry. -/
def initial : Store where
  wrappers := .empty
  generations := .empty
  caches := .empty
  instances := .empty
  registries := ⟨[(sharedRegistry, .standard)]⟩
  asked := .empty
  runs := .empty
  counters := .empty
  building := []
  next := 1
  events := []

/-- Whether an instance is alive. -/
def isAlive (store : Store) (key : InstanceId) : Bool :=
  (store.instances.get? key).isSome

/-- The registry of that identity. -/
def registry (store : Store) (id : RegistryId) : Registry :=
  (store.registries.get? id).getD .empty

/-- The cache of that identity; one that holds nothing yet is empty. -/
def cache (store : Store) (id : CacheId) : InstanceCache :=
  (store.caches.get? id).getD .empty

/-- The current instance cache of a hybrid. -/
def currentCache (store : Store) (hybrid : HybridId) : CacheId :=
  .ofHybrid hybrid ((store.generations.get? hybrid).getD 0)

/-- The cached wrapper of a hybrid for a class. -/
def wrapper? (store : Store) (hybrid : HybridId) (modelClass : ClassId) : Option Wrapper :=
  store.wrappers.get? (hybrid, modelClass)

/-- The number of classes that a wrapper of the hybrid is cached for. -/
def wrapperCount (store : Store) (hybrid : HybridId) : Nat :=
  (store.wrappers.keys.filter (·.1 = hybrid)).length

/-- The cached value of a hybrid for an instance. -/
def value? (store : Store) (hybrid : HybridId) (key : InstanceId) : Option (Stamped Term) :=
  (store.cache (store.currentCache hybrid)).get? store.isAlive key

/-- Reports an event. -/
def report (store : Store) (event : Event) : Store :=
  { store with events := event :: store.events }

/-- A number that was not given out before. -/
def fresh (store : Store) : Nat × Store :=
  (store.next, { store with next := store.next + 1 })

/-- Counts a run of the function of a hybrid. -/
def countRun (store : Store) (hybrid : HybridId) : Store :=
  { store with runs := store.runs.put hybrid ((store.runs.get? hybrid).getD 0 + 1) }

/-- The next number of a counter, which starts at one. -/
def count (store : Store) (counter : String) : Int × Store :=
  let number := (store.counters.get? counter).getD 0 + 1
  (number, { store with counters := store.counters.put counter number })

/-- Wraps a term with a registry, and counts the question to the capability in charge. -/
def wrap (store : Store) (registry : RegistryId) (term : Term) : Wrapped × Store :=
  let table := store.registry registry
  let asked :=
    match table.get? term.kind with
    | some capability =>
      store.asked.put capability.id ((store.asked.get? capability.id).getD 0 + 1)
    | none => store.asked
  (table.wrap term, { store with asked })

/-- Puts a capability in charge of a sort of terms; returns the one that it replaces. -/
def register (store : Store) (registry : RegistryId) (kind : TermKind) (capability : Capability) :
    Option Capability × Store :=
  let table := store.registry registry
  let store :=
    { store with registries := store.registries.put registry (table.put kind capability) }
  match table.get? kind with
  | some previous => (some previous, store.report (.replacedCapability kind))
  | none => (none, store)

/-- Puts no capability in charge of a sort of terms; returns the one that was. -/
def unregister (store : Store) (registry : RegistryId) (kind : TermKind) :
    Option Capability × Store :=
  let table := store.registry registry
  (table.get? kind, { store with registries := store.registries.put registry (table.erase kind) })

/-- Builds a class as declared. -/
def buildClass (store : Store) (builder : ClassBuilder) :
    Except HybridError ModelClass × Store :=
  match builder.build ⟨store.next⟩ sharedRegistry with
  | .error error => (.error error, store)
  | .ok modelClass =>
    (.ok modelClass,
      { store with next := store.next + 1 }.report
        (.builtClass modelClass.name modelClass.attributes.length))

/-- Caches a wrapper unless there is one; returns the wrapper that is cached then. -/
def keepWrapper (store : Store) (hybrid : HybridId) (modelClass : ClassId) (wrapper : Wrapper) :
    Wrapper × Store :=
  match store.wrapper? hybrid modelClass with
  | some kept => (kept, store)
  | none =>
    (wrapper, { store with wrappers := store.wrappers.put (hybrid, modelClass) wrapper })

/-- Adds a value for an instance to a cache, after dropping dead entries if that is due; returns
the value that the cache then holds. -/
def keepValue (store : Store) (id : CacheId) (key : InstanceId) (value : Stamped Term) :
    Stamped Term × Store :=
  let (purged, purge?) := (store.cache id).purgeIfDue store.isAlive
  let (cache, held) := purged.add key value
  let store := { store with caches := store.caches.put id cache }
  (held,
    match purge? with
    | some purge => store.report (.purged purge.dropped purge.left)
    | none => store)

/-- Drops the entries of dead instances from a cache; returns how many there were. -/
def purge (store : Store) (id : CacheId) : Nat × Store :=
  let (cache, purge) := (store.cache id).purge store.isAlive
  (purge.dropped, { store with caches := store.caches.put id cache })

/-- Forgets every cached wrapper and instance value of a hybrid; its instance cache is replaced by
a new one. -/
def resetHybrid (store : Store) (descriptor : Descriptor) : Store :=
  let dropped := store.wrapperCount descriptor.id
  let generation := (store.generations.get? descriptor.id).getD 0 + 1
  { store with
    wrappers := ⟨store.wrappers.entries.filter (·.1.1 ≠ descriptor.id)⟩
    generations := store.generations.put descriptor.id generation }
  |>.report (.resetHybrid descriptor.name dropped)

/-- Resets every hybrid of a class, in order. -/
def resetClass (store : Store) (modelClass : ModelClass) : Store :=
  modelClass.hybrids.foldl (fun store hybrid => store.resetHybrid hybrid.2) store

/-- Reads a plain field of an instance. -/
def readField (store : Store) (key : InstanceId) (name : String) : Option Value × Store :=
  match store.instances.get? key with
  | none => (none, store)
  | some (.record values) => (values.get? name, store)
  | some (.ticker names next) =>
    if names.contains name then
      (Value.ofInt? next,
        { store with instances := store.instances.put key (.ticker names (next + 1)) })
    else (none, store)

/-- The names of the hybrids under evaluation from `frame` on, among those of the same class and
instance, and that of `frame` again; none if `frame` is not under evaluation. -/
def cycle? (store : Store) (frame : Frame) : Option (List String) :=
  match store.building.dropWhile (· ≠ frame) with
  | [] => none
  | fromFrame => some ((fromFrame.filter frame.sameSide).map (·.hybrid) ++ [frame.hybrid])

end Store

end Hybrid
