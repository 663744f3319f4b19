/-! # Identities

Things that may look alike and still be different, such as two classes of one name, are told apart
by numbers that are given out once.
-/

namespace Hybrid

/-- The identity of a hybrid descriptor. -/
structure HybridId where
  number : Nat
  deriving DecidableEq

/-- The identity of a model class. -/
structure ClassId where
  number : Nat
  deriving DecidableEq

/-- The identity of an instance. -/
structure InstanceId where
  number : Nat
  deriving DecidableEq

/-- The identity of a wrapper registry. -/
structure RegistryId where
  number : Nat
  deriving DecidableEq

/-- The identity of a wrapping capability. -/
structure CapabilityId where
  number : Nat
  deriving DecidableEq

/-- The identity of an instance cache: the successive caches of a hybrid are numbered by its resets,
and a cache may also belong to no hybrid. -/
inductive CacheId where
  | ofHybrid (hybrid : HybridId) (generation : Nat)
  | free (number : Nat)
  deriving DecidableEq

/-- A thing together with a number that tells it apart from equal ones made elsewhere. -/
structure Stamped (α : Type) where
  stamp : Nat
  content : α

end Hybrid
