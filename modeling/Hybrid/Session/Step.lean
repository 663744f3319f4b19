import Hybrid.Reading

/-! # Steps of a session

A session works with named things: hybrids, classes, registries, capabilities, instances and groups
of them, wrappers, terms and caches, each sort with names of its own. A step makes or uses some of
them, and many steps can keep their result under a name.
-/

namespace Hybrid

/-- A call of the builder of a class, with the things that it uses by name. -/
inductive Declaration where
  | field (name : String)
  | fields (names : List String)
  | hybrid (hybrid : String)
  /-- An attribute under a name of its own: a hybrid, or a plain field if none is given. -/
  | renamed (name : String) (hybrid? : Option String)
  | inherit (base : String)
  | registry (registry : String)

/-- A value given to a field of a new record, possibly in the place of an earlier one. -/
structure FieldGift where
  name : String
  value : Value
  /-- Whether the earlier value is reported. -/
  reported : Bool

/-- The capabilities that a session can make. -/
inductive CapabilityKind where
  /-- The standard rule, without a count of questions. -/
  | standard
  /-- The standard rule. -/
  | counting
  | listed (native : List TermKind) (names : List String)
  | enclosing (native : List TermKind) (names : List String)

/-- A step of a session. In every step, `as?` is the name that its result is kept under. -/
inductive Step where
  | hybrid (id name : String) (body : Body)
  | buildClass (id name : String) (declarations : List Declaration)
  | registry (id : String) (standard : Bool)
  | capability (id : String) (kind : CapabilityKind)
  | asked (capability : String)
  | register (registry capability : String) (kinds : List TermKind)
  | unregister (registry : String) (kinds : List TermKind)
  | lookup (chosen : Option String) (kind : TermKind)
  | wrap (chosen : Option String) (term : Term)
  | bundle (expr : Expr) (names other : List String)
  | record (id : String) (gifts : List FieldGift) (sameAs? : Option String)
  | ticker (id : String) (names : List String)
  | share (instanceName id : String)
  | sameInstance (a b : String)
  | readField (instanceName name : String)
  | drop (instanceName : String)
  | attributeOf (modelClass name : String)
  | members (modelClass : String)
  | get (modelClass name : String) (as? : Option String)
  | getClass (hybrid modelClass : String) (as? : Option String)
  | getFor (modelClass instanceName name : String) (as? : Option String)
  | getInstance (hybrid modelClass instanceName : String) (as? : Option String)
  | call (hybrid modelClass : String) (instanceName? : Option String)
  /-- Reads on `count` new records, one after the other, which live on only in a group. -/
  | burst (modelClass : String) (count : Nat) (name field : String) (group? : Option String)
  | newWrapper (modelClass name : String) (term : Term) (as? : Option String)
  | dependency (wrapper : String) (position : Nat) (as? : Option String)
  | withDependencies (wrapper : String)
  | annotationOrder (wrapper : String)
  | inline (wrapper : String)
  | reset (hybrid : String)
  | resetClass (modelClass : String)
  | cached (hybrid modelClass : String) (as? : Option String)
  | cache (hybrid : String) (as? : Option String)
  | newCache (as : String)
  | cacheInfo (cache : String)
  | cacheInsert (cache instanceName : String) (term : Term) (as? : Option String)
  | cacheGet (cache instanceName : String) (as? : Option String)
  /-- Inserts on `count` new instances, one after the other, which live on only in a group. -/
  | cacheFill (cache : String) (count : Nat) (group? : Option String)
  | purge (cache : String)
  | same (a b : String)
  | sameClass (a b : String)
  | calls
  | describeHybrid (hybrid : String)

/-- A wrapper as an answer shows it. -/
structure WrapperView where
  wrapper : Wrapper
  /-- The name that the session has for the owner. -/
  modelClass? : Option String

/-- What a step answers. -/
inductive Answer where
  | done
  | failed (error : HybridError)
  /-- The step uses a name that nothing has. -/
  | unreadable
  | hybrid (name : String)
  | modelClass (modelClass : ModelClass)
  | attribute (attribute? : Option Attribute)
  | described (text : String)
  | previous (capabilities : List (Option String))
  | asked (times? : Option Nat)
  | found (capability? : Option String) (registered : Bool) (description : String)
  | wrapped (wrapped : Wrapped)
  | bundled (names : List String) (equal sameExpression : Bool)
  | record (previous : List (Option Value)) (equal? : Option Bool)
  | sameInstance (same : Bool)
  | fieldValue (value? : Option Value)
  | dropped (existed : Bool)
  | members (modelClass : ModelClass) (shared : Bool) (description : String)
  | wrapper (view? : Option WrapperView)
  | term (term? : Option Term)
  | computed (term : Term)
  | totals (sum : Int) (errors : Nat) (entries? : Option Nat)
  | names (names : List String)
  | cacheSize (entries : Nat)
  | cacheSizes (entries : List Nat)
  | purged (dropped left : Nat)
  | same (identical equal : Bool)
  | sameClass (identical sameRegistry : Bool)
  | calls (times : List (String × Nat))

end Hybrid
