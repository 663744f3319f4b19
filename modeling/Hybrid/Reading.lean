import Hybrid.Store
import Hybrid.Text.Escaped

/-! # Reading attributes

A hybrid is read on a class or on an instance of it. A class read returns the cached wrapper, or
runs the function on the class, wraps the result, builds the siblings that it refers to by name,
and caches the new wrapper. An instance read returns the cached value, or runs the function on the
instance and caches what it gives. An error leaves nothing cached for the hybrid that failed.

A hybrid under evaluation is marked on the build stack of the store. To read it again for the same
class and instance would never end, and is an error that names the hybrids on the way. No other
read is nested in one that is not on the stack, so reads are defined by recursion on the number of
hybrids that may still be put there.
-/

namespace Hybrid

/-- A computation on the store; what it did to the store stays done when it fails. -/
abbrev Action := ExceptT HybridError (StateM Store)

namespace Action

variable {α : Type}

/-- A step that cannot fail. -/
def ofStep (step : Store → α × Store) : Action α :=
  ExceptT.mk fun store => let (result, store) := step store; (.ok result, store)

/-- A change of the store. -/
def change (step : Store → Store) : Action Unit :=
  ofStep fun store => ((), step store)

/-- A look at the store. -/
def look (view : Store → α) : Action α :=
  ofStep fun store => (view store, store)

def report (event : Event) : Action Unit :=
  change (·.report event)

/-- The result of arithmetic, or its error. -/
def ofArithmetic : Except ArithmeticError α → Action α
  | .ok result => pure result
  | .error error => throw (.arithmetic error)

/-- Puts a new stamp on a result. -/
def stamp (content : α) : Action (Stamped α) := do
  return ⟨← ofStep Store.fresh, content⟩

/-- Runs an action with a hybrid marked as under evaluation, unless it is so marked already; the
build stack is afterwards as deep as before. -/
def guarded (modelClass : ModelClass) (instance? : Option InstanceId) (hybrid : String)
    (action : Action α) : Action α :=
  ExceptT.mk fun store =>
    let frame : Frame := ⟨modelClass.id, instance?, hybrid⟩
    match store.cycle? frame with
    | some chain => (.error (.cyclicDependency modelClass.name chain), store)
    | none =>
      let (outcome, after) := action.run { store with building := store.building ++ [frame] }
      (outcome, { after with building := after.building.take store.building.length })

end Action

/-- What a hybrid function is run against. -/
inductive Scope where
  | onClass (modelClass : ModelClass)
  | onInstance (modelClass : ModelClass) (key : InstanceId)

namespace Scope

def modelClass : Scope → ModelClass
  | onClass modelClass => modelClass
  | onInstance modelClass _ => modelClass

def instance? : Scope → Option InstanceId
  | onClass _ => none
  | onInstance _ key => some key

def describe : Scope → String
  | onClass modelClass => "Class(" ++ Text.Escaped.quoted modelClass.name ++ ")"
  | onInstance modelClass _ =>
    "Instance \x7b class: " ++ Text.Escaped.quoted modelClass.name ++ ", instance: <ptr> \x7d"

end Scope

/-- The things that programs may use by name. -/
structure Directory where
  hybrids : Table String Descriptor
  classes : Table String ModelClass
  instances : Table String InstanceId

/-- How hybrids are read. -/
structure Reads where
  ofClass : ModelClass → Descriptor → Action Wrapper
  ofInstance : ModelClass → InstanceId → Descriptor → Action (Stamped Term)

namespace Reads

variable (reads : Reads)

/-- Reads an attribute of an instance; a plain field gives a new value each time. -/
def attributeOf (modelClass : ModelClass) (key : InstanceId) (name : String) :
    Action (Stamped Term) := do
  match modelClass.attribute? name with
  | none => throw (.unknownAttribute modelClass.name name)
  | some (.hybrid descriptor) => reads.ofInstance modelClass key descriptor
  | some .field =>
    match ← Action.ofStep fun store => store.readField key name with
    | some value => Action.stamp (.native value)
    | none => throw (.missingField modelClass.name name)

/-- Reads a hybrid attribute of a class. -/
def hybridOf (modelClass : ModelClass) (name : String) : Action Wrapper :=
  match modelClass.attribute? name with
  | none => throw (.unknownAttribute modelClass.name name)
  | some (.hybrid descriptor) => reads.ofClass modelClass descriptor
  | some .field => throw (.notAHybrid modelClass.name name)

/-- An attribute of the scope by name. On a class it is a reference, whatever the name. -/
def byName : Scope → String → Action Term
  | .onClass _, name => return .symbolic (.field name)
  | .onInstance modelClass key, name => return (← reads.attributeOf modelClass key name).content

/-- An attribute of the scope by value. On a class a hybrid stands for its own expression. -/
def byValue : Scope → String → Action Term
  | .onClass modelClass, name =>
    match modelClass.attribute? name with
    | none => throw (.unknownAttribute modelClass.name name)
    | some (.hybrid descriptor) => return (← reads.ofClass modelClass descriptor).expression
    | some .field => return .symbolic (.field name)
  | .onInstance modelClass key, name => return (← reads.attributeOf modelClass key name).content

end Reads

namespace Directory

variable (directory : Directory)

/-- The error of a program that uses something of a sort that is not there. -/
def missing (sort : String) : HybridError :=
  .evaluation ("bad program: " ++ sort)

/-- The class of that name, for a program that uses it. -/
def modelClass (name : String) : Action ModelClass :=
  match directory.classes.get? name with
  | some modelClass => pure modelClass
  | none => throw (missing "class")

/-- The hybrid of that name, for a program that uses it. -/
def hybrid (name : String) : Action Descriptor :=
  match directory.hybrids.get? name with
  | some descriptor => pure descriptor
  | none => throw (missing "hybrid")

/-- The instance of that name, or the scope's own, for a program that uses it. -/
def instanceOf (scope : Scope) (name? : Option String) : Action InstanceId :=
  let key? :=
    match name? with
    | some name => directory.instances.get? name
    | none => scope.instance?
  match key? with
  | some key => pure key
  | none => throw (missing "instance")

/-- A bound on the number of hybrids that can be under evaluation at once in a read on a class: one
for every hybrid of every class in play, on the class and on each instance in play. -/
def room (modelClass : ModelClass) : Nat :=
  ModelClass.countHybrids (modelClass :: directory.classes.contents) *
    (directory.instances.entries.length + 2) + 2

end Directory

namespace Body

variable (reads : Reads) (directory : Directory) (scope : Scope)

mutual

/-- Runs a program against a scope. -/
def run : Body → Action Term
  | .constant value => return .native value
  | .expression expr => return .symbolic expr
  | .byName name => reads.byName scope name
  | .byValue name => reads.byValue scope name
  | .reference name => return .symbolic (.field name)
  | .combine operator lhs rhs => do
    let left ← run lhs
    let right ← run rhs
    Action.ofArithmetic (left.combine operator right)
  | .negate operand => do
    let term ← run operand
    Action.ofArithmetic term.negate
  | .call name arguments => do
    let terms ← runList arguments
    Action.ofArithmetic (Term.call name terms)
  | .fail error => throw error
  | .bySide onClass onInstance =>
    match scope with
    | .onClass _ => run onClass
    | .onInstance _ _ => run onInstance
  | .ifEqual lhs rhs same different => do
    let left ← run lhs
    let right ← run rhs
    if left == right then run same else run different
  | .sequence bodies => do
    let terms ← runList bodies
    return terms.getLast?.getD (.native .null)
  | .recover body fallback => tryCatch (run body) fun _ => run fallback
  | .explain body =>
    tryCatch (run body) fun error => return .native (.text error.message)
  | .count counter => do
    let number ← Action.ofStep (·.count counter)
    return .native (.int (Int64.ofInt number))
  | .isInstance => return .native (.bool scope.instance?.isSome)
  | .className => return .native (.text scope.modelClass.name)
  | .describeScope => return .native (.text scope.describe)
  | .reset hybrid => do
    let descriptor ← directory.hybrid hybrid
    Action.change (·.resetHybrid descriptor)
    return .native .null
  | .ofClass modelClass name => do
    let modelClass ← directory.modelClass modelClass
    return (← reads.hybridOf modelClass name).expression
  | .ofInstance modelClass instance? name => do
    let modelClass ← directory.modelClass modelClass
    let key ← directory.instanceOf scope instance?
    return (← reads.attributeOf modelClass key name).content

/-- Runs programs one after the other. -/
def runList : List Body → Action (List Term)
  | [] => return []
  | body :: rest => do
    let term ← run body
    return term :: (← runList rest)

end

end Body

/-- Calls the function of a hybrid, past all caches. -/
def Descriptor.call (descriptor : Descriptor) (reads : Reads) (directory : Directory)
    (scope : Scope) : Action Term := do
  Action.change (·.countRun descriptor.id)
  descriptor.body.run reads directory scope

/-- Builds the siblings that the names refer to, in order; fields need nothing. -/
def Reads.resolve (reads : Reads) (modelClass : ModelClass) (hybrid : String) :
    List String → Action (List (String × Wrapper))
  | [] => return []
  | name :: rest =>
    match modelClass.attribute? name with
    | some (.hybrid sibling) => do
      let wrapper ← reads.ofClass modelClass sibling
      return (name, wrapper) :: (← reads.resolve modelClass hybrid rest)
    | some .field => do
      Action.report (.readsField modelClass.name hybrid name)
      reads.resolve modelClass hybrid rest
    | none => throw (.unresolvedReference hybrid name modelClass.name)

/-- Builds the wrapper of a hybrid for a class and caches it, unless one was cached meanwhile. -/
def Descriptor.buildWrapper (descriptor : Descriptor) (reads : Reads) (directory : Directory)
    (modelClass : ModelClass) : Action Wrapper := do
  let term ← descriptor.call reads directory (.onClass modelClass)
  let wrapped ← Action.ofStep (·.wrap modelClass.registry term)
  let dependencies ← reads.resolve modelClass descriptor.name wrapped.dependencies
  let stamp ← Action.ofStep Store.fresh
  let expression := wrapped.toTerm
  let wrapper :=
    Wrapper.mk stamp expression descriptor.name modelClass.id modelClass.name dependencies
  Action.report
    (.builtHybrid modelClass.name descriptor.name expression dependencies.length)
  Action.ofStep (·.keepWrapper descriptor.id modelClass.id wrapper)

/-- Reads a hybrid on a class. -/
def Descriptor.readClass (descriptor : Descriptor) (reads : Reads) (directory : Directory)
    (modelClass : ModelClass) : Action Wrapper := do
  match ← Action.look (·.wrapper? descriptor.id modelClass.id) with
  | some wrapper =>
    Action.report (.classHit modelClass.name descriptor.name)
    return wrapper
  | none =>
    Action.guarded modelClass none descriptor.name
      (descriptor.buildWrapper reads directory modelClass)

/-- Computes the value of a hybrid for an instance and adds it to a cache. -/
def Descriptor.computeValue (descriptor : Descriptor) (reads : Reads) (directory : Directory)
    (modelClass : ModelClass) (key : InstanceId) (cache : CacheId) : Action (Stamped Term) := do
  let term ← descriptor.call reads directory (.onInstance modelClass key)
  let value ← Action.stamp term
  Action.report (.evaluated modelClass.name descriptor.name term)
  Action.ofStep (·.keepValue cache key value)

/-- Reads a hybrid on an instance. The value goes to the cache that was current when the read
began. -/
def Descriptor.readInstance (descriptor : Descriptor) (reads : Reads) (directory : Directory)
    (modelClass : ModelClass) (key : InstanceId) : Action (Stamped Term) := do
  let cache ← Action.look (·.currentCache descriptor.id)
  match ← Action.look fun store => (store.cache cache).get? store.isAlive key with
  | some value =>
    Action.report (.instanceHit modelClass.name descriptor.name)
    return value
  | none =>
    Action.guarded modelClass (some key) descriptor.name
      (descriptor.computeValue reads directory modelClass key cache)

/-- The reads that put at most `room` hybrids on the build stack. -/
def Directory.readsWithin (directory : Directory) : (room : Nat) → Reads
  | 0 => ⟨fun _ _ => throw .exhausted, fun _ _ _ => throw .exhausted⟩
  | room + 1 =>
    { ofClass := fun modelClass descriptor =>
        descriptor.readClass (directory.readsWithin room) directory modelClass
      ofInstance := fun modelClass key descriptor =>
        descriptor.readInstance (directory.readsWithin room) directory modelClass key }

/-- The reads that start from a class. -/
def Directory.reads (directory : Directory) (modelClass : ModelClass) : Reads :=
  directory.readsWithin (directory.room modelClass)

/-- What a program gives on a class of that name without attributes. -/
def Body.runAlone (body : Body) (className : String) : Except HybridError Term :=
  let modelClass : ModelClass :=
    { attributes := [], id := ⟨0⟩, name := className, registry := Store.sharedRegistry }
  let directory : Directory := ⟨.empty, .empty, .empty⟩
  ((body.run (directory.reads modelClass) directory (.onClass modelClass)).run .initial).1

namespace ModelClass

/-- Reads a hybrid attribute on the class. -/
def get (modelClass : ModelClass) (directory : Directory) (name : String) : Action Wrapper :=
  (directory.reads modelClass).hybridOf modelClass name

/-- Reads an attribute on an instance of the class. -/
def getFor (modelClass : ModelClass) (directory : Directory) (key : InstanceId) (name : String) :
    Action (Stamped Term) :=
  (directory.reads modelClass).attributeOf modelClass key name

end ModelClass

end Hybrid
