import Hybrid.Session.Step

/-! # Running a session

The state of a session is the store and what its names stand for. An instance lives as long as a
name, or a group under a name, holds it.
-/

namespace Hybrid

/-- A capability with a name, and whether the session shows how often it was asked. -/
structure NamedCapability where
  capability : Capability
  counted : Bool

/-- What the name of an instance or of a group holds. -/
inductive Holding where
  | single (key : InstanceId)
  | group (keys : List InstanceId)

def Holding.keys : Holding → List InstanceId
  | single key => [key]
  | group keys => keys

/-- The state of a session. -/
structure Session where
  store : Store
  hybrids : Table String Descriptor
  classes : Table String ModelClass
  registries : Table String RegistryId
  capabilities : Table String NamedCapability
  instances : Table String Holding
  wrappers : Table String Wrapper
  terms : Table String (Stamped Term)
  caches : Table String CacheId
  /-- The name that the runs of each hybrid are counted under. -/
  labels : Table HybridId String

/-- A computation on a session; there is none for a name that nothing has. -/
abbrev SessionM := StateT Session Option

namespace Session

def initial : Session where
  store := .initial
  hybrids := .empty
  classes := .empty
  registries := .empty
  capabilities := .empty
  instances := .empty
  wrappers := .empty
  terms := .empty
  caches := .empty
  labels := .empty

/-- The thing of a sort that has a name. -/
def find {α : Type} (sort : Session → Table String α) (name : String) : SessionM α := do
  match (sort (← get)).get? name with
  | some thing => pure thing
  | none => failure

/-- The instance that has a name. -/
def findInstance (name : String) : SessionM InstanceId := do
  match ← find (·.instances) name with
  | .single key => pure key
  | .group _ => failure

/-- The registry that has a name, or the shared one if no name is given. -/
def findRegistry : Option String → SessionM RegistryId
  | some name => find (·.registries) name
  | none => pure Store.sharedRegistry

/-- A step on the store. -/
def onStore {α : Type} (step : Store → α × Store) : SessionM α :=
  modifyGet fun session =>
    let (result, store) := step session.store
    (result, { session with store })

/-- A read. -/
def perform {α : Type} (action : Action α) : SessionM (Except HybridError α) :=
  onStore action.run

/-- The things that programs may use by name. -/
def directory (session : Session) : Directory where
  hybrids := session.hybrids
  classes := session.classes
  instances :=
    ⟨session.instances.entries.filterMap fun
      | (name, .single key) => some (name, key)
      | (_, .group _) => none⟩

/-- Ends the lives of the instances that no name holds. -/
def collect (session : Session) : Session :=
  let held := session.instances.contents.flatMap Holding.keys
  { session with
    store.instances := ⟨session.store.instances.entries.filter fun entry => held.contains entry.1⟩ }

/-- Lets a name hold instances, in the place of what it held. -/
def hold (name : String) (holding : Holding) : SessionM Unit :=
  modify fun session =>
    collect { session with instances := session.instances.put name holding }

/-- A new instance, which no name holds yet. -/
def newInstance (model : Model) : SessionM InstanceId :=
  onStore fun store =>
    let (number, store) := store.fresh
    (⟨number⟩, { store with instances := store.instances.put ⟨number⟩ model })

/-- Ends the life of an instance that no name holds. -/
def endInstance (key : InstanceId) : SessionM Unit :=
  modify fun session =>
    { session with store.instances := session.store.instances.erase key }

/-- The first name of a sort, in the order of names, of a thing that passes a test. -/
def firstName? {α : Type} (table : Table String α) (test : α → Bool) : Option String :=
  (((table.entries.filter (test ·.2)).map (·.1)).mergeSort (· ≤ ·)).head?

/-- The name of a capability, or what stands for one that has none. -/
def capabilityName (session : Session) (capability : Capability) : String :=
  (firstName? session.capabilities (·.capability.id = capability.id)).getD "built-in"

/-- A wrapper as an answer shows it. -/
def view (session : Session) (wrapper : Wrapper) : WrapperView :=
  ⟨wrapper, firstName? session.classes (·.id = wrapper.owner)⟩

/-- Keeps a wrapper, if a name is given for it, and shows it. -/
def keepWrapper (as? : Option String) (wrapper : Wrapper) : SessionM Answer := do
  if let some name := as? then
    modify fun session => { session with wrappers := session.wrappers.put name wrapper }
  return .wrapper (some ((← get).view wrapper))

/-- Keeps a term, if a name is given for it, and shows it. -/
def keepTerm (as? : Option String) (term : Stamped Term) : SessionM Answer := do
  if let some name := as? then
    modify fun session => { session with terms := session.terms.put name term }
  return .term (some term.content)

/-- The result of a read, or its error. -/
def answer {α : Type} (outcome : Except HybridError α) (onSuccess : α → SessionM Answer) :
    SessionM Answer :=
  match outcome with
  | .ok result => onSuccess result
  | .error error => return .failed error

/-- Entries between braces. -/
def braced (entries : List String) : String :=
  "\x7b" ++ String.intercalate ", " entries ++ "\x7d"

/-- The sorts of terms that a registry handles. -/
def describeRegistry (registry : Registry) : String :=
  braced (registry.kinds.map TermKind.name)

def describeClass (modelClass : ModelClass) : String :=
  "ModelClass \x7b id: ClassId(<id>), name: " ++ Text.Escaped.quoted modelClass.name ++
    ", attributes: [" ++
    String.intercalate ", " (modelClass.attributes.map fun entry => Text.Escaped.quoted entry.1) ++
    "] \x7d"

def describeHybrid (store : Store) (descriptor : Descriptor) : String :=
  "HybridProperty \x7b name: " ++ Text.Escaped.quoted descriptor.name ++ ", classes: " ++
    toString (store.wrapperCount descriptor.id) ++ ", instances: " ++
    toString (store.cache (store.currentCache descriptor.id)).size ++ ", .. \x7d"

/-- The call of a builder that a declaration stands for. -/
def resolve (session : Session) : Declaration → Option BuilderCall
  | .field name => some (.field name)
  | .fields names => some (.fields names)
  | .hybrid hybrid => (session.hybrids.get? hybrid).map .hybrid
  | .renamed name none => some (.declare name .field)
  | .renamed name (some hybrid) =>
    (session.hybrids.get? hybrid).map fun descriptor => .declare name (.hybrid descriptor)
  | .inherit base => (session.classes.get? base).map .inherit
  | .registry registry => (session.registries.get? registry).map .registry

/-- Gives values to the fields of a record; returns the earlier values that are reported. -/
def giveFields (values : Table String Value) :
    List FieldGift → Table String Value × List (Option Value)
  | [] => (values, [])
  | gift :: rest =>
    let (final, previous) := giveFields (values.put gift.name gift.value) rest
    (final, if gift.reported then values.get? gift.name :: previous else previous)

/-- Whether two records have equal values in the same fields. -/
def sameRecord (a b : Table String Value) : Bool :=
  a.entries.length = b.entries.length &&
    a.entries.all fun (name, value) => (b.get? name).any (value == ·)

/-- What was read so far in a burst. -/
structure Tally where
  sum : Int
  errors : Nat
  instances : List InstanceId

/-- Notes the outcome of a read in a burst: numbers are added up and errors counted. -/
def Tally.note (tally : Tally) : Except HybridError (Stamped Term) → Tally
  | .ok ⟨_, .native (.int number)⟩ => { tally with sum := tally.sum + number.toInt }
  | .ok _ => tally
  | .error _ => { tally with errors := tally.errors + 1 }

/-- Reads an attribute on new records, whose field holds their number. -/
def readNew (modelClass : ModelClass) (name field : String) (keep : Bool) :
    List Nat → Tally → SessionM Tally
  | [], tally => pure tally
  | number :: rest, tally => do
    let value := Value.int (Int64.ofNat number)
    let key ← newInstance (.record (Table.empty.put field value))
    let outcome ← perform (modelClass.getFor (← get).directory key name)
    let tally := tally.note outcome
    if keep then
      readNew modelClass name field keep rest { tally with instances := tally.instances ++ [key] }
    else
      endInstance key
      readNew modelClass name field keep rest tally

/-- Inserts numbers for new instances into a cache; returns the sizes of the cache and the
instances. -/
def fillCache (cache : CacheId) (keep : Bool) :
    List Nat → SessionM (List Nat × List InstanceId)
  | [] => pure ([], [])
  | number :: rest => do
    let key ← newInstance (.record .empty)
    let stamp ← onStore Store.fresh
    let _ ← onStore (·.keepValue cache key ⟨stamp, .native (.int (Int64.ofNat number))⟩)
    let size := ((← get).store.cache cache).size
    unless keep do endInstance key
    let (sizes, keys) ← fillCache cache keep rest
    return (size :: sizes, key :: keys)

/-- Puts a capability in charge of sorts of terms; returns the names of those that it replaces. -/
def registerAll (registry : RegistryId) (capability : Capability) :
    List TermKind → SessionM (List (Option String))
  | [] => pure []
  | kind :: rest => do
    let previous ← onStore (·.register registry kind capability)
    let name := previous.map (← get).capabilityName
    return name :: (← registerAll registry capability rest)

/-- Puts no capability in charge of sorts of terms; returns the names of those that were. -/
def unregisterAll (registry : RegistryId) : List TermKind → SessionM (List (Option String))
  | [] => pure []
  | kind :: rest => do
    let previous ← onStore (·.unregister registry kind)
    let name := previous.map (← get).capabilityName
    return name :: (← unregisterAll registry rest)

/-- Compares what two names stand for: wrappers, or else terms, or else caches. -/
def compare (session : Session) (a b : String) : Option Answer :=
  match session.wrappers.get? a, session.wrappers.get? b with
  | some first, some second => some (.same (first.stamp = second.stamp) (first == second))
  | _, _ =>
    match session.terms.get? a, session.terms.get? b with
    | some first, some second =>
      some (.same (first.stamp = second.stamp) (first.content == second.content))
    | _, _ =>
      match session.caches.get? a, session.caches.get? b with
      | some first, some second =>
        let store := session.store
        some (.same (first = second)
          (first = second || (store.cache first).agree store.isAlive (store.cache second)))
      | _, _ => none

/-- How often the functions of hybrids ran, by the names of the hybrids. -/
def callTotals (session : Session) : List (String × Nat) :=
  (session.store.runs.entries.foldl
    (fun (totals : Table String Nat) (hybrid, times) =>
      match session.labels.get? hybrid with
      | some label => totals.put label ((totals.get? label).getD 0 + times)
      | none => totals)
    Table.empty).entries

/-- The rule of a capability that a session makes. -/
def ruleOf : CapabilityKind → WrappingRule
  | .standard | .counting => .standard
  | .listed native names => .listed native names
  | .enclosing native names => .enclosing native names

/-- Whether a session shows how often such a capability was asked. -/
def isCounted : CapabilityKind → Bool
  | .standard => false
  | .counting | .listed _ _ | .enclosing _ _ => true

/-- Carries out a step. -/
def step : Step → SessionM Answer
  | .hybrid id name body => do
    let number ← onStore Store.fresh
    modify fun session =>
      { session with
        hybrids := session.hybrids.put id ⟨⟨number⟩, name, body⟩
        labels := session.labels.put ⟨number⟩ id }
    return .hybrid name
  | .buildClass id name declarations => do
    let some calls := declarations.mapM (← get).resolve | failure
    answer (← onStore (·.buildClass (.ofCalls name calls))) fun modelClass => do
      modify fun session => { session with classes := session.classes.put id modelClass }
      return .modelClass modelClass
  | .registry id standard => do
    let number ← onStore Store.fresh
    let registry : Registry := if standard then .standard else .empty
    modify fun session =>
      { session with
        store.registries := session.store.registries.put ⟨number⟩ registry
        registries := session.registries.put id ⟨number⟩ }
    return .described (describeRegistry registry)
  | .capability id kind => do
    let number ← onStore Store.fresh
    modify fun session =>
      { session with
        capabilities := session.capabilities.put id ⟨⟨⟨number⟩, ruleOf kind⟩, isCounted kind⟩ }
    return .done
  | .asked capability => do
    let named ← find (·.capabilities) capability
    let times := ((← get).store.asked.get? named.capability.id).getD 0
    return .asked (if named.counted then some times else none)
  | .register registry capability kinds => do
    let registry ← find (·.registries) registry
    let named ← find (·.capabilities) capability
    return .previous (← registerAll registry named.capability kinds)
  | .unregister registry kinds => do
    let registry ← find (·.registries) registry
    return .previous (← unregisterAll registry kinds)
  | .lookup chosen kind => do
    let registry := (← get).store.registry (← findRegistry chosen)
    let capability? := registry.get? kind
    return .found (capability?.map (← get).capabilityName) capability?.isSome
      (describeRegistry registry)
  | .wrap chosen term => do
    let registry ← findRegistry chosen
    return .wrapped (← onStore (·.wrap registry term))
  | .bundle expr names other =>
    let bundle := Bundle.ofNames expr names
    return .bundled bundle.dependencies (bundle == .ofNames expr other)
      (bundle.expression == expr)
  | .record id gifts sameAs? => do
    let (values, previous) := giveFields .empty gifts
    let equal? ←
      match sameAs? with
      | none => pure none
      | some other =>
        match (← get).store.instances.get? (← findInstance other) with
        | some (.record others) => pure (some (sameRecord values others))
        | _ => failure
    hold id (.single (← newInstance (.record values)))
    return .record previous equal?
  | .ticker id names => do
    hold id (.single (← newInstance (.ticker names 0)))
    return .done
  | .share instanceName id => do
    hold id (.single (← findInstance instanceName))
    return .done
  | .sameInstance a b => return .sameInstance ((← findInstance a) = (← findInstance b))
  | .readField instanceName name => do
    let key ← findInstance instanceName
    return .fieldValue (← onStore (·.readField key name))
  | .drop instanceName => do
    let existed := ((← get).instances.get? instanceName).isSome
    modify fun session =>
      collect { session with instances := session.instances.erase instanceName }
    return .dropped existed
  | .attributeOf modelClass name =>
    return .attribute ((← find (·.classes) modelClass).attribute? name)
  | .members modelClass => do
    let modelClass ← find (·.classes) modelClass
    return .members modelClass (modelClass.registry = Store.sharedRegistry)
      (describeClass modelClass)
  | .get modelClass name as? => do
    let modelClass ← find (·.classes) modelClass
    answer (← perform (modelClass.get (← get).directory name)) (keepWrapper as?)
  | .getClass hybrid modelClass as? => do
    let descriptor ← find (·.hybrids) hybrid
    let modelClass ← find (·.classes) modelClass
    let reads := (← get).directory.reads modelClass
    answer (← perform (reads.ofClass modelClass descriptor)) (keepWrapper as?)
  | .getFor modelClass instanceName name as? => do
    let modelClass ← find (·.classes) modelClass
    let key ← findInstance instanceName
    answer (← perform (modelClass.getFor (← get).directory key name)) (keepTerm as?)
  | .getInstance hybrid modelClass instanceName as? => do
    let descriptor ← find (·.hybrids) hybrid
    let modelClass ← find (·.classes) modelClass
    let key ← findInstance instanceName
    let reads := (← get).directory.reads modelClass
    answer (← perform (reads.ofInstance modelClass key descriptor)) (keepTerm as?)
  | .call hybrid modelClass instanceName? => do
    let descriptor ← find (·.hybrids) hybrid
    let modelClass ← find (·.classes) modelClass
    let scope ←
      match instanceName? with
      | none => pure (Scope.onClass modelClass)
      | some name => do pure (Scope.onInstance modelClass (← findInstance name))
    let directory := (← get).directory
    answer (← perform (descriptor.call (directory.reads modelClass) directory scope)) fun term =>
      return .computed term
  | .burst modelClass count name field group? => do
    let modelClass ← find (·.classes) modelClass
    let tally ← readNew modelClass name field group?.isSome (List.range count) ⟨0, 0, []⟩
    if let some group := group? then hold group (.group tally.instances)
    let store := (← get).store
    let entries? :=
      match modelClass.attribute? name with
      | some (.hybrid descriptor) => some (store.cache (store.currentCache descriptor.id)).size
      | _ => none
    return .totals tally.sum tally.errors entries?
  | .newWrapper modelClass name term as? => do
    let modelClass ← find (·.classes) modelClass
    let stamp ← onStore Store.fresh
    keepWrapper as? (.mk stamp term name modelClass.id modelClass.name [])
  | .dependency wrapper position as? => do
    match (← find (·.wrappers) wrapper).siblings[position]? with
    | some sibling => keepWrapper as? sibling
    | none => return .wrapper none
  | .withDependencies wrapper =>
    return .names ((← find (·.wrappers) wrapper).withDependencies.map Wrapper.name)
  | .annotationOrder wrapper =>
    return .names ((← find (·.wrappers) wrapper).annotationOrder.map Wrapper.name)
  | .inline wrapper => return .computed (← find (·.wrappers) wrapper).inline
  | .reset hybrid => do
    let descriptor ← find (·.hybrids) hybrid
    onStore fun store => (.done, store.resetHybrid descriptor)
  | .resetClass modelClass => do
    let modelClass ← find (·.classes) modelClass
    onStore fun store => (.done, store.resetClass modelClass)
  | .cached hybrid modelClass as? => do
    let descriptor ← find (·.hybrids) hybrid
    let modelClass ← find (·.classes) modelClass
    match (← get).store.wrapper? descriptor.id modelClass.id with
    | some wrapper => keepWrapper as? wrapper
    | none => return .wrapper none
  | .cache hybrid as? => do
    let descriptor ← find (·.hybrids) hybrid
    let cache := (← get).store.currentCache descriptor.id
    if let some name := as? then
      modify fun session => { session with caches := session.caches.put name cache }
    return .cacheSize ((← get).store.cache cache).size
  | .newCache as => do
    let number ← onStore Store.fresh
    modify fun session => { session with caches := session.caches.put as (.free number) }
    return .done
  | .cacheInfo cache => do
    let cache ← find (·.caches) cache
    return .cacheSize ((← get).store.cache cache).size
  | .cacheInsert cache instanceName term as? => do
    let cache ← find (·.caches) cache
    let key ← findInstance instanceName
    let stamp ← onStore Store.fresh
    keepTerm as? (← onStore (·.keepValue cache key ⟨stamp, term⟩))
  | .cacheGet cache instanceName as? => do
    let cache ← find (·.caches) cache
    let key ← findInstance instanceName
    let store := (← get).store
    match (store.cache cache).get? store.isAlive key with
    | some value => keepTerm as? value
    | none => return .term none
  | .cacheFill cache count group? => do
    let cache ← find (·.caches) cache
    let (sizes, keys) ← fillCache cache group?.isSome (List.range count)
    if let some group := group? then hold group (.group keys)
    return .cacheSizes sizes
  | .purge cache => do
    let cache ← find (·.caches) cache
    let dropped ← onStore (·.purge cache)
    return .purged dropped ((← get).store.cache cache).size
  | .same a b => do
    match (← get).compare a b with
    | some answer => pure answer
    | none => failure
  | .sameClass a b => do
    let first ← find (·.classes) a
    let second ← find (·.classes) b
    return .sameClass (first.id = second.id) (first.registry = second.registry)
  | .calls => return .calls (← get).callTotals
  | .describeHybrid hybrid => do
    let descriptor ← find (·.hybrids) hybrid
    return .described (describeHybrid (← get).store descriptor)

/-- What a step answers, the events that it reports in order, and the session after it. -/
def advance (session : Session) (next : Step) : (Answer × List Event) × Session :=
  let quiet := { session with store.events := [] }
  match (step next).run quiet with
  | some (answer, after) => ((answer, after.store.events.reverse), after)
  | none => ((.unreadable, []), quiet)

/-- The answers of steps carried out one after the other, with the events that they report. -/
def run (session : Session) : List Step → List (Answer × List Event)
  | [] => []
  | next :: rest =>
    let (answered, after) := session.advance next
    answered :: after.run rest

end Session

end Hybrid
