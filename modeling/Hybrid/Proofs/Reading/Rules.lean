import Hybrid.Proofs.Body.Leaves
import Hybrid.Proofs.Store.Ledger

/-! # Rules for reading

One rule for each function that reading is made of. Each says what holds of the outcome of the
function and that the store stays covered by a ledger, given the same of what the function runs.
The rules for hybrids ask for the three ways that a read can go: something is cached, the hybrid is
under evaluation already, or its function runs.
-/

namespace Hybrid

variable {ledger : Ledger} {start store : Store} {stack : List Frame}
variable {reads : Reads} {directory : Directory} {modelClass : ModelClass} {key : InstanceId}

section Fields

variable {name : String}

/-- A plain field of any instance reads as a value or is missing. -/
theorem Reads.attributeOf_field (field : modelClass.attribute? name = some .field)
    (keeps : ledger.Keeps start stack store) :
    (reads.attributeOf modelClass key name).Ensures store fun outcome after =>
      ((∃ value, outcome.map Stamped.content = .ok (.native value)) ∨
        outcome.map Stamped.content = .error (.missingField modelClass.name name)) ∧
      ledger.Keeps start stack after := by
  unfold Reads.attributeOf
  rw [field]
  refine Action.ensures_bind.mpr (Action.ensures_ofStep.mpr ?_)
  have building : (store.readField key name).2.building = store.building := by
    unfold Store.readField
    split
    · rfl
    · rfl
    · split <;> rfl
  have after : ledger.Keeps start stack (store.readField key name).2 :=
    ⟨keeps.covers.readField key name, building.trans keeps.building⟩
  cases (store.readField key name).1 with
  | some value => exact ⟨.inl ⟨value, rfl⟩, after.congr rfl rfl rfl rfl rfl rfl⟩
  | none => exact ⟨.inr rfl, after⟩

/-- What reading a field of a fixed instance gives. -/
def ModelClass.fieldOutcome (modelClass : ModelClass) (values : Table String Value)
    (name : String) : Except HybridError Term :=
  match values.get? name with
  | some value => .ok (.native value)
  | none => .error (.missingField modelClass.name name)

/-- A plain field of a fixed instance reads as its value, if it has one. -/
theorem Reads.attributeOf_record (field : modelClass.attribute? name = some .field)
    {values : Table String Value} (fixed : start.instances.get? key = some (.record values))
    (keeps : ledger.Keeps start stack store) :
    (reads.attributeOf modelClass key name).Ensures store fun outcome after =>
      outcome.map Stamped.content = modelClass.fieldOutcome values name ∧
        ledger.Keeps start stack after := by
  unfold Reads.attributeOf ModelClass.fieldOutcome
  rw [field]
  refine Action.ensures_bind.mpr (Action.ensures_ofStep.mpr ?_)
  rw [Store.readField_record (keeps.covers.record fixed)]
  cases values.get? name with
  | some value => exact ⟨rfl, keeps.congr rfl rfl rfl rfl rfl rfl⟩
  | none => exact ⟨rfl, keeps⟩

/-- An attribute of an instance with these fields. Nothing is said of what other instances give. -/
theorem Reads.attributeOf_fixed {other : InstanceId} (post : Except HybridError Term → Prop)
    {values : Table String Value} (fixed : start.instances.get? key = some (.record values))
    (keeps : ledger.Keeps start stack store)
    (unknown : modelClass.attribute? name = none →
      post (.error (.unknownAttribute modelClass.name name)))
    (field : modelClass.attribute? name = some .field → post (modelClass.fieldOutcome values name))
    (hybrid : ∀ descriptor, modelClass.attribute? name = some (.hybrid descriptor) →
      (reads.ofInstance modelClass other descriptor).Ensures store fun outcome after =>
        (other = key → post (outcome.map Stamped.content)) ∧ ledger.Keeps start stack after) :
    (reads.attributeOf modelClass other name).Ensures store fun outcome after =>
      (other = key → post (outcome.map Stamped.content)) ∧ ledger.Keeps start stack after := by
  cases declared : modelClass.attribute? name with
  | none =>
    unfold Reads.attributeOf
    rw [declared]
    exact ⟨fun _ => unknown declared, keeps⟩
  | some kind =>
    cases kind with
    | hybrid descriptor =>
      unfold Reads.attributeOf
      rw [declared]
      exact hybrid descriptor declared
    | field =>
      by_cases same : other = key
      · subst same
        refine (Reads.attributeOf_record declared fixed keeps).mono
          fun outcome after ⟨read, ended⟩ => ⟨fun _ => ?_, ended⟩
        rw [read]
        exact field declared
      · exact (Reads.attributeOf_field declared keeps).mono
          fun outcome after ⟨_, ended⟩ => ⟨fun same' => absurd same' same, ended⟩

/-- An attribute of any instance reads as a value, as a hybrid, or not at all. -/
theorem Reads.attributeOf_keeps (post : Except HybridError Term → Prop)
    (keeps : ledger.Keeps start stack store)
    (native : ∀ value, post (.ok (.native value)))
    (unknown : post (.error (.unknownAttribute modelClass.name name)))
    (missing : post (.error (.missingField modelClass.name name)))
    (hybrid : ∀ descriptor, modelClass.attribute? name = some (.hybrid descriptor) →
      (reads.ofInstance modelClass key descriptor).Ensures store fun outcome after =>
        post (outcome.map Stamped.content) ∧ ledger.Keeps start stack after) :
    (reads.attributeOf modelClass key name).Ensures store fun outcome after =>
      post (outcome.map Stamped.content) ∧ ledger.Keeps start stack after := by
  cases declared : modelClass.attribute? name with
  | none =>
    unfold Reads.attributeOf
    rw [declared]
    exact ⟨unknown, keeps⟩
  | some kind =>
    cases kind with
    | field =>
      refine (Reads.attributeOf_field declared keeps).mono fun outcome after ⟨read, ended⟩ => ?_
      rcases read with ⟨value, read⟩ | read
      · exact ⟨read ▸ native value, ended⟩
      · exact ⟨read ▸ missing, ended⟩
    | hybrid descriptor =>
      unfold Reads.attributeOf
      rw [declared]
      exact hybrid descriptor declared

/-- Only hybrids are read on a class. -/
theorem Reads.hybridOf_keeps (post : Except HybridError Term → Prop)
    (keeps : ledger.Keeps start stack store)
    (unknown : post (.error (.unknownAttribute modelClass.name name)))
    (plain : post (.error (.notAHybrid modelClass.name name)))
    (hybrid : ∀ descriptor, modelClass.attribute? name = some (.hybrid descriptor) →
      (reads.ofClass modelClass descriptor).Ensures store fun outcome after =>
        post (outcome.map Wrapper.expression) ∧ ledger.Keeps start stack after) :
    (reads.hybridOf modelClass name).Ensures store fun outcome after =>
      post (outcome.map Wrapper.expression) ∧ ledger.Keeps start stack after := by
  unfold Reads.hybridOf
  cases declared : modelClass.attribute? name with
  | none => exact ⟨unknown, keeps⟩
  | some kind =>
    cases kind with
    | field => exact ⟨plain, keeps⟩
    | hybrid descriptor => exact hybrid descriptor declared

end Fields

section Hybrids

variable {descriptor : Descriptor}

/-- A guarded action runs with its frame on the build stack, or fails if the frame is there. -/
theorem Action.guarded_keeps {α : Type} {action : Action α} {instance? : Option InstanceId}
    {hybrid : String} (post : Except HybridError α → Prop) (keeps : ledger.Keeps start stack store)
    (cyclic : ∀ chain, store.cycle? ⟨modelClass.id, instance?, hybrid⟩ = some chain →
      post (.error (.cyclicDependency modelClass.name chain)))
    (runs : ⟨modelClass.id, instance?, hybrid⟩ ∉ stack →
      ∀ store, ledger.Keeps start (stack ++ [⟨modelClass.id, instance?, hybrid⟩]) store →
        action.Ensures store fun outcome after =>
          post outcome ∧
            ledger.Keeps start (stack ++ [⟨modelClass.id, instance?, hybrid⟩]) after) :
    (Action.guarded modelClass instance? hybrid action).Ensures store fun outcome after =>
      post outcome ∧ ledger.Keeps start stack after := by
  rw [Action.ensures_guarded]
  cases entered : store.cycle? ⟨modelClass.id, instance?, hybrid⟩ with
  | some chain => exact ⟨cyclic chain entered, keeps⟩
  | none =>
    have outside := Store.cycle?_eq_none.mp entered
    rw [keeps.building] at outside
    have pushed : ledger.Keeps start (stack ++ [⟨modelClass.id, instance?, hybrid⟩])
        { store with building := store.building ++ [⟨modelClass.id, instance?, hybrid⟩] } :=
      ⟨keeps.covers.congr rfl rfl rfl rfl rfl, by rw [keeps.building]⟩
    refine (runs outside _ pushed).mono fun outcome after ⟨expected, ended⟩ => ?_
    refine ⟨expected, ended.covers.congr rfl rfl rfl rfl rfl, ?_⟩
    dsimp only
    rw [ended.building, keeps.building, List.take_left]

/-- Calling a function runs its program once the run is counted. -/
theorem Descriptor.ensures_call {scope : Scope} {post : Except HybridError Term → Store → Prop} :
    (descriptor.call reads directory scope).Ensures store post ↔
      (descriptor.body.run reads directory scope).Ensures (store.countRun descriptor.id) post := by
  unfold Descriptor.call
  rw [Action.ensures_bind, Action.ensures_change]

/-- Reading a hybrid on an instance: `post` speaks of the outcome without its stamp. -/
theorem Descriptor.readInstance_keeps (post : Except HybridError Term → Prop)
    (keeps : ledger.Keeps start stack store)
    (cached : ∀ term, ledger.value descriptor.id key term → post (.ok term))
    (cyclic : ∀ chain, store.cycle? ⟨modelClass.id, some key, descriptor.name⟩ = some chain →
      post (.error (.cyclicDependency modelClass.name chain)))
    (runs : ⟨modelClass.id, some key, descriptor.name⟩ ∉ stack → ∀ store,
      ledger.Keeps start (stack ++ [⟨modelClass.id, some key, descriptor.name⟩]) store →
        (descriptor.body.run reads directory (.onInstance modelClass key)).Ensures store
          fun outcome after =>
            (post outcome ∧ ∀ term, outcome = .ok term → ledger.value descriptor.id key term) ∧
              ledger.Keeps start (stack ++ [⟨modelClass.id, some key, descriptor.name⟩]) after) :
    (descriptor.readInstance reads directory modelClass key).Ensures store fun outcome after =>
      post (outcome.map Stamped.content) ∧ ledger.Keeps start stack after := by
  unfold Descriptor.readInstance
  refine Action.ensures_bind.mpr (Action.ensures_look.mpr ?_)
  refine Action.ensures_bind.mpr (Action.ensures_look.mpr ?_)
  dsimp only
  cases hit : (store.cache (store.currentCache descriptor.id)).get? store.isAlive key with
  | some value =>
    have has : store.HasValue descriptor.id key value := by
      refine ⟨_, Option.ite_none_right_eq_some.mp hit |>.2⟩
    refine Action.ensures_bind.mpr (Action.ensures_report.mpr ?_)
    exact ⟨cached _ (keeps.covers.value has), keeps.congr rfl rfl rfl rfl rfl rfl⟩
  | none =>
    refine Action.guarded_keeps (fun outcome => post (outcome.map Stamped.content)) keeps cyclic
      fun outside inner innerKeeps => ?_
    unfold Descriptor.computeValue
    refine Action.ensures_bind.mpr (Descriptor.ensures_call.mpr ?_)
    have counted : ledger.Keeps start (stack ++ [⟨modelClass.id, some key, descriptor.name⟩])
        (inner.countRun descriptor.id) := innerKeeps.congr rfl rfl rfl rfl rfl rfl
    refine (runs outside _ counted).mono fun outcome after ⟨⟨expected, known⟩, ended⟩ => ?_
    cases outcome with
    | error error => exact ⟨expected, ended⟩
    | ok term =>
      refine Action.ensures_bind.mpr (Action.ensures_stamp.mpr ?_)
      refine Action.ensures_bind.mpr (Action.ensures_report.mpr (Action.ensures_ofStep.mpr ?_))
      have stamped : ledger.Keeps start (stack ++ [⟨modelClass.id, some key, descriptor.name⟩])
          (after.fresh.2.report (.evaluated modelClass.name descriptor.name term)) :=
        ended.congr rfl rfl rfl rfl rfl rfl
      obtain ⟨held, ended⟩ := stamped.keepValue descriptor.id
        ((store.generations.get? descriptor.id).getD 0) key ⟨after.next, term⟩ (known term rfl)
      exact ⟨cached _ held, ended⟩

/-- What a read gives for a live instance is cached after it, unless the hybrid was reset by then. -/
theorem Descriptor.value?_readInstance (descriptor : Descriptor) (reads : Reads)
    (directory : Directory) (modelClass : ModelClass) (key : InstanceId) (store : Store) :
    (descriptor.readInstance reads directory modelClass key).Ensures store fun outcome after =>
      ∀ value, outcome = .ok value → after.generations = store.generations →
        after.isAlive key = true → after.value? descriptor.id key = some value := by
  unfold Descriptor.readInstance
  refine Action.ensures_bind.mpr (Action.ensures_look.mpr ?_)
  refine Action.ensures_bind.mpr (Action.ensures_look.mpr ?_)
  dsimp only
  cases hit : (store.cache (store.currentCache descriptor.id)).get? store.isAlive key with
  | some held =>
    refine Action.ensures_bind.mpr (Action.ensures_report.mpr ?_)
    rintro value same - -
    rw [← Except.ok.inj same]
    exact hit
  | none =>
    rw [Action.ensures_guarded]
    cases store.cycle? ⟨modelClass.id, some key, descriptor.name⟩ with
    | some chain => exact nofun
    | none =>
      unfold Descriptor.computeValue
      refine Action.ensures_bind.mpr (.of_forall fun outcome ran => ?_)
      cases outcome with
      | error error => exact nofun
      | ok term =>
        refine Action.ensures_bind.mpr (Action.ensures_stamp.mpr ?_)
        refine Action.ensures_bind.mpr (Action.ensures_report.mpr (Action.ensures_ofStep.mpr ?_))
        intro value same generations alive
        rw [← Except.ok.inj same]
        refine Store.value?_of_keepValue rfl ?_ alive
        exact congrArg (fun counts : Table HybridId Nat =>
          CacheId.ofHybrid descriptor.id ((counts.get? descriptor.id).getD 0)) generations

/-- A cached value is read. -/
theorem Descriptor.readInstance_hit (descriptor : Descriptor) (reads : Reads)
    (directory : Directory) (modelClass : ModelClass) {value : Stamped Term}
    (cached : store.value? descriptor.id key = some value) :
    (descriptor.readInstance reads directory modelClass key).Ensures store fun outcome _ =>
      outcome = .ok value := by
  unfold Descriptor.readInstance
  refine Action.ensures_bind.mpr (Action.ensures_look.mpr ?_)
  refine Action.ensures_bind.mpr (Action.ensures_look.mpr ?_)
  have hit : (store.cache (store.currentCache descriptor.id)).get? store.isAlive key = some value :=
    cached
  rw [hit]
  exact Action.ensures_bind.mpr (Action.ensures_report.mpr rfl)

/-- Whether the attribute of that name is a hybrid. -/
def ModelClass.isHybrid (modelClass : ModelClass) (name : String) : Bool :=
  match modelClass.attribute? name with
  | some (.hybrid _) => true
  | _ => false

/-- All names are attributes, and those that are hybrids have the dependencies, in order. -/
structure ModelClass.Resolves (modelClass : ModelClass) (built : String → Wrapper → Prop)
    (names : List String) (dependencies : List (String × Wrapper)) : Prop where
  known : ∀ name ∈ names, modelClass.attribute? name ≠ none
  hybrids : dependencies.map (·.1) = names.filter modelClass.isHybrid
  built : ∀ dependency ∈ dependencies, built dependency.1 dependency.2

/-- Resolving names reads those that are hybrids, and fails at one that is no attribute. -/
theorem Reads.resolve_keeps {hybrid : String} {built : String → Wrapper → Prop}
    {error : HybridError → Prop} {names : List String}
    (siblings : ∀ name ∈ names, ∀ sibling, modelClass.attribute? name = some (.hybrid sibling) →
      ∀ store, ledger.Keeps start stack store →
        (reads.ofClass modelClass sibling).Ensures store fun outcome after =>
          Outcome (built name) error outcome ∧ ledger.Keeps start stack after)
    (unknown : ∀ name ∈ names, modelClass.attribute? name = none →
      error (.unresolvedReference hybrid name modelClass.name)) :
    ∀ store, ledger.Keeps start stack store →
      (reads.resolve modelClass hybrid names).Ensures store fun outcome after =>
        Outcome (modelClass.Resolves built names) error outcome ∧
          ledger.Keeps start stack after := by
  induction names with
  | nil =>
    intro store keeps
    exact ⟨⟨nofun, rfl, nofun⟩, keeps⟩
  | cons name rest ih =>
    intro store keeps
    have others := ih (fun other member => siblings other (List.mem_cons_of_mem _ member))
      (fun other member => unknown other (List.mem_cons_of_mem _ member))
    unfold Reads.resolve
    cases declared : modelClass.attribute? name with
    | none => exact ⟨unknown name (List.mem_cons_self ..) declared, keeps⟩
    | some kind =>
      have known : modelClass.attribute? name ≠ none := by simp [declared]
      cases kind with
      | field =>
        have plain : modelClass.isHybrid name = false := by simp [ModelClass.isHybrid, declared]
        refine Action.ensures_bind.mpr (Action.ensures_report.mpr ?_)
        have reported : ledger.Keeps start stack
            (store.report (.readsField modelClass.name hybrid name)) :=
          keeps.congr rfl rfl rfl rfl rfl rfl
        refine (others _ reported).mono fun outcome after ⟨expected, ended⟩ => ⟨?_, ended⟩
        cases outcome with
        | error cause => exact expected
        | ok dependencies =>
          exact ⟨List.forall_mem_cons.mpr ⟨known, expected.known⟩,
            by rw [expected.hybrids, List.filter_cons_of_neg (by simp [plain])], expected.built⟩
      | hybrid sibling =>
        have isHybrid : modelClass.isHybrid name = true := by simp [ModelClass.isHybrid, declared]
        refine Action.ensures_bind.mpr ?_
        refine (siblings name (List.mem_cons_self ..) sibling declared store keeps).mono
          fun outcome after ⟨expected, ended⟩ => ?_
        cases outcome with
        | error cause => exact ⟨expected, ended⟩
        | ok wrapper =>
          refine Action.ensures_bind_pure.mpr ((others after ended).mono
            fun outcome after ⟨rested, ended⟩ => ⟨?_, ended⟩)
          cases outcome with
          | error cause => exact rested
          | ok dependencies =>
            exact ⟨List.forall_mem_cons.mpr ⟨known, rested.known⟩,
              by rw [List.map_cons, rested.hybrids, List.filter_cons_of_pos isHybrid],
              List.forall_mem_cons.mpr ⟨expected, rested.built⟩⟩

/-- Building a wrapper runs the function, resolves what the registry says that the result depends
on, and keeps the wrapper unless there is one. -/
theorem Descriptor.buildWrapper_keeps (post : Except HybridError Wrapper → Prop)
    (returned : Term → Prop) (keeps : ledger.Keeps start stack store)
    (cached : ∀ wrapper, ledger.wrapper descriptor.id modelClass.id wrapper → post (.ok wrapper))
    (runs : ∀ store, ledger.Keeps start stack store →
      (descriptor.body.run reads directory (.onClass modelClass)).Ensures store
        fun outcome after =>
          Outcome returned (fun error => post (.error error)) outcome ∧
            ledger.Keeps start stack after)
    (resolves : ∀ term, returned term → ∀ wrapped,
      wrapped = (start.registry modelClass.registry).wrap term →
        ∀ store, ledger.Keeps start stack store →
          (reads.resolve modelClass descriptor.name wrapped.dependencies).Ensures store
            fun outcome after =>
              Outcome (fun dependencies => ∀ stamp, ledger.wrapper descriptor.id modelClass.id
                  (.mk stamp wrapped.toTerm descriptor.name modelClass.id modelClass.name
                    dependencies))
                (fun error => post (.error error)) outcome ∧ ledger.Keeps start stack after) :
    (descriptor.buildWrapper reads directory modelClass).Ensures store fun outcome after =>
      post outcome ∧ ledger.Keeps start stack after := by
  unfold Descriptor.buildWrapper
  have counted : ledger.Keeps start stack (store.countRun descriptor.id) :=
    keeps.congr rfl rfl rfl rfl rfl rfl
  refine Action.ensures_bind.mpr (Descriptor.ensures_call.mpr ?_)
  refine (runs _ counted).mono fun outcome ran ⟨expected, ended⟩ => ?_
  cases outcome with
  | error error => exact ⟨expected, ended⟩
  | ok term =>
    refine Action.ensures_bind.mpr (Action.ensures_ofStep.mpr ?_)
    have asked : ledger.Keeps start stack (ran.wrap modelClass.registry term).2 :=
      ended.congr rfl rfl rfl rfl rfl rfl
    have wrapped : (ran.wrap modelClass.registry term).1 =
        (start.registry modelClass.registry).wrap term := by
      rw [← ended.covers.registry]
      rfl
    refine Action.ensures_bind.mpr ?_
    refine (resolves term expected _ wrapped _ asked).mono fun outcome after ⟨resolved, ended⟩ => ?_
    cases outcome with
    | error error => exact ⟨resolved, ended⟩
    | ok dependencies =>
      refine Action.ensures_bind.mpr (Action.ensures_ofStep.mpr ?_)
      refine Action.ensures_bind.mpr (Action.ensures_report.mpr (Action.ensures_ofStep.mpr ?_))
      have reported (event : Event) : ledger.Keeps start stack (after.fresh.2.report event) :=
        ended.congr rfl rfl rfl rfl rfl rfl
      obtain ⟨held, ended⟩ := (reported _).keepWrapper (resolved after.fresh.1)
      exact ⟨cached _ held, ended⟩

/-- Reading a hybrid on a class. -/
theorem Descriptor.readClass_keeps (post : Except HybridError Wrapper → Prop)
    (keeps : ledger.Keeps start stack store)
    (cached : ∀ wrapper, ledger.wrapper descriptor.id modelClass.id wrapper → post (.ok wrapper))
    (cyclic : ∀ chain, store.cycle? ⟨modelClass.id, none, descriptor.name⟩ = some chain →
      post (.error (.cyclicDependency modelClass.name chain)))
    (builds : ⟨modelClass.id, none, descriptor.name⟩ ∉ stack → ∀ store,
      ledger.Keeps start (stack ++ [⟨modelClass.id, none, descriptor.name⟩]) store →
        (descriptor.buildWrapper reads directory modelClass).Ensures store fun outcome after =>
          post outcome ∧
            ledger.Keeps start (stack ++ [⟨modelClass.id, none, descriptor.name⟩]) after) :
    (descriptor.readClass reads directory modelClass).Ensures store fun outcome after =>
      post outcome ∧ ledger.Keeps start stack after := by
  unfold Descriptor.readClass
  refine Action.ensures_bind.mpr (Action.ensures_look.mpr ?_)
  dsimp only
  cases hit : store.wrapper? descriptor.id modelClass.id with
  | some wrapper =>
    refine Action.ensures_bind.mpr (Action.ensures_report.mpr ?_)
    exact ⟨cached wrapper (keeps.covers.wrapper hit), keeps.congr rfl rfl rfl rfl rfl rfl⟩
  | none => exact Action.guarded_keeps post keeps cyclic builds

end Hybrids

end Hybrid
