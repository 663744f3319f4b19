import Mathlib.Data.List.Dedup
import Hybrid.Proofs.Reading.Transparency
import Hybrid.Proofs.Store.Growth

/-! # Reads come to an end

Reads are defined with room for some nested reads, and fail with an error of their own where it runs
out. For composed functions it never does. A nested read is answered from a cache, or enters a hybrid
that is under evaluation already and fails, or puts a name on the build stack that was not there for
the same class and instance. So there are never more hybrids under evaluation for a class and an
instance than the hybrids of the class have names. To state this of the whole course of a read, it
is compared with one that is cut short as soon as there are more: with whatever room beyond the
number of names, the two do the same.
-/

namespace Hybrid

/-- The hybrids under evaluation for one class and one instance, or for the class itself. -/
def Frame.under (modelClass : ClassId) (instance? : Option InstanceId) (stack : List Frame) :
    List String :=
  (stack.filter fun frame => frame.modelClass = modelClass && frame.instance? = instance?).map
    (·.hybrid)

/-- The names of the hybrids of a class, whatever they are declared under. -/
def ModelClass.ownNames (modelClass : ModelClass) : List String :=
  (modelClass.hybrids.map (·.2.name)).dedup

/-- A way to run an action with a hybrid marked as under evaluation. -/
abbrev Guard : Type 1 :=
  ∀ {α : Type}, ModelClass → Option InstanceId → String → Action α → Action α

/-- As `Action.guarded`, but the action is cut short if more than `limit` hybrids are then under
evaluation for the class and instance. -/
def Action.guardedBelow (limit : Nat) : Guard := fun modelClass instance? hybrid action =>
  guarded modelClass instance? hybrid do
    let under ← look fun store => Frame.under modelClass.id instance? store.building
    if under.length ≤ limit then action else throw .exhausted

/-- As `Descriptor.readClass`, with any guard. -/
def Descriptor.readClassBy (guard : Guard) (descriptor : Descriptor) (reads : Reads)
    (directory : Directory) (modelClass : ModelClass) : Action Wrapper := do
  match ← Action.look (·.wrapper? descriptor.id modelClass.id) with
  | some wrapper =>
    Action.report (.classHit modelClass.name descriptor.name)
    return wrapper
  | none =>
    guard modelClass none descriptor.name (descriptor.buildWrapper reads directory modelClass)

/-- As `Descriptor.readInstance`, with any guard. -/
def Descriptor.readInstanceBy (guard : Guard) (descriptor : Descriptor) (reads : Reads)
    (directory : Directory) (modelClass : ModelClass) (key : InstanceId) :
    Action (Stamped Term) := do
  let cache ← Action.look (·.currentCache descriptor.id)
  match ← Action.look fun store => (store.cache cache).get? store.isAlive key with
  | some value =>
    Action.report (.instanceHit modelClass.name descriptor.name)
    return value
  | none =>
    guard modelClass (some key) descriptor.name
      (descriptor.computeValue reads directory modelClass key cache)

namespace Directory

/-- As `Directory.readsWithin`, with any guard. -/
def readsBy (directory : Directory) (guard : Guard) : (room : Nat) → Reads
  | 0 => ⟨fun _ _ => throw .exhausted, fun _ _ _ => throw .exhausted⟩
  | room + 1 =>
    { ofClass := fun modelClass descriptor =>
        descriptor.readClassBy guard (directory.readsBy guard room) directory modelClass
      ofInstance := fun modelClass key descriptor =>
        descriptor.readInstanceBy guard (directory.readsBy guard room) directory modelClass key }

/-- With the guard of `Action.guarded` these are the reads themselves. -/
theorem readsWithin_eq_readsBy (directory : Directory) (room : Nat) :
    directory.readsWithin room = directory.readsBy Action.guarded room := by
  induction room with
  | zero => rfl
  | succ room ih =>
    rw [readsWithin, ih]
    rfl

end Directory

namespace Action

/-- Started under these frames, the two actions do the same, do not run out of room, and leave the
frames as they were. -/
def Agrees {α : Type} (stack : List Frame) (cut full : Action α) : Prop :=
  ∀ store, store.building = stack →
    cut.run store = full.run store ∧
      full.Ensures store fun outcome after => outcome ≠ .error .exhausted ∧ after.building = stack

namespace Agrees

variable {α β : Type} {stack : List Frame}

theorem bind {cut full : Action α} {cutNext fullNext : α → Action β}
    (first : Agrees stack cut full)
    (next : ∀ result, Agrees stack (cutNext result) (fullNext result)) :
    Agrees stack (cut >>= cutNext) (full >>= fullNext) := by
  intro store under
  obtain ⟨same, ends, restored⟩ := first store under
  rw [run_bind, same, run_bind, ensures_bind]
  unfold Ensures
  cases outcome : (full.run store).1 with
  | error error =>
    rw [outcome] at ends
    exact ⟨rfl, fun exhausted => ends (congrArg _ (Except.error.inj exhausted)), restored⟩
  | ok result => exact next result _ restored

theorem pure (result : α) : Agrees stack (Pure.pure result) (Pure.pure result) :=
  fun _ under => ⟨rfl, nofun, under⟩

theorem throw {error : HybridError} (other : error ≠ .exhausted) :
    Agrees stack (MonadExcept.throw error : Action α) (MonadExcept.throw error) :=
  fun _ under => ⟨rfl, fun same => other (Except.error.inj same), under⟩

/-- A step that leaves the build stack alone. -/
theorem ofStep {step : Store → α × Store}
    (building : ∀ store, (step store).2.building = store.building) :
    Agrees stack (Action.ofStep step) (Action.ofStep step) :=
  fun store under => ⟨rfl, nofun, (building store).trans under⟩

theorem report (event : Event) : Agrees stack (Action.report event) (Action.report event) :=
  fun _ under => ⟨rfl, nofun, under⟩

theorem ofArithmetic (result : Except ArithmeticError α) :
    Agrees stack (Action.ofArithmetic result) (Action.ofArithmetic result) := by
  cases result with
  | ok result => exact .pure result
  | error error => exact .throw (by simp)

/-- Guarded actions agree if they do with the frame of the hybrid on the build stack, and if no more
than `limit` hybrids are under evaluation then. -/
theorem guarded {limit : Nat} {modelClass : ModelClass} {instance? : Option InstanceId}
    {hybrid : String} {cut full : Action α}
    (nested : ⟨modelClass.id, instance?, hybrid⟩ ∉ stack →
      (Frame.under modelClass.id instance?
          (stack ++ [⟨modelClass.id, instance?, hybrid⟩])).length ≤ limit ∧
        Agrees (stack ++ [⟨modelClass.id, instance?, hybrid⟩]) cut full) :
    Agrees stack (guardedBelow limit modelClass instance? hybrid cut)
      (Action.guarded modelClass instance? hybrid full) := by
  intro store under
  simp only [guardedBelow, Ensures, run_guarded]
  cases entered : store.cycle? ⟨modelClass.id, instance?, hybrid⟩ with
  | some chain => exact ⟨rfl, nofun, under⟩
  | none =>
    have outside := Store.cycle?_eq_none.mp entered
    rw [under] at outside
    obtain ⟨within, agrees⟩ := nested outside
    subst under
    obtain ⟨same, ends, restored⟩ := agrees
      { store with building := store.building ++ [⟨modelClass.id, instance?, hybrid⟩] } rfl
    -- The check passes, so that it does nothing.
    have checked : (look (fun store => Frame.under modelClass.id instance? store.building) >>=
        fun under => if under.length ≤ limit then cut else MonadExcept.throw .exhausted).run
          { store with building := store.building ++ [⟨modelClass.id, instance?, hybrid⟩] } =
        full.run
          { store with building := store.building ++ [⟨modelClass.id, instance?, hybrid⟩] } := by
      rw [run_bind, ← same]
      exact congrArg (fun action : Action α => action.run _) (if_pos within)
    refine ⟨?_, ends, ?_⟩
    · simp only [checked]
    · simp only [restored, List.take_left']

end Agrees

end Action

/-- In one scope, reading the hybrids of its class gives the same, started under these frames. -/
def Reads.AgreeIn (scope : Scope) (stack : List Frame) (cut full : Reads) : Prop :=
  ∀ name descriptor, scope.modelClass.attribute? name = some (.hybrid descriptor) →
    match scope with
    | .onClass modelClass =>
      Action.Agrees stack (cut.ofClass modelClass descriptor) (full.ofClass modelClass descriptor)
    | .onInstance modelClass key =>
      Action.Agrees stack (cut.ofInstance modelClass key descriptor)
        (full.ofInstance modelClass key descriptor)

namespace Reads.AgreeIn

variable {cut full : Reads} {stack : List Frame} {modelClass : ModelClass} {key : InstanceId}

theorem attributeOf (agree : AgreeIn (.onInstance modelClass key) stack cut full) (name : String) :
    Action.Agrees stack (cut.attributeOf modelClass key name)
      (full.attributeOf modelClass key name) := by
  simp only [Reads.attributeOf]
  cases declared : modelClass.attribute? name with
  | none => exact .throw (by simp)
  | some kind =>
    cases kind with
    | hybrid descriptor => exact agree name descriptor declared
    | field =>
      refine .bind (.ofStep fun store => (Store.quiet_readField key name).building) fun value => ?_
      cases value with
      | none => exact .throw (by simp)
      | some value => exact .bind (.ofStep fun _ => rfl) fun _ => .pure _

theorem hybridOf (agree : AgreeIn (.onClass modelClass) stack cut full) (name : String) :
    Action.Agrees stack (cut.hybridOf modelClass name) (full.hybridOf modelClass name) := by
  simp only [Reads.hybridOf]
  cases declared : modelClass.attribute? name with
  | none => exact .throw (by simp)
  | some kind =>
    cases kind with
    | hybrid descriptor => exact agree name descriptor declared
    | field => exact .throw (by simp)

variable {scope : Scope}

theorem byName (agree : AgreeIn scope stack cut full) (name : String) :
    Action.Agrees stack (cut.byName scope name) (full.byName scope name) := by
  cases scope with
  | onClass modelClass => exact .pure _
  | onInstance modelClass key => exact .bind (agree.attributeOf name) fun _ => .pure _

theorem byValue (agree : AgreeIn scope stack cut full) (name : String) :
    Action.Agrees stack (cut.byValue scope name) (full.byValue scope name) := by
  cases scope with
  | onInstance modelClass key => exact .bind (agree.attributeOf name) fun _ => .pure _
  | onClass modelClass =>
    unfold Reads.byValue
    dsimp only
    cases declared : modelClass.attribute? name with
    | none => exact .throw (by simp)
    | some kind =>
      cases kind with
      | field => exact .pure _
      | hybrid sibling => exact .bind (agree name sibling declared) fun _ => .pure _

theorem runList {directory : Directory} {arguments : List Body}
    (each : ∀ argument ∈ arguments, Action.Agrees stack (argument.run cut directory scope)
      (argument.run full directory scope)) :
    Action.Agrees stack (Body.runList cut directory scope arguments)
      (Body.runList full directory scope arguments) := by
  induction arguments with
  | nil =>
    simp only [Body.runList]
    exact .pure _
  | cons argument rest ih =>
    simp only [Body.runList]
    refine .bind (each argument (List.mem_cons_self ..)) fun _ => .bind (ih ?_) fun _ => .pure _
    exact fun other member => each other (List.mem_cons_of_mem _ member)

/-- A composed program reads in its own scope only. -/
theorem run (agree : AgreeIn scope stack cut full) (directory : Directory) {body : Body}
    (composed : Body.Composed body) :
    Action.Agrees stack (body.run cut directory scope) (body.run full directory scope) := by
  induction composed with
  | leaf basic =>
    cases basic with
    | expression expr =>
      simp only [Body.run]
      exact .pure _
    | reference name =>
      simp only [Body.run]
      exact .pure _
    | read isRead =>
      cases isRead with
      | constant value =>
        simp only [Body.run]
        exact .pure _
      | byName name =>
        simp only [Body.run]
        exact agree.byName name
      | byValue name =>
        simp only [Body.run]
        exact agree.byValue name
  | combine operator _ _ left right =>
    simp only [Body.run]
    exact .bind left fun _ => .bind right fun _ => .ofArithmetic _
  | negate _ operand =>
    simp only [Body.run]
    exact .bind operand fun _ => .ofArithmetic _
  | call name _ each =>
    simp only [Body.run]
    exact .bind (runList each) fun _ => .ofArithmetic _

variable {descriptor : Descriptor} {directory : Directory}

theorem call (agree : AgreeIn scope stack cut full) (composed : Body.Composed descriptor.body) :
    Action.Agrees stack (descriptor.call cut directory scope)
      (descriptor.call full directory scope) := by
  refine .bind (.ofStep fun _ => rfl) fun _ => ?_
  exact agree.run directory composed

theorem resolve (agree : AgreeIn (.onClass modelClass) stack cut full) (hybrid : String)
    (names : List String) :
    Action.Agrees stack (cut.resolve modelClass hybrid names)
      (full.resolve modelClass hybrid names) := by
  induction names with
  | nil => exact .pure _
  | cons name rest ih =>
    unfold Reads.resolve
    cases declared : modelClass.attribute? name with
    | none => exact .throw (by simp)
    | some kind =>
      cases kind with
      | field => exact .bind (.report _) fun _ => ih
      | hybrid sibling =>
        exact .bind (agree name sibling declared) fun _ => .bind ih fun _ => .pure _

theorem buildWrapper (agree : AgreeIn (.onClass modelClass) stack cut full)
    (composed : Body.Composed descriptor.body) :
    Action.Agrees stack (descriptor.buildWrapper cut directory modelClass)
      (descriptor.buildWrapper full directory modelClass) := by
  refine .bind (agree.call composed) fun term => ?_
  refine .bind (.ofStep fun _ => rfl) fun wrapped => ?_
  refine .bind (agree.resolve descriptor.name wrapped.dependencies) fun dependencies => ?_
  refine .bind (.ofStep fun _ => rfl) fun stamp => ?_
  refine .bind (.report _) fun _ => .ofStep fun store => ?_
  obtain ⟨wrappers, changed⟩ := store.keepWrapper_eq descriptor.id modelClass.id
    ⟨stamp, wrapped.toTerm, descriptor.name, modelClass.id, modelClass.name, dependencies⟩
  simp only [changed]

theorem computeValue (agree : AgreeIn (.onInstance modelClass key) stack cut full)
    (composed : Body.Composed descriptor.body) (cache : CacheId) :
    Action.Agrees stack (descriptor.computeValue cut directory modelClass key cache)
      (descriptor.computeValue full directory modelClass key cache) := by
  refine .bind (agree.call composed) fun term => ?_
  refine .bind (.bind (.ofStep fun _ => rfl) fun _ => .pure _) fun value => ?_
  refine .bind (.report _) fun _ => .ofStep fun store => ?_
  obtain ⟨events, changed⟩ := store.keepValue_eq cache key value
  simp only [changed]

end Reads.AgreeIn

section Stack

variable {modelClass : ModelClass} {owner : ClassId} {instance? : Option InstanceId}
variable {stack : List Frame} {own : String}

theorem Frame.mem_under :
    own ∈ Frame.under owner instance? stack ↔ ⟨owner, instance?, own⟩ ∈ stack := by
  simp only [under, List.mem_map, List.mem_filter, Bool.and_eq_true, decide_eq_true_eq]
  constructor
  · rintro ⟨frame, ⟨member, rfl, rfl⟩, rfl⟩
    exact member
  · exact fun member => ⟨_, ⟨member, rfl, rfl⟩, rfl⟩

theorem Frame.under_push :
    Frame.under owner instance? (stack ++ [⟨owner, instance?, own⟩]) =
      Frame.under owner instance? stack ++ [own] := by
  simp [under]

theorem ModelClass.mem_ownNames {name : String} {descriptor : Descriptor}
    (declared : modelClass.attribute? name = some (.hybrid descriptor)) :
    descriptor.name ∈ modelClass.ownNames := by
  rw [ownNames, List.mem_dedup, List.mem_map]
  exact ⟨_, modelClass.mem_hybrids declared, rfl⟩

/-- The hybrids under evaluation for the class and an instance are hybrids of the class, each once. -/
structure ModelClass.Admits (modelClass : ModelClass) (instance? : Option InstanceId)
    (stack : List Frame) : Prop where
  nodup : (Frame.under modelClass.id instance? stack).Nodup
  declared : Frame.under modelClass.id instance? stack ⊆ modelClass.ownNames

namespace ModelClass.Admits

theorem nil : modelClass.Admits instance? [] :=
  ⟨List.nodup_nil, List.nil_subset _⟩

theorem length_le (admits : modelClass.Admits instance? stack) :
    (Frame.under modelClass.id instance? stack).length ≤ modelClass.ownNames.length :=
  admits.nodup.length_le_of_subset admits.declared

/-- A hybrid of the class may be entered unless its name is under evaluation. -/
theorem push (admits : modelClass.Admits instance? stack) {name : String} {descriptor : Descriptor}
    (declared : modelClass.attribute? name = some (.hybrid descriptor))
    (outside : ⟨modelClass.id, instance?, descriptor.name⟩ ∉ stack) :
    modelClass.Admits instance? (stack ++ [⟨modelClass.id, instance?, descriptor.name⟩]) := by
  have absent := mt Frame.mem_under.mp outside
  constructor
  · rw [Frame.under_push]
    exact admits.nodup.append (List.nodup_singleton _) (by simpa using absent)
  · rw [Frame.under_push, List.append_subset]
    exact ⟨admits.declared, by simpa using mem_ownNames declared⟩

end ModelClass.Admits

end Stack

namespace Directory

/-- The reads that are cut short where more than `limit` hybrids are under evaluation for one class
and one instance, or for the class itself. -/
def readsBelow (directory : Directory) (limit room : Nat) : Reads :=
  directory.readsBy (Action.guardedBelow limit) room

variable {directory : Directory} {descriptor : Descriptor} {modelClass : ModelClass}
variable {limit : Nat} {stack : List Frame}

/-- Each hybrid that is entered leaves less room, and fewer names that may be entered. -/
theorem readsBelow_agree (scope : Scope) (composed : scope.modelClass.IsComposedOf Body.IsBasic)
    (admits : scope.modelClass.Admits scope.instance? stack) {less more : Nat}
    (fewer : scope.modelClass.ownNames.length <
      less + (Frame.under scope.modelClass.id scope.instance? stack).length)
    (ample : scope.modelClass.ownNames.length <
      more + (Frame.under scope.modelClass.id scope.instance? stack).length) :
    Reads.AgreeIn scope stack (directory.readsBelow scope.modelClass.ownNames.length less)
      (directory.readsWithin more) := by
  induction less generalizing more stack with
  | zero =>
    have most := admits.length_le
    omega
  | succ less ih =>
    have most := admits.length_le
    obtain ⟨more, rfl⟩ : ∃ room, more = room + 1 := ⟨more - 1, by omega⟩
    intro name descriptor declared
    have basic := composed name descriptor declared
    have nested (outside : ⟨scope.modelClass.id, scope.instance?, descriptor.name⟩ ∉ stack) :
        (Frame.under scope.modelClass.id scope.instance?
            (stack ++ [⟨scope.modelClass.id, scope.instance?, descriptor.name⟩])).length ≤
          scope.modelClass.ownNames.length ∧
        Reads.AgreeIn scope
          (stack ++ [⟨scope.modelClass.id, scope.instance?, descriptor.name⟩])
          (directory.readsBelow scope.modelClass.ownNames.length less)
          (directory.readsWithin more) := by
      have entered := admits.push declared outside
      refine ⟨entered.length_le, ih entered ?_ ?_⟩ <;>
        simp only [Frame.under_push, List.length_append, List.length_singleton] <;> omega
    cases scope with
    | onClass modelClass =>
      refine .bind (.ofStep fun _ => rfl) fun cached => ?_
      cases cached with
      | some wrapper => exact .bind (.report _) fun _ => .pure _
      | none =>
        refine .guarded fun outside => ?_
        exact (nested outside).imp_right fun agree => agree.buildWrapper basic
    | onInstance modelClass key =>
      refine .bind (.ofStep fun _ => rfl) fun cache => .bind (.ofStep fun _ => rfl) fun held => ?_
      cases held with
      | some value => exact .bind (.report _) fun _ => .pure _
      | none =>
        refine .guarded fun outside => ?_
        exact (nested outside).imp_right fun agree => agree.computeValue basic cache

end Directory

/-- There is room for all names of the hybrids of the class that a read starts from. -/
theorem ModelClass.length_ownNames_lt_room (modelClass : ModelClass) (directory : Directory) :
    modelClass.ownNames.length < directory.room modelClass := by
  have fewer := (List.dedup_sublist (modelClass.hybrids.map (·.2.name))).length_le
  rw [List.length_map] at fewer
  exact Nat.lt_of_le_of_lt fewer (directory.length_hybrids_lt_room modelClass)

/-- From `store` on, a read comes to an end: it does not run out of room, it is the same with that
much room, and the same if it is cut short as soon as more than `limit` hybrids are under evaluation
for one class and one instance. -/
structure Directory.Ends {α : Type} (directory : Directory) (limit room : Nat)
    (read : Reads → Action α) (full : Action α) (store : Store) : Prop where
  bounded : (read (directory.readsBelow limit room)).run store = full.run store
  same : (read (directory.readsWithin room)).run store = full.run store
  finished : (full.run store).1 ≠ .error .exhausted

/-- A read ends if it agrees with the one that is cut short, in its own room and in any other. -/
theorem Directory.Ends.ofAgrees {α : Type} {directory : Directory} {limit room : Nat}
    {read : Reads → Action α} {full : Action α} {store : Store}
    (own : Action.Agrees store.building (read (directory.readsBelow limit room)) full)
    (other : Action.Agrees store.building (read (directory.readsBelow limit room))
      (read (directory.readsWithin room))) :
    directory.Ends limit room read full store := by
  obtain ⟨bounded, finished, -⟩ := own store rfl
  exact ⟨bounded, (other store rfl).1.symm.trans bounded, finished⟩

/-- Reading an attribute of a class of composed functions ends, on the class and on any instance,
whatever is cached and however the functions refer to each other, with at no time more hybrids under
evaluation for the class and the instance than there are names of hybrids of the class. -/
theorem ModelClass.reads_end {modelClass : ModelClass}
    (composed : modelClass.IsComposedOf Body.IsBasic) (directory : Directory) (store : Store)
    (admits : ∀ instance?, modelClass.Admits instance? store.building) {room : Nat}
    (ample : modelClass.ownNames.length < room) (name : String) :
    directory.Ends modelClass.ownNames.length room (fun reads => reads.hybridOf modelClass name)
        (modelClass.get directory name) store ∧
      ∀ key, directory.Ends modelClass.ownNames.length room
        (fun reads => reads.attributeOf modelClass key name)
        (modelClass.getFor directory key name) store := by
  have enough := modelClass.length_ownNames_lt_room directory
  have onClass {more : Nat} (fits : modelClass.ownNames.length < more) :
      Reads.AgreeIn (.onClass modelClass) store.building
        (directory.readsBelow modelClass.ownNames.length room) (directory.readsWithin more) :=
    Directory.readsBelow_agree (.onClass modelClass) composed (admits none) (Nat.lt_add_right _ ample)
      (Nat.lt_add_right _ fits)
  have onInstance (key : InstanceId) {more : Nat} (fits : modelClass.ownNames.length < more) :
      Reads.AgreeIn (.onInstance modelClass key) store.building
        (directory.readsBelow modelClass.ownNames.length room) (directory.readsWithin more) :=
    Directory.readsBelow_agree (.onInstance modelClass key) composed (admits (some key))
      (Nat.lt_add_right _ ample) (Nat.lt_add_right _ fits)
  constructor
  · exact .ofAgrees ((onClass enough).hybridOf name) ((onClass ample).hybridOf name)
  · intro key
    exact .ofAgrees ((onInstance key enough).attributeOf name)
      ((onInstance key ample).attributeOf name)

end Hybrid

namespace Hybrid.Circle

/-- The net price by value and by name. -/
def gross : Descriptor :=
  ⟨⟨1⟩, "gross", .combine .add (.byName "after") (.byValue "after")⟩

/-- The gross price by value, and itself by name. -/
def net : Descriptor :=
  ⟨⟨2⟩, "net", .combine .sub (.byValue "before") (.byName "after")⟩

/-- The two hybrids refer to each other by the names that they are declared under. -/
def price : ModelClass where
  id := ⟨1⟩
  name := "Price"
  attributes := [("before", .hybrid gross), ("after", .hybrid net)]
  registry := Store.sharedRegistry

def directory : Directory := ⟨.empty, .empty, .empty⟩

private theorem hybrids_price : price.hybrids = [("before", gross), ("after", net)] := rfl

private theorem composed : price.IsComposedOf Body.IsBasic := by
  have byName {name : String} : Body.Composed (.byName name) := .leaf (.read (.byName name))
  have byValue {name : String} : Body.Composed (.byValue name) := .leaf (.read (.byValue name))
  apply ModelClass.IsComposedOf.ofHybrids
  simp only [hybrids_price, List.forall_mem_cons, List.not_mem_nil, IsEmpty.forall_iff,
    implies_true, and_true]
  exact ⟨.combine .add byName byValue, .combine .sub byValue byName⟩

private theorem length_ownNames : price.ownNames.length = 2 := by decide

/-- The read ends where the gross price is entered again. -/
example : ((price.get directory "before").run .initial).1 =
    .error (.cyclicDependency "Price" ["gross", "net", "gross"]) := by
  cbv

/-- The gross price is read with at most both hybrids under evaluation. -/
theorem reads_end_price :
    price.ownNames.length = 2 ∧
      (directory.Ends 2 3 (fun reads => reads.hybridOf price "before")
          (price.get directory "before") .initial ∧
        ∀ key, directory.Ends 2 3 (fun reads => reads.attributeOf price key "before")
          (price.getFor directory key "before") .initial) := by
  refine ⟨length_ownNames, ?_⟩
  have ends := price.reads_end composed directory .initial (fun _ => .nil)
    (length_ownNames.trans_lt (by decide : 2 < 3)) "before"
  rwa [length_ownNames] at ends

end Hybrid.Circle
