import Hybrid.Proofs.Reading.Mentions
import Hybrid.Proofs.Reading.Stability

/-! # The hybrids that a read leads to

A function that stays in its scope reads attributes of that scope only, and on a class it also
refers to some. So a read leads along these names, and on a class along those that the registry
lists. An expression that is read by value brings names along that the function does not hold
itself; but these are names that the hybrid which was read leads to. This is known of every wrapper
that was cached, however long ago, so it does not matter which hybrids a read finds cached.
-/

namespace Hybrid

open Relation

namespace Body

/-- A leaf that resets nothing and uses no other class or instance than those of its scope. -/
def IsLocal : Body → Prop
  | .reset _ | .ofClass _ _ | .ofInstance _ _ _ => False
  | _ => True

/-- A program whose leaves are local on either side. -/
def StaysInScope (body : Body) : Prop :=
  ∀ scope, ∀ leaf ∈ body.leaves scope, leaf.IsLocal

/-- What is composed of reads of the scope, constants and operations on terms stays in its scope. -/
theorem ComposedOf.staysInScope {body : Body} (composed : Composed body) : body.StaysInScope := by
  intro scope leaf member
  cases composed.of_leaf (fun _ basic => basic) member with
  | read isRead => cases isRead <;> trivial
  | expression expr => trivial
  | reference name => trivial

end Body

namespace Scope

/-- The names of attributes that a leaf reads or refers to in a scope. -/
def touches : Scope → Body → List String
  | .onClass _, leaf => leaf.mentions
  | .onInstance _ _, .byName name => [name]
  | .onInstance _ _, .byValue name => [name]
  | .onInstance _ _, _ => []

/-- The function of the first hybrid reads the second in the scope or refers to it, or the second
has one of the names that are listed for every hybrid. -/
def Needs (scope : Scope) (listed : List String) (descriptor sibling : Descriptor) : Prop :=
  ∃ name, scope.modelClass.attribute? name = some (.hybrid sibling) ∧
    ((∃ leaf ∈ descriptor.body.leaves scope, name ∈ scope.touches leaf) ∨ name ∈ listed)

/-- The attribute of that name leads to the hybrid in the scope. -/
def Reaches (scope : Scope) (listed : List String) (name : String) (hybrid : HybridId) : Prop :=
  ∃ first last, scope.modelClass.attribute? name = some (.hybrid first) ∧
    ReflTransGen (scope.Needs listed) first last ∧ last.id = hybrid

variable {scope : Scope} {listed : List String} {descriptor sibling : Descriptor}

theorem Needs.mono (needs : scope.Needs [] descriptor sibling) :
    scope.Needs listed descriptor sibling := by
  obtain ⟨name, declared, ⟨leaf, member, touched⟩ | none⟩ := needs
  · exact ⟨name, declared, .inl ⟨leaf, member, touched⟩⟩
  · cases none

end Scope

/-- A local leaf reads in its own scope what it touches. -/
theorem Body.IsLocal.target? {directory : Directory} {scope : Scope} {leaf : Body}
    {reading : Reading} (isLocal : leaf.IsLocal)
    (aims : directory.target? scope leaf = some reading) :
    reading.scope = scope ∧ reading.name ∈ scope.touches leaf := by
  cases leaf with
  | byName name =>
    cases scope with
    | onClass modelClass => cases aims
    | onInstance modelClass key =>
      obtain rfl := Option.some.inj aims
      exact ⟨rfl, List.mem_singleton_self name⟩
  | byValue name =>
    obtain rfl := Option.some.inj aims
    cases scope <;> exact ⟨rfl, List.mem_singleton_self name⟩
  | reset _ | ofClass _ _ | ofInstance _ _ _ => exact isLocal.elim
  | _ => cases aims

/-- The hybrids that the term refers to on the class are reached from the one that gave it. -/
def ModelClass.Traces (modelClass : ModelClass) (descriptor : Descriptor) (term : Term) : Prop :=
  ∀ name ∈ term.occurrences, ∀ sibling, modelClass.attribute? name = some (.hybrid sibling) →
    TransGen ((Scope.onClass modelClass).Needs []) descriptor sibling

namespace ModelClass

variable {modelClass : ModelClass} {descriptor sibling : Descriptor} {leaf : Body} {term : Term}

theorem Traces.native (value : Value) : modelClass.Traces descriptor (.native value) := nofun

theorem Traces.of_mentions (member : leaf ∈ descriptor.body.leaves (.onClass modelClass))
    (mentioned : ∀ name ∈ term.occurrences, name ∈ leaf.mentions) :
    modelClass.Traces descriptor term :=
  fun name occurs _ declared => .single ⟨name, declared, .inl ⟨leaf, member, mentioned name occurs⟩⟩

/-- What a sibling traces, a hybrid that reads it by value traces. -/
theorem Traces.byValue {name : String} (traces : modelClass.Traces sibling term)
    (declared : modelClass.attribute? name = some (.hybrid sibling))
    (member : .byValue name ∈ descriptor.body.leaves (.onClass modelClass)) :
    modelClass.Traces descriptor term := by
  intro other occurs last found
  have needs : (Scope.onClass modelClass).Needs [] descriptor sibling :=
    ⟨name, declared, .inl ⟨_, member, List.mem_singleton_self name⟩⟩
  exact .head needs (traces other occurs last found)

end ModelClass

namespace Setting

variable {setting : Setting} {modelClass : ModelClass} {reached : Descriptor → Prop}
variable {before store : Store} {descriptor : Descriptor}

/-- No function of the family leaves its scope. -/
def StaysInScope (setting : Setting) : Prop :=
  ∀ descriptor : Descriptor, descriptor.In setting.family → descriptor.body.StaysInScope

theorem StaysInScope.resetFree (stays : setting.StaysInScope) : setting.ResetFree :=
  fun scope descriptor _ playing member => stays descriptor playing.2 scope _ member

/-- What the cached wrappers of the family refer to is reached from their hybrids. -/
def Traced (setting : Setting) (store : Store) : Prop :=
  ∀ modelClass descriptor wrapper, setting.Plays (.onClass modelClass) descriptor →
    store.wrapper? descriptor.id modelClass.id = some wrapper →
      modelClass.Traces descriptor wrapper.expression

theorem traced_start (setting : Setting) : setting.Traced setting.start := by
  intro modelClass descriptor wrapper playing cached
  rw [setting.blank.wrapper playing.2] at cached
  cases cached

/-- A wrapper of the family was cached before, or it is one of the class for a hybrid that is
reached. Either way it is known what it refers to. -/
def footprint (setting : Setting) (modelClass : ModelClass) (reached : Descriptor → Prop)
    (before : Store) : Ledger :=
  .ofFamily setting.family
    (fun descriptor owner wrapper =>
      (before.wrapper? descriptor.id owner = some wrapper ∨
        owner = modelClass.id ∧ reached descriptor) ∧
      ∀ other, setting.family other → other.id = owner →
        other.Traces descriptor wrapper.expression)
    (fun _ _ _ => True) fun _ => True

theorem Traced.keeps (traced : setting.Traced before) :
    (setting.footprint modelClass reached before).Keeps before before.building before where
  covers := {
    wrapper := by
      rintro hybrid owner wrapper cached descriptor known rfl
      refine ⟨.inl cached, ?_⟩
      rintro other family rfl
      exact traced other descriptor wrapper ⟨family, known⟩ cached
    value := fun _ _ _ _ => trivial
    resets := trivial
    registries := rfl
    record := id }
  building := rfl

section Reads

variable {reads : Reads} {stack : List Frame}

/-- The expression of a wrapper that is given is traced. -/
abbrev Traceable (modelClass : ModelClass) (descriptor : Descriptor)
    (outcome : Except HybridError Wrapper) : Prop :=
  Outcome (fun wrapper => modelClass.Traces descriptor wrapper.expression) (fun _ => True) outcome

/-- Reads on the class of hybrids that are reached leave the footprint, and what they give is
traced. -/
def ReadsTrace (setting : Setting) (modelClass : ModelClass) (reached : Descriptor → Prop)
    (before : Store) (reads : Reads) : Prop :=
  ∀ descriptor, descriptor.In setting.family → reached descriptor → ∀ stack store,
    (setting.footprint modelClass reached before).Keeps before stack store →
      (reads.ofClass modelClass descriptor).Ensures store fun outcome after =>
        Traceable modelClass descriptor outcome ∧
          (setting.footprint modelClass reached before).Keeps before stack after

variable (family : setting.family modelClass) (known : descriptor.In setting.family)

include family known in
theorem footprint_wrapper (wrapper : Wrapper) :
    (setting.footprint modelClass reached before).wrapper descriptor.id modelClass.id wrapper ↔
      (before.wrapper? descriptor.id modelClass.id = some wrapper ∨ reached descriptor) ∧
        modelClass.Traces descriptor wrapper.expression := by
  refine (Ledger.ofFamily_wrapper setting.descriptors known).trans ?_
  constructor
  · rintro ⟨origin, traces⟩
    exact ⟨origin.imp_right And.right, traces modelClass family rfl⟩
  · rintro ⟨origin, traces⟩
    refine ⟨origin.imp_right fun reached => ⟨rfl, reached⟩, fun other familyOther same => ?_⟩
    obtain rfl := setting.classes other modelClass familyOther family same
    exact traces

variable (trace : setting.ReadsTrace modelClass reached before reads) (isReached : reached descriptor)
variable (closed : ∀ first second, reached first →
  (Scope.onClass modelClass).Needs (before.registry modelClass.registry).listed first second →
    reached second)

include closed in
/-- Whatever a term that a reached hybrid traces depends on is reached. -/
theorem reached_of_dependency {term : Term} {name : String} {sibling : Descriptor}
    (isReached : reached descriptor) (traces : modelClass.Traces descriptor term)
    (depends : name ∈ ((before.registry modelClass.registry).wrap term).dependencies)
    (declared : modelClass.attribute? name = some (.hybrid sibling)) : reached sibling := by
  rcases Registry.dependencies_wrap depends with occurs | listed
  · have path := traces name occurs sibling declared
    clear depends declared
    induction path with
    | single needs => exact closed _ _ isReached needs.mono
    | tail _ needs ih => exact closed _ _ ih needs.mono
  · exact closed _ _ isReached ⟨name, declared, .inr listed⟩

include family trace isReached closed in
/-- A local leaf gives a term that its hybrid traces. -/
theorem ReadsTrace.leaf {leaf : Body}
    (member : leaf ∈ descriptor.body.leaves (.onClass modelClass)) (isLocal : leaf.IsLocal)
    (isLeaf : leaf.IsLeaf)
    (keeps : (setting.footprint modelClass reached before).Keeps before stack store) :
    (leaf.run reads setting.directory (.onClass modelClass)).Ensures store
      (Body.Keeps ((setting.footprint modelClass reached before).Keeps before stack)
        (modelClass.Traces descriptor) fun _ => True) := by
  cases leaf with
  | expression expr =>
    rw [Body.run]
    exact ⟨.of_mentions member fun _ => id, keeps⟩
  | reference name =>
    rw [Body.run]
    exact ⟨.of_mentions member fun _ => id, keeps⟩
  | byName name =>
    rw [Body.run]
    exact ⟨.of_mentions member fun _ => id, keeps⟩
  | byValue name =>
    rw [Body.run]
    unfold Reads.byValue
    dsimp only
    cases declared : modelClass.attribute? name with
    | none => exact ⟨trivial, keeps⟩
    | some kind =>
      cases kind with
      | field => exact ⟨.of_mentions member fun _ => id, keeps⟩
      | hybrid sibling =>
        have siblingReached := closed _ _ isReached
          ⟨name, declared, .inl ⟨_, member, List.mem_singleton_self name⟩⟩
        have siblingKnown := Descriptor.in_of_attribute? family declared
        refine Action.ensures_bind_pure.mpr ((trace sibling siblingKnown siblingReached stack store
          keeps).mono fun outcome after ⟨read, ended⟩ => ⟨?_, ended⟩)
        cases outcome with
        | ok wrapper => exact ModelClass.Traces.byValue read declared member
        | error error => trivial
  | constant value =>
    rw [Body.run]
    exact ⟨.native value, keeps⟩
  | fail error =>
    rw [Body.run]
    exact ⟨trivial, keeps⟩
  | count counter =>
    rw [Body.run]
    exact ⟨.native _, keeps.congr rfl rfl rfl rfl rfl rfl⟩
  | isInstance =>
    rw [Body.run]
    exact ⟨.native _, keeps⟩
  | className =>
    rw [Body.run]
    exact ⟨.native _, keeps⟩
  | describeScope =>
    rw [Body.run]
    exact ⟨.native _, keeps⟩
  | reset _ | ofClass _ _ | ofInstance _ _ _ => exact isLocal.elim
  | _ => exact isLeaf.elim

include family known trace isReached closed in
/-- Building the wrapper of a reached hybrid leaves the footprint. -/
theorem ReadsTrace.buildWrapper (stays : descriptor.body.StaysInScope)
    (keeps : (setting.footprint modelClass reached before).Keeps before stack store) :
    (descriptor.buildWrapper reads setting.directory modelClass).Ensures store fun outcome after =>
      Traceable modelClass descriptor outcome ∧
        (setting.footprint modelClass reached before).Keeps before stack after := by
  refine Descriptor.buildWrapper_keeps (Traceable modelClass descriptor)
    (modelClass.Traces descriptor) keeps ?cached ?runs ?resolves
  case cached => exact fun wrapper held => ((footprint_wrapper family known wrapper).mp held).2
  case runs =>
    intro store keeps
    exact Body.run_keeps (Term.closed_occurrences _) (fun _ => trivial) descriptor.body
      (fun leaf member isLeaf _ keeps =>
        trace.leaf family isReached closed member (stays _ _ member) isLeaf keeps) store keeps
  case resolves =>
    rintro term traces _ rfl store keeps
    have siblings : ∀ name ∈ ((before.registry modelClass.registry).wrap term).dependencies,
        ∀ sibling, modelClass.attribute? name = some (.hybrid sibling) →
          ∀ store, (setting.footprint modelClass reached before).Keeps before stack store →
            (reads.ofClass modelClass sibling).Ensures store fun outcome after =>
              Outcome (fun _ => True) (fun _ => True) outcome ∧
                (setting.footprint modelClass reached before).Keeps before stack after := by
      intro name depends sibling declared store keeps
      have siblingReached := reached_of_dependency closed isReached traces depends declared
      refine (trace sibling (Descriptor.in_of_attribute? family declared) siblingReached stack store
        keeps).mono fun outcome after ⟨_, ended⟩ => ⟨?_, ended⟩
      cases outcome <;> trivial
    refine (Reads.resolve_keeps siblings (fun _ _ _ => trivial) store keeps).mono
      fun outcome after ⟨_, ended⟩ => ⟨?_, ended⟩
    cases outcome with
    | error error => trivial
    | ok dependencies =>
      refine fun stamp => (footprint_wrapper family known _).mpr ⟨.inr isReached, ?_⟩
      unfold ModelClass.Traces Wrapper.expression
      rw [Registry.occurrences_wrap]
      exact traces

end Reads

/-- Reads of reached hybrids on a class leave the footprint, however many may be nested. -/
theorem StaysInScope.readsTrace (stays : setting.StaysInScope) (family : setting.family modelClass)
    (closed : ∀ first second, reached first →
      (Scope.onClass modelClass).Needs (before.registry modelClass.registry).listed first second →
        reached second) (room : Nat) :
    setting.ReadsTrace modelClass reached before (setting.directory.readsWithin room) := by
  induction room with
  | zero => exact fun _ _ _ _ _ keeps => ⟨trivial, keeps⟩
  | succ room trace =>
    intro descriptor known isReached stack store keeps
    refine Descriptor.readClass_keeps (Traceable modelClass descriptor) keeps ?_
      (fun _ _ => trivial) fun _ store keeps => ?_
    · exact fun wrapper held => ((footprint_wrapper family known wrapper).mp held).2
    · exact trace.buildWrapper family known isReached closed (stays descriptor known) keeps

end Setting

end Hybrid
