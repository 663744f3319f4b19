import Hybrid.Proofs.Reading.Graph
import Hybrid.Proofs.Reading.Rules

/-! # Errors of a cycle have a cause in the graph

Every hybrid on the build stack is needed by the reading that began, and needs the one under way. A
frame tells hybrids apart by their own names. So a frame that is entered again is either a hybrid
that needs itself, or stands for two hybrids of one name in one scope of which one needs the other.
-/

namespace Hybrid

open Relation

/-- The frame of the hybrid that is read. -/
def Reading.frame (reading : Reading) (descriptor : Descriptor) : Frame :=
  ⟨reading.scope.modelClass.id, reading.scope.instance?, descriptor.name⟩

namespace Setting

variable {setting : Setting} {root reading other : Reading} {descriptor : Descriptor}

/-- An error of a cycle has one of three causes; other errors need none. -/
def Blames (setting : Setting) (root : Reading) (error : HybridError) : Prop :=
  ∀ className chain, error = .cyclicDependency className chain →
    setting.Cyclic root ∨ setting.Clash root ∨ setting.Raises root

theorem Blames.arithmetic (cause : ArithmeticError) :
    setting.Blames root (.arithmetic cause) := nofun

section Stack

/-- The frame of a hybrid that the first reading needs and that needs the second. -/
def Encloses (setting : Setting) (root reading : Reading) (frame : Frame) : Prop :=
  ∃ outer descriptor, outer.hybrid? = some descriptor ∧ setting.family outer.scope.modelClass ∧
    ReflTransGen setting.Needs root outer ∧ TransGen setting.Needs outer reading ∧
      frame = outer.frame descriptor

/-- The build stack of a reading and what the reading may be nested in. -/
structure Nested (setting : Setting) (root reading : Reading) (stack : List Frame) : Prop where
  family : setting.family reading.scope.modelClass
  reached : ReflTransGen setting.Needs root reading
  encloses : ∀ frame ∈ stack, setting.Encloses root reading frame

theorem Nested.outermost (family : setting.family root.scope.modelClass) :
    setting.Nested root root [] :=
  ⟨family, .refl, nofun⟩

/-- A hybrid under evaluation encloses what it needs. -/
theorem Nested.push {stack : List Frame} (nested : setting.Nested root reading stack)
    (hybrid : reading.hybrid? = some descriptor) (needs : setting.Needs reading other)
    (family : setting.family other.scope.modelClass) :
    setting.Nested root other (stack ++ [reading.frame descriptor]) where
  family
  reached := nested.reached.tail needs
  encloses frame member := by
    rcases List.mem_append.mp member with member | member
    · obtain ⟨outer, found, hybrid, inFamily, reached, needed, same⟩ := nested.encloses frame member
      exact ⟨outer, found, hybrid, inFamily, reached, needed.tail needs, same⟩
    · obtain rfl := List.mem_singleton.mp member
      exact ⟨reading, descriptor, hybrid, nested.family, nested.reached, .single needs, rfl⟩

private theorem scope_eq {first second : Scope} (sameClass : first.modelClass = second.modelClass)
    (sameInstance : first.instance? = second.instance?) : first = second := by
  cases first with
  | onClass modelClass =>
    cases second with
    | onClass other => exact congrArg Scope.onClass sameClass
    | onInstance other key => cases sameInstance
  | onInstance modelClass key =>
    cases second with
    | onClass other => cases sameInstance
    | onInstance other key' =>
      obtain rfl : modelClass = other := sameClass
      rw [Option.some.inj sameInstance]

/-- A frame that is entered again belongs to a cycle or to a clash. -/
theorem Nested.entered {stack : List Frame} (nested : setting.Nested root reading stack)
    (hybrid : reading.hybrid? = some descriptor)
    (member : reading.frame descriptor ∈ stack) :
    setting.Cyclic root ∨ setting.Clash root := by
  obtain ⟨outer, found, outerHybrid, family, reached, needed, same⟩ := nested.encloses _ member
  obtain ⟨sameId, sameInstance, sameName⟩ := Frame.mk.inj same
  have scope : outer.scope = reading.scope :=
    scope_eq (setting.classes _ _ family nested.family sameId.symm) sameInstance.symm
  by_cases again : found = descriptor
  · -- The hybrid under way needs what the outer one needs, and so itself.
    subst again
    obtain ⟨next, needs, rest⟩ := TransGen.head'_iff.mp needed
    have needsNext : setting.Needs reading next :=
      needs.congr scope (outerHybrid.trans hybrid.symm)
    exact .inl ⟨reading, nested.reached, TransGen.head'_iff.mpr ⟨next, needsNext, rest⟩⟩
  · exact .inr ⟨outer, reading, found, descriptor, reached, needed, scope, outerHybrid, hybrid,
      again, sameName.symm⟩

end Stack

/-- A term that only refers to names which the reading may give. -/
def Names (setting : Setting) (reading : Reading) (term : Term) : Prop :=
  ∀ name ∈ term.occurrences, setting.MayName reading name

theorem Names.native (value : Value) : setting.Names reading (.native value) := nofun

theorem names_closed (setting : Setting) (reading : Reading) :
    Term.Closed (setting.Names reading) :=
  Term.closed_occurrences _

/-- What is cached only refers to names that the readings which find it may give. -/
def ledger (setting : Setting) : Ledger :=
  .ofFamily setting.family
    (fun descriptor owner wrapper => ∀ reading modelClass, reading.scope = .onClass modelClass →
      modelClass.id = owner → setting.family modelClass → reading.hybrid? = some descriptor →
        setting.Names reading wrapper.expression)
    (fun descriptor key term => ∀ reading, reading.scope.instance? = some key →
      reading.hybrid? = some descriptor → setting.Names reading term)
    fun _ => True

section Reads

variable {stack : List Frame} {reads : Reads} {store : Store}

/-- What reads of hybrids give and leave behind, wherever they are nested. -/
structure Reliable (setting : Setting) (root : Reading) (reads : Reads) : Prop where
  ofClass {modelClass : ModelClass} {name : String} {descriptor : Descriptor} {stack : List Frame} :
    setting.Nested root ⟨.onClass modelClass, name⟩ stack →
      modelClass.attribute? name = some (.hybrid descriptor) →
        ∀ store, setting.ledger.Keeps setting.start stack store →
          (reads.ofClass modelClass descriptor).Ensures store fun outcome after =>
            Outcome (setting.Names ⟨.onClass modelClass, name⟩) (setting.Blames root)
                (outcome.map Wrapper.expression) ∧
              setting.ledger.Keeps setting.start stack after
  ofInstance {modelClass : ModelClass} {key : InstanceId} {name : String} {descriptor : Descriptor}
    {stack : List Frame} : setting.Nested root ⟨.onInstance modelClass key, name⟩ stack →
      modelClass.attribute? name = some (.hybrid descriptor) →
        ∀ store, setting.ledger.Keeps setting.start stack store →
          (reads.ofInstance modelClass key descriptor).Ensures store fun outcome after =>
            Outcome (setting.Names ⟨.onInstance modelClass key, name⟩) (setting.Blames root)
                (outcome.map Stamped.content) ∧
              setting.ledger.Keeps setting.start stack after

section Function

variable (reliable : setting.Reliable root reads) (nested : setting.Nested root reading stack)
variable (hybrid : reading.hybrid? = some descriptor)
variable (keeps : setting.ledger.Keeps setting.start (stack ++ [reading.frame descriptor]) store)

/-- What a reading gives is what the hybrid that makes it may give. -/
private theorem names_of_read {outcome : Except HybridError Term}
    (reads : setting.MayRead reading other)
    (expected : Outcome (setting.Names other) (setting.Blames root) outcome) :
    Outcome (setting.Names reading) (setting.Blames root) outcome := by
  cases outcome with
  | ok term => exact fun name occurs => .read reads (expected name occurs)
  | error cause => exact expected

include reliable nested hybrid keeps in
private theorem attributeOf_sound {modelClass : ModelClass} {key : InstanceId} {name : String}
    (mayRead : setting.MayRead reading ⟨.onInstance modelClass key, name⟩)
    (family : setting.family modelClass) :
    (reads.attributeOf modelClass key name).Ensures store fun outcome after =>
      Outcome (setting.Names reading) (setting.Blames root) (outcome.map Stamped.content) ∧
        setting.ledger.Keeps setting.start (stack ++ [reading.frame descriptor]) after := by
  refine Reads.attributeOf_keeps _ keeps .native nofun nofun fun sibling declared => ?_
  exact (reliable.ofInstance (nested.push hybrid (.read mayRead) family) declared store keeps).mono
    fun outcome after ⟨expected, ended⟩ => ⟨names_of_read mayRead expected, ended⟩

include reliable nested hybrid keeps in
private theorem ofClass_sound {modelClass : ModelClass} {name : String} {sibling : Descriptor}
    (mayRead : setting.MayRead reading ⟨.onClass modelClass, name⟩)
    (family : setting.family modelClass)
    (declared : modelClass.attribute? name = some (.hybrid sibling)) :
    (reads.ofClass modelClass sibling).Ensures store fun outcome after =>
      Outcome (setting.Names reading) (setting.Blames root) (outcome.map Wrapper.expression) ∧
        setting.ledger.Keeps setting.start (stack ++ [reading.frame descriptor]) after := by
  exact (reliable.ofClass (nested.push hybrid (.read mayRead) family) declared store keeps).mono
    fun outcome after ⟨expected, ended⟩ => ⟨names_of_read mayRead expected, ended⟩

include reliable nested hybrid keeps in
private theorem hybridOf_sound {modelClass : ModelClass} {name : String}
    (mayRead : setting.MayRead reading ⟨.onClass modelClass, name⟩)
    (family : setting.family modelClass) :
    (reads.hybridOf modelClass name).Ensures store fun outcome after =>
      Outcome (setting.Names reading) (setting.Blames root) (outcome.map Wrapper.expression) ∧
        setting.ledger.Keeps setting.start (stack ++ [reading.frame descriptor]) after := by
  exact Reads.hybridOf_keeps _ keeps nofun nofun fun sibling declared =>
    ofClass_sound reliable nested hybrid keeps mayRead family declared

include reliable nested hybrid keeps in
/-- A leaf of the function of a hybrid gives names that the hybrid may give. -/
private theorem leaf_sound {leaf : Body}
    (member : leaf ∈ descriptor.body.leaves reading.scope) (isLeaf : leaf.IsLeaf) :
    (leaf.run reads setting.directory reading.scope).Ensures store
      (Body.Keeps (setting.ledger.Keeps setting.start (stack ++ [reading.frame descriptor]))
        (setting.Names reading) (setting.Blames root)) := by
  have mayRead {target : Reading}
      (aims : setting.directory.target? reading.scope leaf = some target) :
      setting.MayRead reading target := ⟨descriptor, hybrid, leaf, member, aims⟩
  have written {name : String} (written : name ∈ reading.scope.written leaf) :
      setting.MayName reading name := .written hybrid member written
  obtain ⟨scope, name⟩ := reading
  cases leaf with
  | constant value =>
    rw [Body.run]
    exact ⟨.native value, keeps⟩
  | expression expr =>
    rw [Body.run]
    exact ⟨fun other occurs => written occurs, keeps⟩
  | reference other =>
    rw [Body.run]
    exact ⟨fun other occurs => written occurs, keeps⟩
  | byName other =>
    rw [Body.run]
    cases scope with
    | onClass modelClass => exact ⟨fun other occurs => written occurs, keeps⟩
    | onInstance modelClass key =>
      exact Action.ensures_bind_pure.mpr
        (attributeOf_sound reliable nested hybrid keeps (mayRead rfl) nested.family)
  | byValue other =>
    rw [Body.run]
    cases scope with
    | onClass modelClass =>
      unfold Reads.byValue
      dsimp only
      cases declared : modelClass.attribute? other with
      | none => exact ⟨fun _ _ same => (by cases same), keeps⟩
      | some kind =>
        cases kind with
        | field =>
          refine ⟨fun occurring occurs => written ?_, keeps⟩
          simpa [Scope.written, Scope.modelClass, declared, Expr.occurrences] using occurs
        | hybrid sibling =>
          exact Action.ensures_bind_pure.mpr
            (ofClass_sound reliable nested hybrid keeps (mayRead rfl) nested.family declared)
    | onInstance modelClass key =>
      exact Action.ensures_bind_pure.mpr
        (attributeOf_sound reliable nested hybrid keeps (mayRead rfl) nested.family)
  | fail error =>
    rw [Body.run]
    refine ⟨?_, keeps⟩
    rintro className chain rfl
    exact .inr (.inr ⟨_, descriptor, className, chain, nested.reached, hybrid, member⟩)
  | count counter =>
    rw [Body.run]
    exact ⟨.native _, keeps.congr rfl rfl rfl rfl rfl rfl⟩
  | isInstance =>
    rw [Body.run]
    exact ⟨.native _, keeps⟩
  | className =>
    rw [Body.run]
    exact ⟨.native _, keeps⟩
  | describeScope =>
    rw [Body.run]
    exact ⟨.native _, keeps⟩
  | reset other =>
    rw [Body.run]
    unfold Directory.hybrid
    cases setting.directory.hybrids.get? other with
    | none => exact ⟨fun _ _ same => (by cases same), keeps⟩
    | some found => exact ⟨.native _, keeps.covers.resetHybrid found trivial, keeps.building⟩
  | ofClass owner other =>
    rw [Body.run]
    unfold Directory.modelClass
    cases found : setting.directory.classes.get? owner with
    | none => exact ⟨fun _ _ same => (by cases same), keeps⟩
    | some modelClass =>
      refine Action.ensures_bind.mpr (Action.ensures_pure.mpr ?_)
      exact Action.ensures_bind_pure.mpr (hybridOf_sound reliable nested hybrid keeps
        (mayRead (by simp [Directory.target?, found])) (setting.listed _ _ found))
  | ofInstance owner instance? other =>
    rw [Body.run]
    unfold Directory.modelClass
    cases found : setting.directory.classes.get? owner with
    | none => exact ⟨fun _ _ same => (by cases same), keeps⟩
    | some modelClass =>
      refine Action.ensures_bind.mpr (Action.ensures_pure.mpr ?_)
      rw [Directory.instanceOf_eq]
      cases chosen : setting.directory.instanceOf? scope instance? with
      | none => exact ⟨fun _ _ same => (by cases same), keeps⟩
      | some key =>
        refine Action.ensures_bind.mpr (Action.ensures_pure.mpr ?_)
        exact Action.ensures_bind_pure.mpr (attributeOf_sound reliable nested hybrid keeps
          (mayRead (by simp [Directory.target?, found, chosen])) (setting.listed _ _ found))
  | _ => exact isLeaf.elim

end Function

section Cached

variable {modelClass : ModelClass} {name : String}
variable (family : setting.family modelClass)
variable (declared : modelClass.attribute? name = some (.hybrid descriptor))

include family declared in
private theorem ledger_wrapper (wrapper : Wrapper) :
    setting.ledger.wrapper descriptor.id modelClass.id wrapper ↔
      setting.Names ⟨.onClass modelClass, name⟩ wrapper.expression := by
  refine (Ledger.ofFamily_wrapper setting.descriptors
    (Descriptor.in_of_attribute? family declared)).trans ⟨fun known => ?_, ?_⟩
  · exact known _ modelClass rfl rfl family (Reading.hybrid?_eq_some (.onClass modelClass) declared)
  · intro names reading owner scope same ownerFamily hybrid occurring occurs
    obtain rfl := setting.classes _ _ ownerFamily family same
    exact (names occurring occurs).congr scope.symm
      ((Reading.hybrid?_eq_some (.onClass owner) declared).trans hybrid.symm)

include family declared in
private theorem ledger_value {key : InstanceId} {term : Term} :
    setting.ledger.value descriptor.id key term ↔
      setting.Names ⟨.onInstance modelClass key, name⟩ term := by
  refine (Ledger.ofFamily_value setting.descriptors
    (Descriptor.in_of_attribute? family declared)).trans ⟨fun known => ?_, ?_⟩
  · exact known _ rfl (Reading.hybrid?_eq_some (.onInstance modelClass key) declared)
  · intro names reading scope hybrid occurring occurs
    exact .shared hybrid (Reading.hybrid?_eq_some (.onInstance modelClass key) declared) scope rfl
      (names occurring occurs)

end Cached

/-- The expression of a hybrid only leads to siblings that the hybrid needs. -/
private theorem needs_dependency {modelClass : ModelClass} {name dependency : String} {term : Term}
    (declared : modelClass.attribute? name = some (.hybrid descriptor))
    (names : setting.Names ⟨.onClass modelClass, name⟩ term)
    (depends : dependency ∈
      ((setting.start.registry modelClass.registry).wrap term).dependencies) :
    setting.Needs ⟨.onClass modelClass, name⟩ ⟨.onClass modelClass, dependency⟩ := by
  rcases Registry.dependencies_wrap depends with occurs | listed
  · exact .named rfl (names dependency occurs)
  · exact .listed rfl (Reading.hybrid?_eq_some (.onClass modelClass) declared) listed

/-- The siblings of a hybrid are read as what it needs. -/
private theorem resolve_sound (reliable : setting.Reliable root reads) {modelClass : ModelClass}
    {name : String} {term : Term} (nested : setting.Nested root ⟨.onClass modelClass, name⟩ stack)
    (hybrid : Reading.hybrid? ⟨.onClass modelClass, name⟩ = some descriptor)
    (declared : modelClass.attribute? name = some (.hybrid descriptor))
    (names : setting.Names ⟨.onClass modelClass, name⟩ term) :
    ∀ store, setting.ledger.Keeps setting.start
        (stack ++ [Reading.frame ⟨.onClass modelClass, name⟩ descriptor]) store →
      (reads.resolve modelClass descriptor.name
        ((setting.start.registry modelClass.registry).wrap term).dependencies).Ensures store
          fun outcome after =>
            Outcome (fun _ => True) (setting.Blames root) outcome ∧
              setting.ledger.Keeps setting.start
                (stack ++ [Reading.frame ⟨.onClass modelClass, name⟩ descriptor]) after := by
  have siblings : ∀ dependency ∈ ((setting.start.registry modelClass.registry).wrap term).dependencies,
      ∀ sibling, modelClass.attribute? dependency = some (.hybrid sibling) →
        ∀ store, setting.ledger.Keeps setting.start
            (stack ++ [Reading.frame ⟨.onClass modelClass, name⟩ descriptor]) store →
          (reads.ofClass modelClass sibling).Ensures store fun outcome after =>
            Outcome (fun _ => True) (setting.Blames root) outcome ∧
              setting.ledger.Keeps setting.start
                (stack ++ [Reading.frame ⟨.onClass modelClass, name⟩ descriptor]) after := by
    intro dependency member sibling found store keeps
    have nestedSibling := nested.push hybrid (needs_dependency declared names member) nested.family
    refine (reliable.ofClass nestedSibling found store keeps).mono
      fun outcome after ⟨expected, ended⟩ => ⟨?_, ended⟩
    cases outcome with
    | ok wrapper => exact trivial
    | error cause => exact expected
  refine fun store keeps => (Reads.resolve_keeps siblings (fun _ _ _ => nofun) store keeps).mono
    fun outcome after ⟨expected, ended⟩ => ⟨?_, ended⟩
  cases outcome with
  | ok dependencies => exact trivial
  | error cause => exact expected

/-- A frame that is entered again while nothing else is wrong is blamed on the graph. -/
private theorem blames_entered (nested : setting.Nested root reading stack)
    (hybrid : reading.hybrid? = some descriptor)
    (keeps : setting.ledger.Keeps setting.start stack store) {className : String}
    {chain : List String} (cyclic : store.cycle? (reading.frame descriptor) = some chain) :
    setting.Blames root (.cyclicDependency className chain) := by
  have member : reading.frame descriptor ∈ stack := by
    by_contra outside
    rw [← keeps.building, ← Store.cycle?_eq_none, cyclic] at outside
    cases outside
  intro _ _ _
  exact (nested.entered hybrid member).imp_right .inl

/-- Reads of hybrids are reliable, however many may be nested. -/
theorem reliable_readsWithin (setting : Setting) (root : Reading) (room : Nat) :
    setting.Reliable root (setting.directory.readsWithin room) := by
  induction room with
  | zero => exact ⟨fun _ _ store keeps => ⟨nofun, keeps⟩, fun _ _ store keeps => ⟨nofun, keeps⟩⟩
  | succ room reliable =>
    refine ⟨fun {modelClass name descriptor stack} nested declared store keeps => ?_,
      fun {modelClass key name descriptor stack} nested declared store keeps => ?_⟩
    · have hybrid := Reading.hybrid?_eq_some (.onClass modelClass) declared
      have known := ledger_wrapper nested.family declared
      refine Descriptor.readClass_keeps (fun outcome => Outcome
        (setting.Names ⟨.onClass modelClass, name⟩) (setting.Blames root)
          (outcome.map Wrapper.expression)) keeps (fun wrapper => (known wrapper).mp)
        (fun chain => blames_entered nested hybrid keeps) fun _ store keeps => ?_
      refine Descriptor.buildWrapper_keeps _ (setting.Names ⟨.onClass modelClass, name⟩) keeps
        (fun wrapper => (known wrapper).mp) ?_ ?_
      · refine fun store keeps => Body.run_keeps (setting.names_closed _) Blames.arithmetic
          descriptor.body (fun leaf member isLeaf store keeps => ?_) store keeps
        exact leaf_sound reliable nested hybrid keeps member isLeaf
      · rintro term names wrapped rfl store keeps
        refine (resolve_sound reliable nested hybrid declared names store keeps).mono
          fun outcome after ⟨expected, ended⟩ => ⟨?_, ended⟩
        cases outcome with
        | error cause => exact expected
        | ok dependencies =>
          intro stamp
          refine (known _).mpr fun dependency occurs => names dependency ?_
          exact Registry.occurrences_wrap _ term ▸ occurs
    · have hybrid := Reading.hybrid?_eq_some (.onInstance modelClass key) declared
      refine Descriptor.readInstance_keeps
        (Outcome (setting.Names ⟨.onInstance modelClass key, name⟩) (setting.Blames root)) keeps
        (fun term => (ledger_value nested.family declared).mp)
        (fun chain => blames_entered nested hybrid keeps) fun _ store keeps => ?_
      refine (Body.run_keeps (setting.names_closed _) Blames.arithmetic descriptor.body
        (fun leaf member isLeaf store keeps => ?_) store keeps).mono
        fun outcome after ⟨expected, ended⟩ => ⟨⟨expected, ?_⟩, ended⟩
      · exact leaf_sound reliable nested hybrid keeps member isLeaf
      · rintro term rfl
        exact (ledger_value nested.family declared).mpr expected

end Reads

/-- A reading that nothing is nested around keeps the ledger and blames its errors on the graph. -/
private theorem read_sound (reading : Reading) {store : Store}
    (family : setting.family reading.scope.modelClass)
    (keeps : setting.ledger.Keeps setting.start [] store) :
    (reading.read setting.directory).Ensures store fun outcome after =>
      Outcome (setting.Names reading) (setting.Blames reading) outcome ∧
        setting.ledger.Keeps setting.start [] after := by
  have nested := Nested.outermost family
  obtain ⟨scope, name⟩ := reading
  have reliable := setting.reliable_readsWithin ⟨scope, name⟩ (setting.directory.room scope.modelClass)
  cases scope with
  | onClass modelClass =>
    exact Action.ensures_bind_pure.mpr (Reads.hybridOf_keeps _ keeps nofun nofun
      fun descriptor declared => reliable.ofClass nested declared store keeps)
  | onInstance modelClass key =>
    exact Action.ensures_bind_pure.mpr (Reads.attributeOf_keeps _ keeps .native nofun nofun
      fun descriptor declared => reliable.ofInstance nested declared store keeps)

/-- A reading fails with the error of a cycle only if something that it needs needs itself, if it
needs two hybrids of one name in one scope of which one needs the other, or if a function that it
needs may fail so of its own accord. -/
theorem cyclicDependency_cause {history : List Access} {className : String} {chain : List String}
    (family : setting.family reading.scope.modelClass)
    (within : ∀ access ∈ history, access.Within setting.family)
    (fails : ((reading.read setting.directory).run
      (setting.start.after setting.directory history)).1 = .error (.cyclicDependency className chain)) :
    setting.Cyclic reading ∨ setting.Clash reading ∨ setting.Raises reading := by
  have keeps :
      setting.ledger.Keeps setting.start [] (setting.start.after setting.directory history) := by
    refine (Ledger.Keeps.ofBlank setting.blank trivial).after (fun _ => trivial) ?_ ?_ within
    · intro modelClass name member store keeps
      exact (Action.ensures_bind_pure.mp (read_sound ⟨.onClass modelClass, name⟩
        member keeps)).mono fun _ _ ended => ended.2
    · intro modelClass key name member store keeps
      exact (Action.ensures_bind_pure.mp (read_sound ⟨.onInstance modelClass key, name⟩
        member keeps)).mono fun _ _ ended => ended.2
  obtain ⟨expected, -⟩ := read_sound reading family keeps
  rw [fails] at expected
  exact expected className chain rfl

end Setting

end Hybrid

namespace Hybrid.Renamed

/-- The total of a base class. -/
def baseTotal : Descriptor :=
  ⟨⟨1⟩, "total", .constant (.int 1)⟩

/-- The total of a derived class: one more than that of the base, which is kept under another
name. -/
def total : Descriptor :=
  ⟨⟨2⟩, "total", .combine .add (.byValue "base_total") (.constant (.int 1))⟩

def base : ModelClass where
  id := ⟨1⟩
  name := "Base"
  attributes := [("total", .hybrid baseTotal)]
  registry := Store.sharedRegistry

def derived : ModelClass where
  id := ⟨2⟩
  name := "Derived"
  attributes := [("total", .hybrid total), ("base_total", .hybrid baseTotal)]
  registry := Store.sharedRegistry

/-- The derived class as it is declared. -/
def builder : ClassBuilder :=
  (((ClassBuilder.new "Derived").inherit base).hybrid total).declare "base_total" (.hybrid baseTotal)

private theorem hybrids_derived :
    derived.hybrids = [("total", total), ("base_total", baseTotal)] := rfl

def setting : Setting where
  family := (· = derived)
  directory := ⟨.empty, .empty, .empty⟩
  start := .initial
  listed _ _ found := nomatch found
  classes _ _ first second _ := first.trans second.symm
  descriptors := by
    refine .ofList [total, baseTotal] ?_ (by simp [total, baseTotal])
    rintro _ rfl
    simp [hybrids_derived]
  blank := .ofEmpty rfl rfl rfl _

def onTotal : Reading := ⟨.onClass derived, "total"⟩

def onBase : Reading := ⟨.onClass derived, "base_total"⟩

private theorem hybrid_total : onTotal.hybrid? = some total := rfl

private theorem hybrid_base : onBase.hybrid? = some baseTotal := rfl

private theorem mayRead_base {other : Reading} : ¬ setting.MayRead onBase other := by
  rintro ⟨descriptor, hybrid, leaf, member, target⟩
  obtain rfl := Option.some.inj (hybrid_base.symm.trans hybrid)
  simp only [baseTotal, Body.leaves, List.mem_singleton] at member
  subst member
  cases target

private theorem mayRead_total {other : Reading} (reads : setting.MayRead onTotal other) :
    other = onBase := by
  obtain ⟨descriptor, hybrid, leaf, member, target⟩ := reads
  obtain rfl := Option.some.inj (hybrid_total.symm.trans hybrid)
  simp only [total, Body.leaves, List.cons_append, List.nil_append, List.mem_cons,
    List.not_mem_nil, or_false] at member
  rcases member with rfl | rfl
  · exact (Option.some.inj target).symm
  · cases target

private theorem mayName_base {name : String} : ¬ setting.MayName onBase name := by
  intro names
  cases names with
  | written hybrid member written =>
    obtain rfl := Option.some.inj (hybrid_base.symm.trans hybrid)
    simp only [baseTotal, Body.leaves, List.mem_singleton] at member
    subst member
    cases written
  | read reads _ => exact mayRead_base reads
  | shared _ _ key _ _ => cases key

private theorem mayName_total {name : String} : ¬ setting.MayName onTotal name := by
  intro names
  cases names with
  | written hybrid member written =>
    obtain rfl := Option.some.inj (hybrid_total.symm.trans hybrid)
    simp only [total, Body.leaves, List.cons_append, List.nil_append, List.mem_cons,
      List.not_mem_nil, or_false] at member
    rcases member with rfl | rfl <;> cases written
  | read reads names => exact mayName_base (mayRead_total reads ▸ names)
  | shared _ _ key _ _ => cases key

private theorem needs_base {other : Reading} : ¬ setting.Needs onBase other := by
  intro needs
  cases needs with
  | read reads => exact mayRead_base reads
  | named _ names => exact mayName_base names
  | listed onClass _ listed =>
    obtain rfl := Scope.onClass.inj onClass
    cases listed

private theorem needs_total {other : Reading} (needs : setting.Needs onTotal other) :
    other = onBase := by
  cases needs with
  | read reads => exact mayRead_total reads
  | named _ names => exact absurd names mayName_total
  | listed onClass _ listed =>
    obtain rfl := Scope.onClass.inj onClass
    cases listed

open Relation in
private theorem eq_onBase {other : Reading} (needed : TransGen setting.Needs onTotal other) :
    other = onBase := by
  obtain ⟨next, needs, rest⟩ := TransGen.head'_iff.mp needed
  obtain rfl := needs_total needs
  rcases ReflTransGen.cases_head rest with same | ⟨_, needs, _⟩
  · exact same.symm
  · exact absurd needs needs_base

open Relation in
private theorem acyclic : ¬ setting.Cyclic onTotal := by
  rintro ⟨reading, reached, itself⟩
  obtain ⟨_, needs, _⟩ := TransGen.head'_iff.mp itself
  rcases reflTransGen_iff_eq_or_transGen.mp reached with rfl | needed
  · exact absurd (eq_onBase itself) (by simp [onTotal, onBase])
  · rw [eq_onBase needed] at needs
    exact needs_base needs

open Relation in
private theorem silent : ¬ setting.Raises onTotal := by
  rintro ⟨reading, descriptor, className, chain, reached, hybrid, member⟩
  rcases reflTransGen_iff_eq_or_transGen.mp reached with rfl | needed
  · obtain rfl := Option.some.inj (hybrid_total.symm.trans hybrid)
    simp [total, Body.leaves] at member
  · obtain rfl := eq_onBase needed
    obtain rfl := Option.some.inj (hybrid_base.symm.trans hybrid)
    simp [baseTotal, Body.leaves] at member

private theorem read_total :
    ((onTotal.read setting.directory).run
      (setting.start.after setting.directory [.reset baseTotal])).1 =
        .error (.cyclicDependency "Derived" ["total", "total"]) := rfl

/-- The total of the derived class does not need itself, and cannot be read. -/
theorem read_total_not_cyclic :
    builder.build derived.id Store.sharedRegistry = .ok derived ∧
      ((onTotal.read setting.directory).run setting.start).1 =
        .error (.cyclicDependency "Derived" ["total", "total"]) ∧
      ¬ setting.Cyclic onTotal :=
  ⟨rfl, rfl, acyclic⟩

/-- The two totals are what the reading trips over. -/
theorem cyclicDependency_cause_total :
    setting.family onTotal.scope.modelClass ∧
      ((onTotal.read setting.directory).run
        (setting.start.after setting.directory [.reset baseTotal])).1 =
          .error (.cyclicDependency "Derived" ["total", "total"]) ∧
      setting.Clash onTotal := by
  have within : ∀ access ∈ [Access.reset baseTotal], access.Within setting.family := by
    simp [Access.Within]
  refine ⟨rfl, read_total, ?_⟩
  rcases Setting.cyclicDependency_cause rfl within read_total with cyclic | clash | raises
  · exact absurd cyclic acyclic
  · exact clash
  · exact absurd raises silent

end Hybrid.Renamed
