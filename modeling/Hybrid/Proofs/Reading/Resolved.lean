import Mathlib.Data.List.Nodup
import Hybrid.Proofs.Reading.Effects
import Hybrid.Proofs.Reading.Stability
import Hybrid.Proofs.Wrapper.Order

/-! # What inlined wrappers refer to

A wrapper is resolved on a class if its expression refers to attributes of the class only, and if it
has a resolved wrapper for each hybrid among them. Inlining a resolved wrapper leaves plain fields:
those that some wrapper below it refers to. With the standard registry every wrapper that is built
on a class is resolved, whatever the functions do, and what is cached was built. A reset takes no
wrapper from those that have it as a dependency, so the resets before a read do not matter.
-/

namespace Hybrid

namespace ModelClass

/-- The wrappers that refer to attributes of the class only, with a resolved wrapper for each hybrid
among these. -/
inductive Resolved (modelClass : ModelClass) : Wrapper → Prop
  | intro {wrapper : Wrapper}
    (known : ∀ name ∈ wrapper.expression.fieldReferences, modelClass.attribute? name ≠ none)
    (hybrids : wrapper.dependencies.map (·.1) =
      wrapper.expression.fieldReferences.filter modelClass.isHybrid)
    (siblings : ∀ dependency ∈ wrapper.dependencies, Resolved modelClass dependency.2) :
    Resolved modelClass wrapper

variable {modelClass : ModelClass} {wrapper other : Wrapper} {name : String}

theorem isHybrid_of_field (field : modelClass.attribute? name = some .field) :
    modelClass.isHybrid name = false := by
  simp [isHybrid, field]

namespace Resolved

/-- A dependency is what its name stands for, and the expression refers to that name. -/
theorem lookup_of_mem (resolved : modelClass.Resolved wrapper) {dependency : String × Wrapper}
    (member : dependency ∈ wrapper.dependencies) :
    dependency.1 ∈ wrapper.expression.occurrences ∧
      wrapper.dependencies.lookup dependency.1 = some dependency.2 := by
  obtain ⟨known, hybrids, siblings⟩ := resolved
  have nodup : (wrapper.dependencies.map (·.1)).Nodup := by
    rw [hybrids]
    exact wrapper.expression.nodup_fieldReferences.filter _
  have wanted : dependency.1 ∈ wrapper.expression.fieldReferences.filter modelClass.isHybrid := by
    rw [← hybrids]
    exact List.mem_map_of_mem member
  obtain ⟨refers, hybrid⟩ := List.mem_filter.mp wanted
  obtain ⟨sibling, found, listed⟩ := exists_dependency hybrids refers hybrid
  have same : (dependency.1, sibling) = dependency :=
    List.inj_on_of_nodup_map nodup listed member rfl
  exact ⟨Term.mem_fieldReferences.mp refers, found.trans (congrArg _ (congrArg Prod.snd same))⟩

/-- A resolved wrapper refers to plain fields when it is inlined, each of which it or a wrapper below
it refers to. -/
theorem field_of_inline (resolved : modelClass.Resolved wrapper)
    (occurs : name ∈ wrapper.inline.toExpr.occurrences) :
    modelClass.attribute? name = some .field ∧
      ∃ other, wrapper.Reaches other ∧ name ∈ other.expression.occurrences := by
  induction resolved with
  | @intro wrapper known hybrids siblings ih =>
    obtain ⟨field, refers, leads⟩ := Wrapper.mem_occurrences_inline.mp occurs
    have wanted := Term.mem_fieldReferences.mpr refers
    cases declared : modelClass.attribute? field with
    | none => exact absurd declared (known field wanted)
    | some kind =>
      cases kind with
      | field =>
        rw [lookup_dependencies_eq_none hybrids (isHybrid_of_field declared)] at leads
        obtain rfl : name = field := leads
        exact ⟨declared, wrapper, .refl, refers⟩
      | hybrid descriptor =>
        obtain ⟨sibling, found, member⟩ :=
          exists_dependency hybrids wanted (isHybrid_iff.mpr ⟨descriptor, declared⟩)
        rw [found] at leads
        obtain ⟨plain, below, reaches, there⟩ := ih _ member leads
        exact ⟨plain, below, .head (List.mem_map_of_mem member) reaches, there⟩

/-- A plain field that a wrapper below refers to is there after inlining. -/
theorem mem_inline (resolved : modelClass.Resolved wrapper)
    (field : modelClass.attribute? name = some .field) (reaches : wrapper.Reaches other)
    (refers : name ∈ other.expression.occurrences) :
    name ∈ wrapper.inline.toExpr.occurrences := by
  induction resolved with
  | @intro wrapper known hybrids siblings ih =>
    apply Wrapper.mem_occurrences_inline.mpr
    rcases reaches.cases_head with rfl | ⟨sibling, depends, reaches⟩
    · refine ⟨name, refers, ?_⟩
      rw [lookup_dependencies_eq_none hybrids (isHybrid_of_field field)]
    · obtain ⟨dependency, member, rfl⟩ := List.mem_map.mp depends
      obtain ⟨wanted, found⟩ := lookup_of_mem (.intro known hybrids siblings) member
      refine ⟨dependency.1, wanted, ?_⟩
      rw [found]
      exact ih dependency member reaches

end Resolved

end ModelClass

namespace Setting

variable {setting : Setting}

/-- The wrappers on classes with the standard registry are resolved. -/
def resolutions (setting : Setting) : Ledger :=
  .ofFamily setting.family
    (fun _ owner wrapper => ∀ modelClass, setting.family modelClass → modelClass.id = owner →
      setting.start.registry modelClass.registry = .standard → modelClass.Resolved wrapper)
    (fun _ _ _ => True) (fun _ => True)

/-- If a wrapper is given on a class with the standard registry, it is resolved. -/
def Resolves (setting : Setting) (modelClass : ModelClass) (outcome : Except HybridError Wrapper) :
    Prop :=
  setting.start.registry modelClass.registry = .standard → ∀ wrapper, outcome = .ok wrapper →
    modelClass.Resolved wrapper

variable {modelClass : ModelClass} {name : String} {descriptor : Descriptor}

/-- What is cached for a class of the family is resolved. -/
theorem cached_resolves (family : setting.family modelClass)
    (declared : modelClass.attribute? name = some (.hybrid descriptor)) (wrapper : Wrapper)
    (cached : setting.resolutions.wrapper descriptor.id modelClass.id wrapper) :
    setting.Resolves modelClass (.ok wrapper) := by
  have known := Descriptor.in_of_attribute? family declared
  rintro standard _ ⟨⟩
  exact (Ledger.ofFamily_wrapper setting.descriptors known).mp cached modelClass family rfl standard

/-- Reads of the family leave what is cached resolved, and read resolved wrappers. -/
structure ReadsResolve (setting : Setting) (reads : Reads) : Prop where
  ofClass {modelClass : ModelClass} {name : String} {descriptor : Descriptor} :
    setting.family modelClass → modelClass.attribute? name = some (.hybrid descriptor) →
      ∀ stack store, setting.resolutions.Keeps setting.start stack store →
        (reads.ofClass modelClass descriptor).Ensures store fun outcome after =>
          setting.Resolves modelClass outcome ∧
            setting.resolutions.Keeps setting.start stack after
  ofInstance {modelClass : ModelClass} {name : String} {descriptor : Descriptor} :
    setting.family modelClass → modelClass.attribute? name = some (.hybrid descriptor) →
      ∀ key stack, (reads.ofInstance modelClass key descriptor).Preserves
        (setting.resolutions.Keeps setting.start stack)

variable {reads : Reads} {stack : List Frame} {store : Store}

/-- A function may read and reset what it likes. -/
theorem ReadsResolve.run (resolve : setting.ReadsResolve reads) (scope : Scope)
    (family : setting.family scope.modelClass) (body : Body) (stack : List Frame) :
    (body.run reads setting.directory scope).Preserves
      (setting.resolutions.Keeps setting.start stack) := by
  refine setting.run_preserves (fun _ => trivial) ?_ ?_ scope family body
  · exact fun _ _ _ family declared store keeps =>
      (resolve.ofClass family declared stack store keeps).mono fun _ _ ended => ended.2
  · exact fun _ key _ _ family declared => resolve.ofInstance family declared key stack

/-- With the standard registry, what names were resolved to makes a resolved wrapper. -/
theorem resolutions_wrapper (family : setting.family modelClass)
    (declared : modelClass.attribute? name = some (.hybrid descriptor)) {term : Term}
    {dependencies : List (String × Wrapper)}
    (resolves : modelClass.Resolves
      (fun _ wrapper => setting.start.registry modelClass.registry = .standard →
        modelClass.Resolved wrapper)
      ((setting.start.registry modelClass.registry).wrap term).dependencies dependencies)
    (stamp : Nat) :
    setting.resolutions.wrapper descriptor.id modelClass.id
      (.mk stamp ((setting.start.registry modelClass.registry).wrap term).toTerm descriptor.name
        modelClass.id modelClass.name dependencies) := by
  have known := Descriptor.in_of_attribute? family declared
  refine (Ledger.ofFamily_wrapper setting.descriptors known).mpr fun owner familyOwner same => ?_
  obtain rfl := setting.classes owner modelClass familyOwner family same
  intro standard
  obtain ⟨known, hybrids, siblings⟩ := resolves
  rw [standard] at known hybrids ⊢
  obtain ⟨expression, references⟩ := Registry.wrap_standard term
  rw [expression]
  rw [references] at known hybrids
  exact .intro known hybrids fun dependency member => siblings dependency member standard

/-- A built wrapper has what the names in its expression were resolved to. -/
theorem ReadsResolve.buildWrapper (resolve : setting.ReadsResolve reads)
    (family : setting.family modelClass)
    (declared : modelClass.attribute? name = some (.hybrid descriptor))
    (keeps : setting.resolutions.Keeps setting.start stack store) :
    (descriptor.buildWrapper reads setting.directory modelClass).Ensures store fun outcome after =>
      setting.Resolves modelClass outcome ∧
        setting.resolutions.Keeps setting.start stack after := by
  refine Descriptor.buildWrapper_keeps (setting.Resolves modelClass) (fun _ => True) keeps
    (cached_resolves family declared) ?runs ?resolves
  case runs =>
    intro store keeps
    refine (resolve.run (.onClass modelClass) family descriptor.body stack store keeps).mono
      fun outcome after ended => ⟨?_, ended⟩
    cases outcome with
    | ok term => trivial
    | error error => exact fun _ => nofun
  case resolves =>
    rintro term - _ rfl store keeps
    have siblings : ∀ other ∈ ((setting.start.registry modelClass.registry).wrap term).dependencies,
        ∀ sibling, modelClass.attribute? other = some (.hybrid sibling) →
          ∀ store, setting.resolutions.Keeps setting.start stack store →
            (reads.ofClass modelClass sibling).Ensures store fun outcome after =>
              Outcome (fun wrapper => setting.start.registry modelClass.registry = .standard →
                modelClass.Resolved wrapper) (fun _ => True) outcome ∧
              setting.resolutions.Keeps setting.start stack after := by
      intro other _ sibling found store keeps
      refine (resolve.ofClass family found stack store keeps).mono
        fun outcome after ⟨read, ended⟩ => ⟨?_, ended⟩
      cases outcome with
      | ok wrapper => exact fun standard => read standard wrapper rfl
      | error error => trivial
    refine (Reads.resolve_keeps siblings (fun _ _ _ => trivial) store keeps).mono
      fun outcome after ⟨resolved, ended⟩ => ⟨?_, ended⟩
    cases outcome with
    | ok dependencies => exact resolutions_wrapper family declared resolved
    | error error => exact fun _ => nofun

/-- All reads of the family do so, with whatever room. -/
theorem readsResolve (setting : Setting) (room : Nat) :
    setting.ReadsResolve (setting.directory.readsWithin room) := by
  induction room with
  | zero =>
    constructor
    · exact fun _ _ stack store keeps => ⟨fun _ => nofun, keeps⟩
    · exact fun _ _ key stack => .throw _
  | succ room ih =>
    constructor
    · intro modelClass name descriptor family declared stack store keeps
      exact Descriptor.readClass_keeps (setting.Resolves modelClass) keeps
        (cached_resolves family declared) (fun _ _ _ => nofun)
        fun _ store keeps => ih.buildWrapper family declared keeps
    · intro modelClass name descriptor family declared key
      exact Descriptor.readInstance_anything (fun _ _ _ _ => trivial)
        (ih.run (.onInstance modelClass key) family descriptor.body)

/-- Reading a hybrid of the family gives a resolved wrapper. -/
theorem get_resolves (family : setting.family modelClass) (name : String)
    (keeps : setting.resolutions.Keeps setting.start [] store) :
    (modelClass.get setting.directory name).Ensures store fun outcome after =>
      setting.Resolves modelClass outcome ∧ setting.resolutions.Keeps setting.start [] after := by
  have resolve := setting.readsResolve (setting.directory.room modelClass)
  unfold ModelClass.get Reads.hybridOf
  cases declared : modelClass.attribute? name with
  | none => exact ⟨fun _ => nofun, keeps⟩
  | some kind =>
    cases kind with
    | field => exact ⟨fun _ => nofun, keeps⟩
    | hybrid descriptor => exact resolve.ofClass family declared [] store keeps

/-- Every history of the family leaves what is cached resolved. -/
theorem resolutions_after {history : List Access}
    (within : ∀ access ∈ history, access.Within setting.family) :
    setting.resolutions.Keeps setting.start []
      (setting.start.after setting.directory history) := by
  refine Ledger.Keeps.after (.ofBlank setting.blank trivial) (fun _ => trivial) ?_ ?_ within
  · intro modelClass name family store keeps
    exact (get_resolves family name keeps).mono fun _ _ ended => ended.2
  · intro modelClass key name family
    have resolve := setting.readsResolve (setting.directory.room modelClass)
    exact Reads.attributeOf_preserves (fun _ _ => Ledger.Keeps.quiet)
      fun descriptor declared => resolve.ofInstance family declared key []

/-- On a class with the standard registry, in every state that reads and resets lead to, inlining
what a hybrid is read as leaves references to plain fields only, and of these exactly those that the
wrapper or one below it refers to. This goes for any functions, and for reads that fail and parts
that are reset on the way. -/
theorem inline_refers_to_fields (family : setting.family modelClass)
    (standard : setting.start.registry modelClass.registry = .standard) {history : List Access}
    (within : ∀ access ∈ history, access.Within setting.family) {wrapper : Wrapper}
    (read : ((modelClass.get setting.directory name).run
      (setting.start.after setting.directory history)).1 = .ok wrapper) :
    (∀ field ∈ wrapper.inline.toExpr.fieldReferences, modelClass.attribute? field = some .field) ∧
      ∀ field, modelClass.attribute? field = some .field →
        (field ∈ wrapper.inline.toExpr.fieldReferences ↔
          ∃ other, wrapper.Reaches other ∧ field ∈ other.expression.fieldReferences) := by
  have resolved : modelClass.Resolved wrapper :=
    (get_resolves family name (resolutions_after within)).1 standard wrapper read
  simp only [Expr.mem_fieldReferences, Term.mem_fieldReferences]
  constructor
  · exact fun field occurs => (resolved.field_of_inline occurs).1
  · intro field plain
    constructor
    · exact fun occurs => (resolved.field_of_inline occurs).2
    · rintro ⟨other, reaches, refers⟩
      exact resolved.mem_inline plain reaches refers

end Setting

end Hybrid

namespace Hybrid.Basket

def net : Descriptor :=
  ⟨⟨1⟩, "net", .byName "price"⟩

/-- Twice the net price, unless the class has a discount. -/
def gross : Descriptor :=
  ⟨⟨2⟩, "gross", .combine .mul (.recover (.byValue "discount") (.byName "net"))
    (.constant (.int 2))⟩

def basket : ModelClass where
  id := ⟨1⟩
  name := "Basket"
  attributes := [("price", .field), ("net", .hybrid net), ("gross", .hybrid gross)]
  registry := Store.sharedRegistry

private theorem hybrids_basket : basket.hybrids = [("net", net), ("gross", gross)] := rfl

def setting : Setting where
  family modelClass := modelClass = basket
  directory := ⟨.empty, .empty, .empty⟩
  start := Store.initial
  listed _ _ found := nomatch found
  classes := by
    rintro _ _ rfl rfl _
    rfl
  descriptors := by
    refine .ofList [net, gross] ?_ (by simp [net, gross])
    rintro _ rfl
    simp [hybrids_basket]
  blank := .ofEmpty rfl rfl rfl _

/-- The gross price is read, what it depends on is reset, and a read fails. -/
def history : List Access :=
  [.ofClass basket "gross", .reset net, .ofClass basket "discount"]

private theorem within : ∀ access ∈ history, access.Within setting.family := by
  simp [history, Access.Within, setting]

private theorem standard : setting.start.registry basket.registry = .standard := rfl

/-- The net price as it was read at first. -/
def netWrapper : Wrapper :=
  .mk 1 (.symbolic (.field "price")) "net" ⟨1⟩ "Basket" []

/-- The gross price as it was read at first. -/
def grossWrapper : Wrapper :=
  .mk 2 (.symbolic (.combined .mul (.field "net") (.literal (.int 2)))) "gross" ⟨1⟩ "Basket"
    [("net", netWrapper)]

private theorem get_gross :
    ((basket.get setting.directory "gross").run
      (setting.start.after setting.directory history)).1 = .ok grossWrapper := by
  cbv

/-- Inlining the gross price leaves the price, though the net price was reset. -/
theorem inline_gross :
    (∀ access ∈ history, access.Within setting.family) ∧
      setting.start.registry basket.registry = .standard ∧
      ((basket.get setting.directory "gross").run
        (setting.start.after setting.directory history)).1 = .ok grossWrapper ∧
      (∀ field ∈ grossWrapper.inline.toExpr.fieldReferences,
        basket.attribute? field = some .field) ∧
      "price" ∈ grossWrapper.inline.toExpr.fieldReferences := by
  have family : setting.family basket := rfl
  obtain ⟨plain, refers⟩ := Setting.inline_refers_to_fields family standard within get_gross
  refine ⟨within, standard, get_gross, plain, (refers "price" rfl).mpr ⟨netWrapper, ?_, ?_⟩⟩
  · exact .single (List.mem_cons_self ..)
  · exact Term.mem_fieldReferences.mpr (List.mem_singleton_self _)

end Hybrid.Basket
