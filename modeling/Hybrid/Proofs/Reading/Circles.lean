import Mathlib.Data.List.Chain
import Hybrid.Proofs.Body.Composed
import Hybrid.Proofs.Reading.Effects
import Hybrid.Proofs.Reading.Mentions
import Hybrid.Proofs.Reading.Stability

/-! # Reported cycles are real

The error of a cycle names what the build stack holds from the hybrid on that was entered again,
without the frames of other classes and instances. On a class whose functions are composed of reads
of the scope, hybrids under evaluation form a trail: each uses the next one, which its function
reads or its expression depends on. A hybrid that is entered again closes a circle of the trail.
Frames of other classes lie below the trail, and what is cached for the class are expressions that
its functions yield, so this holds in any state and within any other read.
-/

namespace Hybrid

open Relation

/-! ## What functions give on a class -/

namespace ModelClass

/-- What a function of constants, reads and operations yields on a class whose hybrids are wrapped
with one of the known registries. A hybrid that is read by value yields its own expression. -/
inductive Yields (modelClass : ModelClass) (known : Registry → Prop) : Body → Term → Prop
  | constant (value : Value) : Yields modelClass known (.constant value) (.native value)
  | expression (expr : Expr) : Yields modelClass known (.expression expr) (.symbolic expr)
  | byName (name : String) : Yields modelClass known (.byName name) (.symbolic (.field name))
  | reference (name : String) : Yields modelClass known (.reference name) (.symbolic (.field name))
  | field {name : String} : modelClass.attribute? name = some .field →
    Yields modelClass known (.byValue name) (.symbolic (.field name))
  | hybrid {name : String} {sibling : Descriptor} {registry : Registry} {term : Term} :
    modelClass.attribute? name = some (.hybrid sibling) → known registry →
      Yields modelClass known sibling.body term →
        Yields modelClass known (.byValue name) (registry.wrap term).toTerm
  | combine {operator : Operator} {lhs rhs : Body} {left right term : Term} :
    Yields modelClass known lhs left → Yields modelClass known rhs right →
      left.combine operator right = .ok term →
        Yields modelClass known (.combine operator lhs rhs) term
  | negate {operand : Body} {inner term : Term} : Yields modelClass known operand inner →
    inner.negate = .ok term → Yields modelClass known (.negate operand) term
  | call {name : String} {arguments : List Body} {terms : List Term} {term : Term} :
    arguments.length = terms.length →
      (∀ argument inner, (argument, inner) ∈ arguments.zip terms →
        Yields modelClass known argument inner) →
      Term.call name terms = .ok term → Yields modelClass known (.call name arguments) term

variable {modelClass : ModelClass} {known : Registry → Prop} {body : Body} {term other : Term}

/-- With one registry a function yields one term. -/
theorem Yields.unique (one : ∀ first second, known first → known second → first = second)
    (yields : modelClass.Yields known body term) (again : modelClass.Yields known body other) :
    term = other := by
  induction yields generalizing other with
  | constant | expression | byName | reference => cases again; rfl
  | field declared =>
    cases again with
    | field => rfl
    | hybrid found => cases declared.symm.trans found
  | hybrid declared registry _ ih =>
    cases again with
    | field found => cases declared.symm.trans found
    | hybrid found registryAgain yields =>
      cases declared.symm.trans found
      rw [ih yields, one _ _ registry registryAgain]
  | combine _ _ combined left right =>
    cases again with
    | combine givesLeft givesRight combinedAgain =>
      rw [left givesLeft, right givesRight] at combined
      exact Except.ok.inj (combined.symm.trans combinedAgain)
  | negate _ negated ih =>
    cases again with
    | negate yields negatedAgain =>
      rw [ih yields] at negated
      exact Except.ok.inj (negated.symm.trans negatedAgain)
  | @call name arguments terms term length _ called ih =>
    cases again with
    | @call _ _ others _ lengthAgain yields calledAgain =>
      have same : terms = others := by
        refine List.ext_getElem (length.symm.trans lengthAgain) fun k before beforeAgain => ?_
        have inside : k < arguments.length := length ▸ before
        have paired {inner : List Term} (within : k < inner.length) :
            (arguments[k], inner[k]) ∈ arguments.zip inner :=
          List.mem_iff_getElem.mpr ⟨k, by rw [List.length_zip]; omega, List.getElem_zip⟩
        exact ih _ _ (paired before) (yields _ _ (paired beforeAgain))
      rw [same] at called
      exact Except.ok.inj (called.symm.trans calledAgain)

/-- A hybrid may have the expression on a class where this is what its function yields, wrapped with
a known registry. -/
def Expresses (modelClass : ModelClass) (known : Registry → Prop) (descriptor : Descriptor)
    (expression : Term) : Prop :=
  ∃ registry term, known registry ∧ modelClass.Yields known descriptor.body term ∧
    expression = (registry.wrap term).toTerm

theorem Expresses.yields {name : String} {descriptor : Descriptor} {expression : Term}
    (expresses : modelClass.Expresses known descriptor expression)
    (declared : modelClass.attribute? name = some (.hybrid descriptor)) :
    modelClass.Yields known (.byValue name) expression := by
  obtain ⟨registry, term, knows, yields, rfl⟩ := expresses
  exact .hybrid declared knows yields

/-- What the operations of a program give follows from what its leaves give. -/
theorem Yields.verdicts {blame : HybridError → Prop}
    (arithmetic : ∀ cause, blame (.arithmetic cause)) :
    Body.Verdicts fun body outcome => Outcome (modelClass.Yields known body) blame outcome where
  combine {operator _ _ first second} left right := by
    cases combined : first.combine operator second with
    | ok term => exact .combine left right combined
    | error cause => exact arithmetic cause
  combineLeft left := left
  combineRight _ right := right
  negate {_ inner} operand := by
    cases negated : inner.negate with
    | ok term => exact .negate operand negated
    | error cause => exact arithmetic cause
  negateError operand := operand
  call {name _ terms} all := by
    obtain ⟨length, each⟩ := List.forall₂_iff_zip.mp all
    cases called : Term.call name terms with
    | ok term => exact .call length (fun _ _ => each) called
    | error cause => exact arithmetic cause
  callError _ fails := fails

end ModelClass

/-! ## Direct reads -/

/-- In a scope the hybrid of the first name reads the second name directly: its function does, by
value or, on an instance, by name; or its expression on the class depends on it, wrapped with the
registry. -/
inductive Scope.Uses (scope : Scope) (known : Registry → Prop) (registry : Registry)
    (name next : String) : Prop
  | byValue {descriptor : Descriptor} :
    scope.modelClass.attribute? name = some (.hybrid descriptor) →
      .byValue next ∈ descriptor.body.leaves scope → Uses scope known registry name next
  | byName {descriptor : Descriptor} {key : InstanceId} : scope.instance? = some key →
    scope.modelClass.attribute? name = some (.hybrid descriptor) →
      .byName next ∈ descriptor.body.leaves scope → Uses scope known registry name next
  | expression {descriptor : Descriptor} {term : Term} : scope.instance? = none →
    scope.modelClass.attribute? name = some (.hybrid descriptor) →
      scope.modelClass.Yields known descriptor.body term →
        next ∈ (registry.wrap term).dependencies → Uses scope known registry name next

/-- A closed chain of hybrids of a class, each of which uses the next one, and to which a name
leads. -/
structure ModelClass.Circle (modelClass : ModelClass) (uses : String → String → Prop)
    (root : String) (chain : List String) : Prop where
  long : 2 ≤ chain.length
  closed : chain.head? = chain.getLast?
  distinct : chain.dropLast.Nodup
  hybrids : ∀ name ∈ chain.dropLast, modelClass.isHybrid name = true
  linked : chain.IsChain uses
  reached : ∀ first ∈ chain.head?, ReflTransGen uses root first

/-- The names of the hybrids under evaluation while an attribute is read: each uses the next one,
the last one the attribute, and all of them are reached from a root. -/
structure ModelClass.Trail (modelClass : ModelClass) (uses : String → String → Prop) (root : String)
    (under : List String) (name : String) : Prop where
  distinct : under.Nodup
  hybrids : ∀ own ∈ under, modelClass.isHybrid own = true
  linked : (under ++ [name]).IsChain uses
  reached : ReflTransGen uses root name

namespace ModelClass.Trail

variable {modelClass : ModelClass} {uses : String → String → Prop} {root name next : String}
variable {under : List String}

theorem nil : modelClass.Trail uses name [] name :=
  ⟨List.nodup_nil, nofun, .singleton name, .refl⟩

theorem push (trail : modelClass.Trail uses root under name) (outside : name ∉ under)
    (hybrid : modelClass.isHybrid name = true) (used : uses name next) :
    modelClass.Trail uses root (under ++ [name]) next where
  distinct := trail.distinct.append (List.nodup_singleton name) (by simpa using outside)
  hybrids := List.forall_mem_append.mpr ⟨trail.hybrids, by simpa using hybrid⟩
  linked := by
    refine trail.linked.append (.singleton next) fun last isLast first isFirst => ?_
    rw [List.getLast?_concat, Option.mem_some_iff] at isLast
    rw [List.head?_cons, Option.mem_some_iff] at isFirst
    exact isLast ▸ isFirst ▸ used
  reached := trail.reached.tail used

private theorem exists_dropWhile_eq (again : name ∈ under) :
    ∃ rest, under.dropWhile (· ≠ name) = name :: rest := by
  induction under with
  | nil => cases again
  | cons first rest ih =>
    by_cases same : first = name
    · exact ⟨rest, by rw [List.dropWhile_cons_of_neg (by simpa using same), same]⟩
    · rw [List.dropWhile_cons_of_pos (by simpa using same)]
      exact ih ((List.mem_cons.mp again).resolve_left (Ne.symm same))

/-- The part of a trail from a name on that is read again is a circle. -/
theorem circle (trail : modelClass.Trail uses root under name) (again : name ∈ under) :
    modelClass.Circle uses root (under.dropWhile (· ≠ name) ++ [name]) := by
  obtain ⟨rest, begins⟩ := exists_dropWhile_eq again
  have suffix : under.dropWhile (· ≠ name) <:+ under := List.dropWhile_suffix _
  rw [begins] at suffix ⊢
  refine ⟨by simp, by rw [List.getLast?_concat]; rfl, ?_, ?_, ?_, ?_⟩
  · rw [List.dropLast_concat]
    exact trail.distinct.sublist suffix.sublist
  · rw [List.dropLast_concat]
    exact fun own member => trail.hybrids own (suffix.subset member)
  · obtain ⟨before, same⟩ := suffix
    exact trail.linked.suffix ⟨before, by rw [← List.append_assoc, same]⟩
  · rintro _ ⟨⟩
    exact trail.reached

end ModelClass.Trail

/-! ## Reads of the class -/

/-- A covered store is covered with its own registries and instances. -/
theorem Ledger.Keeps.restart {ledger : Ledger} {start store : Store} {stack : List Frame}
    (keeps : ledger.Keeps start stack store) : ledger.Keeps store stack store :=
  ⟨⟨keeps.covers.wrapper, keeps.covers.value, keeps.covers.resets, rfl, id⟩, keeps.building⟩

/-- The frames are of other classes. -/
def ModelClass.Absent (modelClass : ModelClass) (frames : List Frame) : Prop :=
  ∀ frame ∈ frames, frame.modelClass ≠ modelClass.id

namespace Setting

variable {setting : Setting} {target owner : ModelClass} {known : Registry → Prop}
variable {current store : Store} {stack : List Frame} {scope : Scope} {descriptor : Descriptor}
variable {name next : String} {error : HybridError}

/-- What is cached for hybrids of the class are expressions that they may have. -/
def expressed (setting : Setting) (target : ModelClass) (known : Registry → Prop) : Ledger :=
  .ofFamily setting.family
    (fun descriptor owner wrapper => owner = target.id →
      target.Expresses known descriptor wrapper.expression)
    (fun _ _ _ => True) (fun _ => True)

/-- The store has the registries of `current`, what is cached for the class is expressed, and these
hybrids are under evaluation. -/
abbrev KeepsExpressed (setting : Setting) (target : ModelClass) (known : Registry → Prop)
    (current : Store) (stack : List Frame) : Store → Prop :=
  (setting.expressed target known).Keeps current stack

theorem expressed_wrapper (family : setting.family target)
    (declared : target.attribute? name = some (.hybrid descriptor)) {wrapper : Wrapper} :
    (setting.expressed target known).wrapper descriptor.id target.id wrapper ↔
      target.Expresses known descriptor wrapper.expression := by
  refine (Ledger.ofFamily_wrapper setting.descriptors
    (Descriptor.in_of_attribute? family declared)).trans ?_
  exact ⟨fun expresses => expresses rfl, fun expresses _ => expresses⟩

/-- The direct reads in a scope, with the registry that a store has for its class. -/
abbrev uses (current : Store) (scope : Scope) (known : Registry → Prop) : String → String → Prop :=
  scope.Uses known (current.registry scope.modelClass.registry)

/-- If hybrids of the scope that lead to the attribute are under evaluation, and below them only
hybrids of other classes, then an error of a cycle names a circle that they lead to. -/
def Reports (current : Store) (known : Registry → Prop) (scope : Scope) (stack : List Frame)
    (name : String) (error : HybridError) : Prop :=
  ∀ className chain, error = .cyclicDependency className chain → ∀ root outer under,
    stack = outer ++ under.map (Frame.mk scope.modelClass.id scope.instance?) →
      scope.modelClass.Absent outer →
        scope.modelClass.Trail (uses current scope known) root under name →
          className = scope.modelClass.name ∧
            scope.modelClass.Circle (uses current scope known) root chain

/-- What is reported of a hybrid that is read inside another is reported of the other. -/
theorem Reports.of_nested (scope : Scope)
    (declared : scope.modelClass.attribute? name = some (.hybrid descriptor))
    (outside : ⟨scope.modelClass.id, scope.instance?, name⟩ ∉ stack)
    (used : uses current scope known name next)
    (reports : Reports current known scope
      (stack ++ [⟨scope.modelClass.id, scope.instance?, name⟩]) next error) :
    Reports current known scope stack name error := by
  rintro className chain rfl root outer under rfl absent trail
  have entered : name ∉ under := fun member =>
    outside (List.mem_append_right _ (List.mem_map_of_mem member))
  have hybrid := ModelClass.isHybrid_iff.mpr ⟨descriptor, declared⟩
  exact reports className chain rfl root outer (under ++ [name]) (by simp) absent
    (trail.push entered hybrid used)

/-- A hybrid that is entered again closes a circle. -/
theorem Reports.of_entered (scope : Scope) {chain : List String} (building : store.building = stack)
    (entered : store.cycle? ⟨scope.modelClass.id, scope.instance?, name⟩ = some chain) :
    Reports current known scope stack name (.cyclicDependency scope.modelClass.name chain) := by
  rintro _ _ ⟨⟩ root outer under rfl absent trail
  rw [Store.cycle?_of_append building fun member => absent _ member rfl,
    Store.cycle?_of_building rfl, Option.ite_none_right_eq_some] at entered
  obtain ⟨again, same⟩ := entered
  exact ⟨rfl, Option.some.inj same ▸ trail.circle again⟩

/-- Reads of the family leave what is cached for the class expressed. Reads of the class itself
report circles. -/
structure ReadsReport (setting : Setting) (target : ModelClass) (known : Registry → Prop)
    (current : Store) (reads : Reads) : Prop where
  ofClass {owner : ModelClass} {name : String} {descriptor : Descriptor} :
    setting.family owner → owner.attribute? name = some (.hybrid descriptor) →
      ∀ stack store, setting.KeepsExpressed target known current stack store →
        (reads.ofClass owner descriptor).Ensures store fun outcome after =>
          (owner = target → Outcome
            (fun wrapper : Wrapper => target.Expresses known descriptor wrapper.expression)
            (Reports current known (.onClass target) stack name) outcome) ∧
          setting.KeepsExpressed target known current stack after
  ofInstance {owner : ModelClass} {name : String} {descriptor : Descriptor} :
    setting.family owner → owner.attribute? name = some (.hybrid descriptor) →
      ∀ key stack store, setting.KeepsExpressed target known current stack store →
        (reads.ofInstance owner key descriptor).Ensures store fun outcome after =>
          (owner = target → Outcome (fun _ => True)
            (Reports current known (.onInstance target key) stack name) outcome) ∧
          setting.KeepsExpressed target known current stack after

section Reads

variable {reads : Reads} (report : setting.ReadsReport target known current reads)

include report

theorem ReadsReport.preservesClass (family : setting.family owner)
    (declared : owner.attribute? name = some (.hybrid descriptor)) (stack : List Frame) :
    (reads.ofClass owner descriptor).Preserves
      (setting.KeepsExpressed target known current stack) :=
  fun store keeps =>
    (report.ofClass family declared stack store keeps).mono fun _ _ ended => ended.2

theorem ReadsReport.preservesInstance (family : setting.family owner)
    (declared : owner.attribute? name = some (.hybrid descriptor)) (key : InstanceId)
    (stack : List Frame) :
    (reads.ofInstance owner key descriptor).Preserves
      (setting.KeepsExpressed target known current stack) :=
  fun store keeps =>
    (report.ofInstance family declared key stack store keeps).mono fun _ _ ended => ended.2

/-- Functions of the family leave what is cached for the class expressed. -/
theorem ReadsReport.run (scope : Scope) (family : setting.family scope.modelClass) (body : Body)
    (stack : List Frame) :
    (body.run reads setting.directory scope).Preserves
      (setting.KeepsExpressed target known current stack) :=
  setting.run_preserves (fun _ => trivial)
    (fun _ _ _ family declared => report.preservesClass family declared stack)
    (fun _ key _ _ family declared => report.preservesInstance family declared key stack)
    scope family body

/-- Nothing is said of other classes. -/
theorem ReadsReport.readClass_other (family : setting.family target)
    (familyOwner : setting.family owner) (other : owner ≠ target) (stack : List Frame) :
    (descriptor.readClass reads setting.directory owner).Preserves
      (setting.KeepsExpressed target known current stack) := by
  refine Descriptor.readClass_anything (fun wrapper _ _ _ same => ?_)
    (report.run (.onClass owner) familyOwner descriptor.body)
    (fun _ _ declared => report.preservesClass familyOwner declared) stack
  exact absurd (setting.classes owner target familyOwner family same) other

/-- Nothing is said of values. -/
theorem ReadsReport.readInstance_other (familyOwner : setting.family owner) (key : InstanceId)
    (stack : List Frame) :
    (descriptor.readInstance reads setting.directory owner key).Preserves
      (setting.KeepsExpressed target known current stack) :=
  Descriptor.readInstance_anything (fun _ _ _ _ => trivial)
    (report.run (.onInstance owner key) familyOwner descriptor.body) stack

section Target

variable (family : setting.family target)
variable (declared : target.attribute? name = some (.hybrid descriptor))

include family declared

/-- A leaf of a function of the class yields what it says and reports what it reads. -/
theorem ReadsReport.leaf_onClass (outside : ⟨target.id, none, name⟩ ∉ stack) {leaf : Body}
    (basic : leaf.IsBasic) (member : leaf ∈ descriptor.body.leaves (.onClass target))
    (keeps : setting.KeepsExpressed target known current
      (stack ++ [⟨target.id, none, name⟩]) store) :
    (leaf.run reads setting.directory (.onClass target)).Ensures store
      (Body.Passes
        (setting.KeepsExpressed target known current (stack ++ [⟨target.id, none, name⟩]))
        (fun body => Outcome (target.Yields known body)
          (Reports current known (.onClass target) stack name)) leaf) := by
  cases basic with
  | expression expr => rw [Body.run]; exact ⟨.expression expr, keeps⟩
  | reference next => rw [Body.run]; exact ⟨.reference next, keeps⟩
  | read isRead =>
    cases isRead with
    | constant value => rw [Body.run]; exact ⟨.constant value, keeps⟩
    | byName next => rw [Body.run]; exact ⟨.byName next, keeps⟩
    | byValue next =>
      rw [Body.run]
      unfold Reads.byValue
      dsimp only
      cases found : target.attribute? next with
      | none => exact ⟨fun _ _ same => (by cases same), keeps⟩
      | some kind =>
        cases kind with
        | field => exact ⟨.field found, keeps⟩
        | hybrid sibling =>
          refine Action.ensures_bind_pure.mpr ((report.ofClass family found _ store keeps).mono
            fun outcome after ⟨read, ended⟩ => ⟨Outcome.map_iff.mpr ((read rfl).imp ?_ ?_), ended⟩)
          · exact fun wrapper expresses => expresses.yields found
          · exact fun error => .of_nested (.onClass target) declared outside
              (.byValue declared member)

/-- A leaf of a function of the class reports what it reads on an instance. -/
theorem ReadsReport.leaf_onInstance {key : InstanceId}
    (outside : ⟨target.id, some key, name⟩ ∉ stack) {leaf : Body} (basic : leaf.IsBasic)
    (member : leaf ∈ descriptor.body.leaves (.onInstance target key))
    (keeps : setting.KeepsExpressed target known current
      (stack ++ [⟨target.id, some key, name⟩]) store) :
    (leaf.run reads setting.directory (.onInstance target key)).Ensures store
      (Body.Keeps
        (setting.KeepsExpressed target known current (stack ++ [⟨target.id, some key, name⟩]))
        (fun _ => True) (Reports current known (.onInstance target key) stack name)) := by
  have read {next : String} (used : uses current (.onInstance target key) known name next) :
      (do return (← reads.attributeOf target key next).content : Action Term).Ensures store
        (Body.Keeps
          (setting.KeepsExpressed target known current (stack ++ [⟨target.id, some key, name⟩]))
          (fun _ => True) (Reports current known (.onInstance target key) stack name)) := by
    refine Action.ensures_bind_pure.mpr (Reads.attributeOf_keeps
      (Outcome (fun _ => True) (Reports current known (.onInstance target key) stack name)) keeps
      (fun _ => trivial) (fun _ _ => nofun) (fun _ _ => nofun) fun sibling found => ?_)
    refine (report.ofInstance family found key _ store keeps).mono
      fun outcome after ⟨reports, ended⟩ => ⟨Outcome.map_iff.mpr ?_, ended⟩
    exact (reports rfl).imp (fun _ => id) fun error =>
      .of_nested (.onInstance target key) declared outside used
  cases basic with
  | expression expr => rw [Body.run]; exact ⟨trivial, keeps⟩
  | reference next => rw [Body.run]; exact ⟨trivial, keeps⟩
  | read isRead =>
    cases isRead with
    | constant value => rw [Body.run]; exact ⟨trivial, keeps⟩
    | byName next => rw [Body.run]; exact read (.byName rfl declared member)
    | byValue next => rw [Body.run]; exact read (.byValue declared member)

variable (composed : Body.Composed descriptor.body)

include composed

/-- Building the wrapper of a hybrid of the class gives its expression or reports a circle. -/
theorem ReadsReport.buildWrapper (knows : known (current.registry target.registry))
    (outside : ⟨target.id, none, name⟩ ∉ stack)
    (keeps : setting.KeepsExpressed target known current
      (stack ++ [⟨target.id, none, name⟩]) store) :
    (descriptor.buildWrapper reads setting.directory target).Ensures store fun outcome after =>
      Outcome (fun wrapper : Wrapper => target.Expresses known descriptor wrapper.expression)
          (Reports current known (.onClass target) stack name) outcome ∧
        setting.KeepsExpressed target known current (stack ++ [⟨target.id, none, name⟩]) after := by
  refine Descriptor.buildWrapper_keeps _ (target.Yields known descriptor.body) keeps
    (fun _ => (expressed_wrapper family declared).mp) ?runs ?resolves
  case runs =>
    refine (composed.restrict (fun _ basic => basic) (.onClass target)).run_passes
      (ModelClass.Yields.verdicts fun _ _ _ => nofun) fun leaf isLeaf store keeps => ?_
    exact report.leaf_onClass family declared outside isLeaf.1 isLeaf.2 keeps
  case resolves =>
    rintro term yields wrapped rfl store keeps
    have siblings : ∀ next ∈ ((current.registry target.registry).wrap term).dependencies,
        ∀ sibling, target.attribute? next = some (.hybrid sibling) → ∀ store,
          setting.KeepsExpressed target known current (stack ++ [⟨target.id, none, name⟩]) store →
            (reads.ofClass target sibling).Ensures store (Body.Keeps
              (setting.KeepsExpressed target known current (stack ++ [⟨target.id, none, name⟩]))
              (fun _ => True) (Reports current known (.onClass target) stack name)) := by
      intro next depends sibling found store keeps
      refine (report.ofClass family found _ store keeps).mono
        fun outcome after ⟨read, ended⟩ => ⟨(read rfl).imp (fun _ _ => trivial) ?_, ended⟩
      exact fun error => .of_nested (.onClass target) declared outside
        (.expression rfl declared yields depends)
    refine (Reads.resolve_keeps siblings (fun _ _ _ => nofun) store keeps).mono
      fun outcome after ⟨expected, ended⟩ => ⟨expected.imp ?_ fun _ => id, ended⟩
    exact fun dependencies _ stamp =>
      (expressed_wrapper family declared).mpr ⟨_, term, knows, yields, rfl⟩

/-- Reading a hybrid of the class reports circles of the class. -/
theorem ReadsReport.readClass (own : descriptor.name = name)
    (knows : known (current.registry target.registry))
    (keeps : setting.KeepsExpressed target known current stack store) :
    (descriptor.readClass reads setting.directory target).Ensures store fun outcome after =>
      Outcome (fun wrapper : Wrapper => target.Expresses known descriptor wrapper.expression)
          (Reports current known (.onClass target) stack name) outcome ∧
        setting.KeepsExpressed target known current stack after := by
  subst own
  refine Descriptor.readClass_keeps _ keeps (fun _ => (expressed_wrapper family declared).mp)
    (fun chain entered => Reports.of_entered (.onClass target) keeps.building entered) ?_
  exact fun outside store keeps =>
    report.buildWrapper family declared composed knows outside keeps

/-- Reading a hybrid on an instance of the class reports circles of the class and the instance. -/
theorem ReadsReport.readInstance {key : InstanceId} (own : descriptor.name = name)
    (keeps : setting.KeepsExpressed target known current stack store) :
    (descriptor.readInstance reads setting.directory target key).Ensures store fun outcome after =>
      Outcome (fun _ => True) (Reports current known (.onInstance target key) stack name) outcome ∧
        setting.KeepsExpressed target known current stack after := by
  subst own
  refine (Descriptor.readInstance_keeps
    (Outcome (fun _ => True) (Reports current known (.onInstance target key) stack descriptor.name))
    keeps (fun _ _ => trivial)
    (fun chain entered => Reports.of_entered (.onInstance target key) keeps.building entered)
    fun outside store keeps => ?_).mono fun _ _ ended => ⟨Outcome.map_iff.mp ended.1, ended.2⟩
  refine (Body.run_keeps Term.closed_true (fun _ _ _ => nofun) descriptor.body
    (fun leaf member _ store keeps => ?_) store keeps).mono
    fun outcome after ⟨expected, ended⟩ => ⟨⟨expected, fun _ _ _ _ _ => trivial⟩, ended⟩
  have basic : leaf.IsBasic := composed.of_leaf (fun _ basic => basic) member
  exact report.leaf_onInstance family declared outside basic member keeps

end Target

end Reads

section Classes

variable (family : setting.family target) (composed : target.IsComposedOf Body.IsBasic)
variable (own : target.OwnNames)

include family composed own

/-- All reads of the family report circles of the class, with whatever room. -/
theorem readsReport (knows : known (current.registry target.registry)) (room : Nat) :
    setting.ReadsReport target known current (setting.directory.readsWithin room) := by
  induction room with
  | zero =>
    constructor
    · exact fun _ _ stack store keeps => ⟨fun _ _ _ => nofun, keeps⟩
    · exact fun _ _ key stack store keeps => ⟨fun _ _ _ => nofun, keeps⟩
  | succ room report =>
    constructor
    · intro owner name descriptor familyOwner declared stack store keeps
      by_cases same : owner = target
      · subst same
        exact (report.readClass family declared (composed name descriptor declared)
          (own name descriptor declared) knows keeps).mono
            fun _ _ ended => ⟨fun _ => ended.1, ended.2⟩
      · exact (report.readClass_other family familyOwner same stack store keeps).mono
          fun _ _ ended => ⟨fun again => absurd again same, ended⟩
    · intro owner name descriptor familyOwner declared key stack store keeps
      by_cases same : owner = target
      · subst same
        exact (report.readInstance family declared (composed name descriptor declared)
          (own name descriptor declared) keeps).mono
            fun _ _ ended => ⟨fun _ => ended.1, ended.2⟩
      · exact (report.readInstance_other familyOwner key stack store keeps).mono
          fun _ _ ended => ⟨fun again => absurd again same, ended⟩

/-- Reading an attribute of the class reports circles. -/
theorem read_reports {scope : Scope} (same : scope.modelClass = target)
    (knows : known (current.registry target.registry)) (name : String)
    (keeps : setting.KeepsExpressed target known current stack store) :
    ((Reading.mk scope name).read setting.directory).Ensures store
      (Body.Keeps (setting.KeepsExpressed target known current stack) (fun _ => True)
        (Reports current known scope stack name)) := by
  have report := readsReport family composed own knows
  cases scope with
  | onClass modelClass =>
    obtain rfl := same
    refine Action.ensures_bind_pure.mpr (Reads.hybridOf_keeps
      (Outcome (fun _ => True) (Reports current known (.onClass modelClass) stack name)) keeps
      (fun _ _ => nofun) (fun _ _ => nofun) fun descriptor declared => ?_)
    exact ((report _).ofClass family declared stack store keeps).mono fun _ _ ⟨reports, ended⟩ =>
      ⟨Outcome.map_iff.mpr ((reports rfl).imp (fun _ _ => trivial) fun _ => id), ended⟩
  | onInstance modelClass key =>
    obtain rfl := same
    refine Action.ensures_bind_pure.mpr (Reads.attributeOf_keeps
      (Outcome (fun _ => True) (Reports current known (.onInstance modelClass key) stack name))
      keeps (fun _ => trivial) (fun _ _ => nofun) (fun _ _ => nofun) fun descriptor declared => ?_)
    exact ((report _).ofInstance family declared key stack store keeps).mono
      fun _ _ ⟨reports, ended⟩ => ⟨Outcome.map_iff.mpr (reports rfl), ended⟩

end Classes

/-! ## Reads from any state -/

/-- The states that reads are made in, with each read made while the class has a known registry. In
between anything may happen that caches no wrapper for the class and leaves none of its hybrids
under evaluation: functions of other classes run, hybrids are reset, instances come, change and die,
and registries change. -/
inductive Visits (setting : Setting) (target : ModelClass) (known : Registry → Prop) : Store → Prop
  | start : Visits setting target known setting.start
  | access {store : Store} (access : Access) : Visits setting target known store →
    access.Within setting.family → known (store.registry target.registry) →
      Visits setting target known (access.perform setting.directory store)
  | change {before after : Store} : Visits setting target known before →
    target.Absent after.building →
      (∀ hybrid wrapper, after.wrapper? hybrid target.id = some wrapper →
        before.wrapper? hybrid target.id = some wrapper) → Visits setting target known after

section Visits

variable (family : setting.family target) (composed : target.IsComposedOf Body.IsBasic)
variable (own : target.OwnNames)

include family composed own

/-- An access leaves what is cached for the class expressed. -/
theorem access_keeps {access : Access} (within : access.Within setting.family)
    (knows : known (current.registry target.registry))
    (keeps : setting.KeepsExpressed target known current stack store) :
    setting.KeepsExpressed target known current stack (access.perform setting.directory store) := by
  have report := readsReport family composed own knows
  have all : ∀ other ∈ [access], other.Within setting.family := by simpa using within
  exact keeps.after (fun _ => trivial)
    (fun owner name familyOwner => Reads.hybridOf_preserves fun _ declared =>
      (report _).preservesClass familyOwner declared stack)
    (fun owner key name familyOwner => Reads.attributeOf_preserves (fun _ _ => Ledger.Keeps.quiet)
      fun _ declared => (report _).preservesInstance familyOwner declared key stack)
    all

/-- In every state none of the hybrids of the class is under evaluation, and what is cached for the
class is expressed. -/
theorem Visits.keeps (visits : setting.Visits target known store) :
    target.Absent store.building ∧
      setting.KeepsExpressed target known store store.building store := by
  induction visits with
  | start =>
    have blank : setting.KeepsExpressed target known setting.start [] setting.start :=
      .ofBlank setting.blank trivial
    rw [setting.blank.building]
    exact ⟨nofun, blank⟩
  | access access _ within knows ih =>
    obtain ⟨absent, keeps⟩ := ih
    have ended := access_keeps family composed own within knows keeps
    rw [ended.building]
    exact ⟨absent, ended.restart⟩
  | change _ absent cached ih =>
    refine ⟨absent, ⟨fun held descriptor member same owner => ?_, fun _ _ _ _ => trivial, trivial,
      rfl, id⟩, rfl⟩
    subst owner
    exact ih.2.covers.wrapper (cached _ _ held) descriptor member same rfl

end Visits

/-- A cycle that a read reports is one. On a class whose hybrids are declared under their own names,
with functions of constants, reads of the scope and operations on terms, from every state that reads
are made in: the error names the class, and its chain is closed and names different hybrids of the
class, each of which reads the next one directly in the scope of the read; the attribute that was
read leads to them. -/
theorem cyclicDependency_circle {reading : Reading} {className : String} {chain : List String}
    (family : setting.family reading.scope.modelClass)
    (composed : reading.scope.modelClass.IsComposedOf Body.IsBasic)
    (own : reading.scope.modelClass.OwnNames)
    (visits : setting.Visits reading.scope.modelClass known store)
    (knows : known (store.registry reading.scope.modelClass.registry))
    (fails : ((reading.read setting.directory).run store).1 =
      .error (.cyclicDependency className chain)) :
    className = reading.scope.modelClass.name ∧
      reading.scope.modelClass.Circle
        (reading.scope.Uses known (store.registry reading.scope.modelClass.registry))
        reading.name chain := by
  obtain ⟨absent, keeps⟩ := visits.keeps family composed own
  obtain ⟨reported, -⟩ := read_reports family composed own rfl knows reading.name keeps
  rw [fails] at reported
  exact reported className chain rfl reading.name store.building [] (by simp) absent .nil

end Setting

end Hybrid

namespace Hybrid.Carousel

/-- The gross price and one more. -/
def total : Descriptor :=
  ⟨⟨1⟩, "total", .combine .add (.byValue "gross") (.constant (.int 1))⟩

/-- The net price by name. -/
def gross : Descriptor :=
  ⟨⟨2⟩, "gross", .combine .mul (.byName "net") (.constant (.int 2))⟩

/-- The gross price by value. -/
def net : Descriptor :=
  ⟨⟨3⟩, "net", .negate (.byValue "gross")⟩

/-- The gross and the net price refer to each other, the one by its expression and the other by its
function. -/
def price : ModelClass where
  id := ⟨1⟩
  name := "Price"
  attributes := [("total", .hybrid total), ("gross", .hybrid gross), ("net", .hybrid net)]
  registry := Store.sharedRegistry

private theorem hybrids_price :
    price.hybrids = [("total", total), ("gross", gross), ("net", net)] := rfl

def setting : Setting where
  family modelClass := modelClass = price
  directory := ⟨.empty, .empty, .empty⟩
  start := Store.initial
  listed _ _ found := nomatch found
  classes := by
    rintro _ _ rfl rfl _
    rfl
  descriptors := by
    refine .ofList [total, gross, net] ?_ (by simp [total, gross, net])
    rintro _ rfl
    simp [hybrids_price]
  blank := .ofEmpty rfl rfl rfl _

def onTotal : Reading := ⟨.onClass price, "total"⟩

private theorem composed_price : price.IsComposedOf Body.IsBasic := by
  have constant {number : Int64} : Body.Composed (.constant (.int number)) :=
    .leaf (.read (.constant _))
  have byName {name : String} : Body.Composed (.byName name) := .leaf (.read (.byName name))
  have byValue {name : String} : Body.Composed (.byValue name) := .leaf (.read (.byValue name))
  apply ModelClass.IsComposedOf.ofHybrids
  simp only [hybrids_price, List.forall_mem_cons, List.not_mem_nil, IsEmpty.forall_iff,
    implies_true, and_true]
  exact ⟨.combine .add byValue constant, .combine .mul byName constant, .negate byValue⟩

private theorem ownNames_price : price.OwnNames :=
  .ofHybrids (by simp [hybrids_price, total, gross, net])

/-- A read of the net price has failed, and the total was reset. -/
def store : Store :=
  Store.initial.after setting.directory [.ofClass price "net", .reset total]

private theorem visits_store : setting.Visits price (· = .standard) store := by
  have family : (Access.ofClass price "net").Within setting.family := (rfl : price = price)
  exact .access (.reset total) (.access _ .start family rfl) trivial (by cbv)

private theorem read_total :
    ((onTotal.read setting.directory).run store).1 =
      .error (.cyclicDependency "Price" ["gross", "net", "gross"]) := by
  cbv

/-- The total leads to the circle of the gross and the net price. -/
theorem circle_total :
    setting.family price ∧ price.IsComposedOf Body.IsBasic ∧ price.OwnNames ∧
      setting.Visits price (· = .standard) store ∧
      store.registry price.registry = .standard ∧
      ((onTotal.read setting.directory).run store).1 =
        .error (.cyclicDependency "Price" ["gross", "net", "gross"]) ∧
      price.Circle (onTotal.scope.Uses (· = .standard) .standard) "total"
        ["gross", "net", "gross"] := by
  have standard : store.registry price.registry = .standard := by cbv
  have family : setting.family onTotal.scope.modelClass := rfl
  obtain ⟨-, circle⟩ := @Setting.cyclicDependency_circle setting _ store onTotal _ _ family
    composed_price ownNames_price visits_store standard read_total
  exact ⟨family, composed_price, ownNames_price, visits_store, standard, read_total,
    standard ▸ circle⟩

end Hybrid.Carousel
