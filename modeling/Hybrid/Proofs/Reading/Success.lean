import Hybrid.Proofs.Reading.Descent
import Hybrid.Proofs.Reading.Independence
import Hybrid.Proofs.Reading.Stability

/-! # When class reads succeed

A hybrid can be read on a class exactly if it leads to no cycle, the functions of all hybrids that
it leads to give expressions where their siblings have the expressions that they give, and these
expressions refer to nothing but attributes. What is read has the expression that the function
gives, and depends on the hybrids that the expression refers to, with the wrappers that reading
them returns.
-/

namespace Hybrid

open Relation

/-- Reads on a class where hybrids of these names have these expressions. -/
def Reads.given (expressions : String → Term) : Reads where
  ofClass modelClass descriptor :=
    pure (.mk 0 (expressions descriptor.name) descriptor.name modelClass.id modelClass.name [])
  ofInstance _ _ _ := throw .exhausted

namespace ModelClass

variable {modelClass : ModelClass} {descriptor : Descriptor} {wrapper : Wrapper} {name : String}
variable {expressions : String → Term} {directory : Directory} {store : Store}

/-- The hybrids that an attribute leads to have these expressions: each is what the function gives
where siblings have their expressions, and it refers to attributes only. -/
def Expressed (modelClass : ModelClass) (directory : Directory) (store : Store) (name : String)
    (expressions : String → Term) : Prop :=
  ∀ other sibling, ReflTransGen modelClass.Mentions name other →
    modelClass.attribute? other = some (.hybrid sibling) →
      ((sibling.call (.given expressions) directory (.onClass modelClass)).run store).1 =
          .ok (expressions other) ∧
        ∀ field ∈ (expressions other).fieldReferences, modelClass.attribute? field ≠ none

/-- What siblings are built as that have these expressions. -/
private def withExpressions (modelClass : ModelClass) (expressions : String → Term)
    (sibling : Descriptor) : Except HybridError Wrapper :=
  .ok (.mk 0 (expressions sibling.name) sibling.name modelClass.id modelClass.name [])

/-- A function called with the expressions of its siblings answers from them. -/
private theorem call_given (body : Body.Composed descriptor.body) (store : Store) :
    ((descriptor.call (.given expressions) directory (.onClass modelClass)).run store).1 =
      descriptor.body.answer named (modelClass.valuedBy (modelClass.withExpressions expressions)) := by
  have ran : (descriptor.call (.given expressions) directory (.onClass modelClass)).Ensures store
      fun outcome _ => descriptor.body.answer named
        (modelClass.valuedBy (modelClass.withExpressions expressions)) = outcome ∧ True := by
    refine Descriptor.ensures_call.mpr (body.run_answer ?_ _ trivial)
    intro name sibling _ _ store _
    exact ⟨rfl, trivial⟩
  exact ran.1.symm

/-- What a built hybrid leads to has the expressions of its wrappers. -/
theorem Builds.exists_expressed (composed : modelClass.IsComposedOf Body.IsBasic)
    (own : modelClass.OwnNames) (builds : modelClass.Builds descriptor wrapper)
    (declared : modelClass.attribute? name = some (.hybrid descriptor)) (directory : Directory)
    (store : Store) : ∃ expressions, modelClass.Expressed directory store name expressions := by
  obtain ⟨wrappers, chosen⟩ := modelClass.exists_wrappers
  refine ⟨fun other => (wrappers other).expression, fun other sibling reached found => ?_⟩
  have body := composed other sibling found
  obtain ⟨built, buildsSibling⟩ := builds.reached composed declared reached found
  have same := ((chosen other sibling built found buildsSibling).unique composed body buildsSibling).1
  obtain ⟨stamp, values, valuesBuilt, answers, known, hybrids, siblings⟩ := buildsSibling
  -- The function answers over the wrappers of its own build, and these have the same expressions.
  dsimp only
  rw [call_given body, same]
  refine ⟨answer_valuedBy body (fun field value member foundValue => ⟨_, rfl, ?_⟩) answers, known⟩
  have buildsValue := valuesBuilt field value member foundValue
  have chosenValue := chosen field value _ foundValue buildsValue
  rw [← own field value foundValue] at chosenValue buildsValue ⊢
  exact (chosenValue.unique composed (composed field value foundValue) buildsValue).1

/-- What has an expression and leads to no cycle is constructed. -/
theorem Expressed.construct (composed : modelClass.IsComposedOf Body.IsBasic)
    (own : modelClass.OwnNames) (acyclic : ¬ modelClass.Circular name)
    (expressed : modelClass.Expressed directory store name expressions) (room : Nat) :
    ∀ under other sibling, ReflTransGen modelClass.Mentions name other →
      modelClass.attribute? other = some (.hybrid sibling) → modelClass.Under under other →
        modelClass.hybrids.length < room + under.length →
          ∃ wrapper, modelClass.construct room under sibling = .ok wrapper ∧
            wrapper.expression = expressions other := by
  induction room with
  | zero =>
    intro under other sibling _ _ holds ample
    have bound := holds.length_le
    omega
  | succ room ih =>
    intro under other sibling reached found holds ample
    obtain rfl : sibling.name = other := own other sibling found
    have body := composed _ sibling found
    have outside : sibling.name ∉ under := by
      refine holds.not_mem ?_
      rintro ⟨last, further, cycle⟩
      exact acyclic ⟨last, reached.trans further, cycle⟩
    -- Every hybrid that this one leads to is constructed while this one is under evaluation.
    have siblings (next : String) (leads : TransGen modelClass.Mentions sibling.name next)
        (descriptor : Descriptor) (declared : modelClass.attribute? next = some (.hybrid descriptor)) :
        ∃ wrapper, modelClass.construct room (under ++ [sibling.name]) descriptor = .ok wrapper ∧
          wrapper.expression = expressions next := by
      have ampleNext : modelClass.hybrids.length < room + (under ++ [sibling.name]).length := by
        rw [List.length_append, List.length_singleton]
        omega
      exact ih _ next descriptor (reached.trans leads.to_reflTransGen) declared
        (holds.push outside leads) ampleNext
    obtain ⟨given, known⟩ := expressed _ sibling reached found
    rw [call_given body] at given
    have answered : sibling.body.answer named (modelClass.valuedBy
        (modelClass.construct room (under ++ [sibling.name]))) = .ok (expressions sibling.name) := by
      refine Body.answer_mono_values (.onClass modelClass) body (fun field part member value => ?_) given
      refine valuedBy_eq_ok.mpr ((valuedBy_eq_ok.mp value).imp_right ?_)
      rintro ⟨descriptor, wrapper, declared, built, rfl⟩
      have mentions : modelClass.Mentions sibling.name field :=
        ⟨sibling, _, found, member, List.mem_singleton_self field⟩
      obtain ⟨constructed, constructs, same⟩ := siblings field (.single mentions) descriptor declared
      refine ⟨descriptor, constructed, declared, constructs, ?_⟩
      rw [same, ← Except.ok.inj built, ← own field descriptor declared]
      rfl
    obtain ⟨dependencies, resolved⟩ := exists_dependenciesOf sibling.name known fun next wanted _ declared =>
      (siblings next (transGen_of_answer composed found answered (Term.mem_fieldReferences.mp wanted))
        _ declared).imp fun _ => And.left
    exact ⟨_, construct_eq_ok.mpr ⟨outside, _, dependencies, answered, resolved, rfl⟩, rfl⟩

/-- A hybrid is built exactly if it leads to no cycle and what it leads to has expressions. -/
theorem exists_construct_iff (composed : modelClass.IsComposedOf Body.IsBasic)
    (own : modelClass.OwnNames) (declared : modelClass.attribute? name = some (.hybrid descriptor))
    (directory : Directory) (store : Store) {room : Nat} (ample : modelClass.hybrids.length < room) :
    (∃ wrapper, modelClass.construct room [] descriptor = .ok wrapper) ↔
      ¬ modelClass.Circular name ∧
        ∃ expressions, modelClass.Expressed directory store name expressions := by
  constructor
  · rintro ⟨wrapper, constructed⟩
    have builds := builds_of_construct composed declared constructed
    exact ⟨builds.not_circular composed declared,
      builds.exists_expressed composed own declared directory store⟩
  · rintro ⟨acyclic, expressions, expressed⟩
    obtain ⟨wrapper, constructed, -⟩ :=
      expressed.construct composed own acyclic room [] name descriptor .refl declared .nil ample
    exact ⟨wrapper, constructed⟩

end ModelClass

/-- Whether an access reads something, rather than to reset it. -/
def Access.IsRead : Access → Prop
  | ofClass _ _ => True
  | ofInstance _ _ _ => True
  | reset _ => False
  | resetClass _ => False

namespace Setting

variable {setting : Setting} {modelClass : ModelClass} {descriptor : Descriptor} {name : String}
variable {history : List Access} {store : Store}

section Family

variable (composed : ∀ modelClass, setting.family modelClass → modelClass.IsComposedOf Body.IsBasic)

include composed

/-- A read makes the store grow by what the family gives. -/
theorem perform_grows (access : Access) (isRead : access.IsRead)
    (within : access.Within setting.family) (store : Store) :
    Grows setting.directory setting.Plays store (access.perform setting.directory store) := by
  have plays (scope : Scope) (after : Store) (family : setting.family scope.modelClass)
      (grows : Grows setting.directory scope.Siblings store after) :
      Grows setting.directory setting.Plays store after := by
    refine grows.impose ?_
    rintro _ sibling ⟨rfl, other, declared⟩ -
    exact ⟨family, Descriptor.in_of_attribute? family declared⟩
  cases access with
  | ofClass modelClass name =>
    have inPlay := inPlay_siblings composed (.onClass modelClass) within
    exact plays (.onClass modelClass) _ within
      ((inPlay.grow _).hybridOf fun descriptor declared => ⟨rfl, name, declared⟩)
  | ofInstance modelClass key name =>
    have inPlay := inPlay_siblings composed (.onInstance modelClass key) within
    exact plays (.onInstance modelClass key) _ within
      ((inPlay.grow _).attributeOf fun descriptor declared => ⟨rfl, name, declared⟩)
  | reset descriptor => exact isRead.elim
  | resetClass modelClass => exact isRead.elim

/-- After reads, every wrapper of the family depends on what its class has cached. -/
theorem linked_after (within : ∀ access ∈ history, access.Within setting.family)
    (reads : ∀ access ∈ history, access.IsRead) (linked : setting.Linked store) :
    setting.Linked (store.after setting.directory history) := by
  unfold Store.after
  induction history generalizing store with
  | nil => exact linked
  | cons access rest ih =>
    obtain ⟨withinFirst, withinRest⟩ := List.forall_mem_cons.mp within
    obtain ⟨isRead, readsRest⟩ := List.forall_mem_cons.mp reads
    exact ih withinRest readsRest (linked.grows (perform_grows composed access isRead withinFirst store))

/-- What a class read returned is cached after it. -/
theorem wrapper?_of_get (family : setting.family modelClass)
    (declared : modelClass.attribute? name = some (.hybrid descriptor)) {wrapper : Wrapper}
    {after : Store} (run : (modelClass.get setting.directory name).run store = (.ok wrapper, after)) :
    after.wrapper? descriptor.id modelClass.id = some wrapper := by
  have inPlay := inPlay_siblings composed (.onClass modelClass) family
  have playing : (Scope.onClass modelClass).Siblings (.onClass modelClass) descriptor :=
    ⟨rfl, name, declared⟩
  have ran : ((setting.directory.reads modelClass).ofClass modelClass descriptor).run store =
      (.ok wrapper, after) := by
    unfold ModelClass.get Reads.hybridOf at run
    rwa [declared] at run
  have read : ((setting.directory.reads modelClass).ofClass modelClass descriptor).Ensures store _ :=
    (inPlay.grow _).ofClass store playing
  unfold Action.Ensures at read
  rw [ran] at read
  exact read.2

variable (own : ∀ modelClass, setting.family modelClass → modelClass.OwnNames)
variable (standard : ∀ modelClass, setting.family modelClass →
  setting.start.registry modelClass.registry = .standard)

include own standard

/-- The function of a hybrid that can be read gives the expression of its wrappers. -/
private theorem call_answers (family : setting.family modelClass)
    (declared : modelClass.attribute? name = some (.hybrid descriptor)) {wrapper : Wrapper}
    (builds : modelClass.Builds descriptor wrapper)
    (keeps : setting.constructions.Keeps setting.start [] store) :
    ((descriptor.call (setting.directory.reads modelClass) setting.directory
      (.onClass modelClass)).run store).1 = .ok wrapper.expression := by
  have composedClass := composed modelClass family
  have ownClass := own modelClass family
  have ample := setting.directory.length_hybrids_lt_room modelClass
  have called : (descriptor.call (setting.directory.reads modelClass) setting.directory
      (.onClass modelClass)).Ensures store fun outcome after =>
        descriptor.body.answer ModelClass.named (modelClass.valuedBy
          (modelClass.construct (setting.directory.room modelClass) [])) = outcome ∧
            setting.constructions.Keeps setting.start [] after := by
    have counted : setting.constructions.Keeps setting.start [] (store.countRun descriptor.id) :=
      keeps.congr rfl rfl rfl rfl rfl rfl
    refine Descriptor.ensures_call.mpr ?_
    refine (composedClass name descriptor declared).run_answer ?_ _ counted
    intro other sibling _ found store keeps
    exact ModelClass.ofClass_construct (fun _ _ => constructions_wrapper family)
      (standard modelClass family) composedClass ownClass (setting.directory.room modelClass) other
      sibling [] found .nil ample store keeps
  obtain ⟨answered, -⟩ := called
  rw [← answered]
  obtain ⟨stamp, wrappers, values, answers, known, hybrids, siblings⟩ := builds
  refine ModelClass.answer_valuedBy (composedClass name descriptor declared) ?_ answers
  intro field sibling member found
  exact ⟨_, (values field sibling member found).construct composedClass ownClass field _ [] found
    .nil ample, Wrapper.expression_unstamped _⟩

/-- After any history, a class read of a hybrid gives what is constructed for it. -/
private theorem get_construct (within : ∀ access ∈ history, access.Within setting.family)
    (family : setting.family modelClass)
    (declared : modelClass.attribute? name = some (.hybrid descriptor)) :
    ((modelClass.get setting.directory name).run
        (setting.start.after setting.directory history)).1.map Wrapper.unstamped =
      modelClass.construct (setting.directory.room modelClass) [] descriptor := by
  have keeps := constructions_after composed own standard within
  obtain ⟨constructed, -⟩ := get_constructed composed own standard family name keeps
  rw [constructed, ModelClass.constructed, declared]

/-- After any history, a hybrid can be read exactly if it is constructed. -/
theorem exists_get_iff (within : ∀ access ∈ history, access.Within setting.family)
    (family : setting.family modelClass)
    (declared : modelClass.attribute? name = some (.hybrid descriptor)) :
    (∃ wrapper, ((modelClass.get setting.directory name).run
        (setting.start.after setting.directory history)).1 = .ok wrapper) ↔
      ∃ wrapper, modelClass.construct (setting.directory.room modelClass) [] descriptor =
        .ok wrapper := by
  rw [← get_construct composed own standard within family declared]
  cases ((modelClass.get setting.directory name).run
      (setting.start.after setting.directory history)).1 with
  | error error => exact ⟨nofun, nofun⟩
  | ok wrapper => exact ⟨fun _ => ⟨_, rfl⟩, fun _ => ⟨_, rfl⟩⟩

end Family

/-- After any reads of a family of classes, a hybrid can be read on a class exactly if it leads to
no cycle, and the hybrids that it leads to have expressions that refer to attributes only. The
wrapper then has the expression that the function of the hybrid gives. It depends on the hybrids that
the expression refers to, in order and each once, and has the wrappers of them that reading them
returns. -/
theorem get_succeeds
    (composed : ∀ modelClass, setting.family modelClass → modelClass.IsComposedOf Body.IsBasic)
    (own : ∀ modelClass, setting.family modelClass → modelClass.OwnNames)
    (standard : ∀ modelClass, setting.family modelClass →
      setting.start.registry modelClass.registry = .standard)
    (within : ∀ access ∈ history, access.Within setting.family)
    (reads : ∀ access ∈ history, access.IsRead)
    (reached : store = setting.start.after setting.directory history)
    (family : setting.family modelClass)
    (declared : modelClass.attribute? name = some (.hybrid descriptor)) :
    ((∃ wrapper, ((modelClass.get setting.directory name).run store).1 = .ok wrapper) ↔
      ¬ modelClass.Circular name ∧
        ∃ expressions, modelClass.Expressed setting.directory store name expressions) ∧
    ∀ wrapper after, (modelClass.get setting.directory name).run store = (.ok wrapper, after) →
      ((descriptor.call (setting.directory.reads modelClass) setting.directory
        (.onClass modelClass)).run store).1 = .ok wrapper.expression ∧
      wrapper.dependencies.map (·.1) =
        wrapper.expression.fieldReferences.filter modelClass.isHybrid ∧
      (wrapper.dependencies.map (·.1)).Nodup ∧
      ∀ dependency ∈ wrapper.dependencies,
        ((modelClass.get setting.directory dependency.1).run after).1 = .ok dependency.2 := by
  subst reached
  have composedClass := composed modelClass family
  constructor
  · have ample := setting.directory.length_hybrids_lt_room modelClass
    rw [exists_get_iff composed own standard within family declared]
    exact ModelClass.exists_construct_iff composedClass (own modelClass family) declared
      setting.directory _ ample
  · intro wrapper after run
    have constructed := get_construct composed own standard within family declared
    rw [run] at constructed
    have builds := ModelClass.builds_of_construct composedClass declared constructed.symm
    have names := builds.dependencies_names
    rw [Wrapper.expression_unstamped, Wrapper.dependencies_unstamped,
      Wrapper.unstampedDependencies_names] at names
    refine ⟨?call, names, ?once, ?paired⟩
    case call =>
      have keeps := constructions_after composed own standard within
      have called := call_answers composed own standard family declared builds keeps
      rwa [Wrapper.expression_unstamped] at called
    case once =>
      rw [names]
      exact wrapper.expression.nodup_fieldReferences.filter _
    case paired =>
      intro dependency member
      have linked := linked_after composed within reads setting.linked_start
      have grows := perform_grows composed (.ofClass modelClass name) trivial family
        (setting.start.after setting.directory history)
      have cached := wrapper?_of_get composed family declared run
      rw [Access.perform, run] at grows
      have held := linked.grows grows modelClass descriptor wrapper
        ⟨family, Descriptor.in_of_attribute? family declared⟩ cached dependency member
      exact held.get setting.directory

end Setting

end Hybrid

namespace Hybrid.Override

/-- The charge on the derived class once it was read on the base class. -/
def derivedCharge : Wrapper :=
  .mk 4 (.symbolic (.field "rate")) "charge" ⟨2⟩ "Derived"
    [("rate", .mk 3 (.native (.int 2)) "rate" ⟨2⟩ "Derived" [])]

/-- The store after the charge was read on the base class. -/
def charged : Store :=
  setting.start.after setting.directory [.ofClass base "charge"]

private theorem get_charge :
    ((derived.get setting.directory "charge").run charged).1 = .ok derivedCharge := by
  cbv

/-- The charge can be read on the derived class, leads to no cycle, and depends on the rate that is
then read on this class. -/
theorem get_succeeds_charge :
    ¬ derived.Circular "charge" ∧
      (∃ expressions, derived.Expressed setting.directory charged "charge" expressions) ∧
      ((charge.call (setting.directory.reads derived) setting.directory
        (.onClass derived)).run charged).1 = .ok derivedCharge.expression ∧
      ∀ dependency ∈ derivedCharge.dependencies,
        ((derived.get setting.directory dependency.1).run
          ((derived.get setting.directory "charge").run charged).2).1 = .ok dependency.2 := by
  have within : ∀ access ∈ [Access.ofClass base "charge"], access.Within setting.family := by
    simp [Access.Within, setting]
  have reads : ∀ access ∈ [Access.ofClass base "charge"], access.IsRead := by
    simp [Access.IsRead]
  have reached : charged = setting.start.after setting.directory [.ofClass base "charge"] := rfl
  have declared : derived.attribute? "charge" = some (.hybrid charge) := rfl
  obtain ⟨succeeds, gives⟩ :=
    Setting.get_succeeds composed ownNames standard within reads reached (.inr rfl) declared
  obtain ⟨acyclic, expressed⟩ := succeeds.mp ⟨derivedCharge, get_charge⟩
  obtain ⟨called, -, -, paired⟩ := gives derivedCharge _ (Prod.ext get_charge rfl)
  exact ⟨acyclic, expressed, called, paired⟩

end Hybrid.Override
