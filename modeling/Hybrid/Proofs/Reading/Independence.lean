import Hybrid.Proofs.Reading.Failure
import Hybrid.Proofs.Reading.Uncached

/-! # Class reads do not depend on what was read or reset before

Every wrapper that is ever cached for a class is built on it, whatever was read on the classes of a
family and on their instances, and whatever was reset in between. So a class read gives after any
history what is constructed for its attribute: it shows the same expression and the same
dependencies, or fails in the same way.
-/

namespace Hybrid.Setting

variable {setting : Setting} {modelClass : ModelClass} {name : String} {history : List Access}

/-- What is cached for a hybrid on a class is built, all stamps apart. -/
def constructions (setting : Setting) : Ledger :=
  .ofFamily setting.family
    (fun descriptor owner wrapper => ∀ modelClass, setting.family modelClass →
      modelClass.id = owner → modelClass.Builds descriptor wrapper.unstamped)
    (fun _ _ _ => True) fun _ => True

theorem constructions_wrapper (family : setting.family modelClass) {descriptor : Descriptor}
    (declared : modelClass.attribute? name = some (.hybrid descriptor)) (wrapper : Wrapper) :
    setting.constructions.wrapper descriptor.id modelClass.id wrapper ↔
      modelClass.Builds descriptor wrapper.unstamped := by
  have member := Descriptor.in_of_attribute? family declared
  refine (Ledger.ofFamily_wrapper setting.descriptors member).trans ?_
  constructor
  · exact fun each => each modelClass family rfl
  · intro builds other familyOther same
    rw [setting.classes other modelClass familyOther family same]
    exact builds

/-- What a class read shows after a history: the expression and all that it depends on, or the
error. -/
def shownAfter (setting : Setting) (history : List Access) (modelClass : ModelClass)
    (name : String) : Except HybridError (Term × List (ClassId × String × String × Term)) :=
  ((modelClass.get setting.directory name).run
    (setting.start.after setting.directory history)).1.map
      fun wrapper => (wrapper.expression, wrapper.listing)

section Family

variable (composed : ∀ modelClass, setting.family modelClass → modelClass.IsComposedOf Body.IsBasic)
variable (own : ∀ modelClass, setting.family modelClass → modelClass.OwnNames)
variable (standard : ∀ modelClass, setting.family modelClass →
  setting.start.registry modelClass.registry = .standard)

include composed

/-- Composed hybrids of a class only lead to each other. -/
theorem inPlay_siblings (scope : Scope) (family : setting.family scope.modelClass) :
    setting.directory.InPlay scope.Siblings := by
  refine scope.inPlay_siblings setting.directory (composed _ family) ?_
  rintro first second ⟨_, rfl, found⟩ ⟨_, rfl, foundSecond⟩ same
  exact setting.descriptors first second ⟨_, family, found⟩ ⟨_, family, foundSecond⟩ same

/-- Reads on instances cache no wrappers. -/
private theorem getFor_keeps (family : setting.family modelClass) (key : InstanceId) (name : String)
    {store : Store} (keeps : setting.constructions.Keeps setting.start [] store) :
    (modelClass.getFor setting.directory key name).Ensures store fun _ after =>
      setting.constructions.Keeps setting.start [] after := by
  have inPlay := inPlay_siblings composed (.onInstance modelClass key) family
  refine ((inPlay.grow _).attributeOf fun descriptor declared => ⟨rfl, name, declared⟩).mono ?_
  intro outcome after grows
  refine grows.keeps keeps (fun owner descriptor wrapper origin => ?_) fun _ _ _ _ _ _ => ?_
  · -- Whatever is read here is read on the instance, and no wrapper comes from there.
    obtain ⟨onClass, -⟩ := origin.inPlay
    cases onClass
  · exact fun _ _ _ => trivial

include own standard

/-- A class read gives what is constructed for the attribute. -/
theorem get_constructed (family : setting.family modelClass) (name : String) {store : Store}
    (keeps : setting.constructions.Keeps setting.start [] store) :
    (modelClass.get setting.directory name).Ensures store fun outcome after =>
      outcome.map Wrapper.unstamped =
          modelClass.constructed (setting.directory.room modelClass) name ∧
        setting.constructions.Keeps setting.start [] after := by
  refine ModelClass.get_constructed ?_ (standard modelClass family) (composed modelClass family)
    (own modelClass family) name keeps
  exact fun name descriptor declared => constructions_wrapper family declared

/-- After every history, all that is cached for classes is built. -/
theorem constructions_after (within : ∀ access ∈ history, access.Within setting.family) :
    setting.constructions.Keeps setting.start [] (setting.start.after setting.directory history) := by
  refine (Ledger.Keeps.ofBlank setting.blank trivial).after (fun _ => trivial) ?_ ?_ within
  · intro other name family store keeps
    exact (get_constructed composed own standard family name keeps).mono fun _ _ ended => ended.2
  · intro other key name family store keeps
    exact getFor_keeps composed family key name keeps

/-- After every history, a class read that succeeds returns what a hybrid of that name is built as. -/
theorem builds_of_get (within : ∀ access ∈ history, access.Within setting.family)
    (family : setting.family modelClass) {wrapper : Wrapper}
    (read : ((modelClass.get setting.directory name).run
      (setting.start.after setting.directory history)).1 = .ok wrapper) :
    ∃ descriptor, modelClass.attribute? name = some (.hybrid descriptor) ∧
      modelClass.Builds descriptor wrapper := by
  have keeps := constructions_after composed own standard within
  obtain ⟨constructed, -⟩ := get_constructed composed own standard family name keeps
  rw [read, ModelClass.constructed] at constructed
  cases declared : modelClass.attribute? name with
  | none =>
    rw [declared] at constructed
    cases constructed
  | some kind =>
    rw [declared] at constructed
    cases kind with
    | field => cases constructed
    | hybrid descriptor =>
      have builds := ModelClass.builds_of_construct (composed modelClass family) declared
        constructed.symm
      exact ⟨descriptor, rfl, builds.of_unstamped⟩

/-- After every history a class read shows what is constructed for its attribute. -/
theorem shownAfter_eq (within : ∀ access ∈ history, access.Within setting.family)
    (family : setting.family modelClass) (name : String) :
    setting.shownAfter history modelClass name =
      (modelClass.constructed (setting.directory.room modelClass) name).map
        fun wrapper => (wrapper.expression, wrapper.listing) := by
  have keeps := constructions_after composed own standard within
  obtain ⟨constructed, -⟩ := get_constructed composed own standard family name keeps
  unfold shownAfter
  rw [← constructed]
  cases ((modelClass.get setting.directory name).run
    (setting.start.after setting.directory history)).1 with
  | error error => rfl
  | ok wrapper =>
    simp only [Except.map, Wrapper.expression_unstamped, Wrapper.listing_unstamped]

/-- A class read shows the same after any two histories of reads and resets: the same expression and
list of dependencies, or the same error. -/
theorem shownAfter_independent {first second : List Access}
    (withinFirst : ∀ access ∈ first, access.Within setting.family)
    (withinSecond : ∀ access ∈ second, access.Within setting.family)
    (family : setting.family modelClass) (name : String) :
    setting.shownAfter first modelClass name = setting.shownAfter second modelClass name := by
  rw [shownAfter_eq composed own standard withinFirst family,
    shownAfter_eq composed own standard withinSecond family]

end Family

end Hybrid.Setting

namespace Hybrid.Override

theorem ownNames : ∀ modelClass, setting.family modelClass → modelClass.OwnNames := by
  rintro _ (rfl | rfl)
  · have hybrids : base.hybrids = [("rate", ofBase), ("charge", charge)] := rfl
    refine .ofHybrids ?_
    simp [hybrids, ofBase, charge]
  · have hybrids : derived.hybrids = [("rate", ofDerived), ("charge", charge)] := rfl
    refine .ofHybrids ?_
    simp [hybrids, ofDerived, charge]

theorem standard : ∀ modelClass, setting.family modelClass →
    setting.start.registry modelClass.registry = .standard := by
  rintro _ (rfl | rfl) <;> rfl

/-- The base class shows its charge with its own rate, at first and after the rate was reset. -/
theorem shownAfter_charge :
    setting.shownAfter [.ofClass base "charge", .ofInstance derived ⟨1⟩ "charge", .reset ofBase]
        base "charge" =
      .ok (.symbolic (.field "rate"), [(⟨1⟩, "Base", "charge", .symbolic (.field "rate")),
        (⟨1⟩, "Base", "rate", .native (.int 1))]) := by
  have first : setting.shownAfter [] base "charge" =
      .ok (.symbolic (.field "rate"), [(⟨1⟩, "Base", "charge", .symbolic (.field "rate")),
        (⟨1⟩, "Base", "rate", .native (.int 1))]) := by
    cbv
  have within : ∀ access ∈ [Access.ofClass base "charge", .ofInstance derived ⟨1⟩ "charge",
      .reset ofBase], access.Within setting.family := by
    simp [Access.Within, setting]
  rw [← first]
  exact Setting.shownAfter_independent composed ownNames standard within (by simp) (.inl rfl) "charge"

end Hybrid.Override
