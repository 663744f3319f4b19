import Hybrid.Proofs.Reading.Construction
import Hybrid.Proofs.Reading.Transparency

/-! # Class reads as if without caches

If every wrapper that is cached for a class is built, then a read on the class gives, all stamps
apart, what is constructed under the hybrids that are under evaluation. This goes for errors as
well: where a sibling is taken from the cache, its own evaluation would have met no cycle.
-/

namespace Hybrid

open Relation

section Rules

variable {reads : Reads} {directory : Directory} {modelClass : ModelClass} {kept : Store → Prop}
variable {siblings : Descriptor → Except HybridError Wrapper}

/-- Resolving names finds the dependencies, if reading siblings gives what they are built as. -/
theorem Reads.resolve_dependenciesOf {hybrid : String} {names : List String}
    (each : ∀ name ∈ names, ∀ sibling, modelClass.attribute? name = some (.hybrid sibling) →
      ∀ store, kept store → (reads.ofClass modelClass sibling).Ensures store fun outcome after =>
        outcome.map Wrapper.unstamped = siblings sibling ∧ kept after)
    (reports : ∀ store event, kept store → kept (store.report event)) :
    ∀ store, kept store →
      (reads.resolve modelClass hybrid names).Ensures store fun outcome after =>
        outcome.map Wrapper.unstampedDependencies =
            modelClass.dependenciesOf siblings hybrid names ∧ kept after := by
  induction names with
  | nil =>
    intro store keeps
    exact ⟨rfl, keeps⟩
  | cons name rest ih =>
    intro store keeps
    have others := ih fun other member => each other (List.mem_cons_of_mem _ member)
    unfold Reads.resolve ModelClass.dependenciesOf
    cases declared : modelClass.attribute? name with
    | none => exact ⟨rfl, keeps⟩
    | some kind =>
      cases kind with
      | field =>
        refine Action.ensures_bind.mpr (Action.ensures_report.mpr ?_)
        exact others _ (reports store _ keeps)
      | hybrid sibling =>
        refine Action.ensures_bind.mpr ?_
        refine (each name (List.mem_cons_self ..) sibling declared store keeps).mono ?_
        rintro outcome after ⟨built, ended⟩
        dsimp only
        rw [← built]
        cases outcome with
        | error error => exact ⟨rfl, ended⟩
        | ok wrapper =>
          refine Action.ensures_bind_pure.mpr ((others after ended).mono ?_)
          rintro outcome last ⟨resolved, ended⟩
          refine ⟨?_, ended⟩
          simp only [Except.map, ← resolved]
          cases outcome with
          | error error => rfl
          | ok dependencies => rfl

/-- A composed program runs on a class as it answers, if reading siblings gives what they are built
as. -/
theorem Body.ComposedOf.run_answer {body : Body} (composed : Body.Composed body)
    (each : ∀ name sibling, .byValue name ∈ body.leaves (.onClass modelClass) →
      modelClass.attribute? name = some (.hybrid sibling) →
        ∀ store, kept store → (reads.ofClass modelClass sibling).Ensures store fun outcome after =>
          outcome.map Wrapper.unstamped = siblings sibling ∧ kept after) :
    ∀ store, kept store →
      (body.run reads directory (.onClass modelClass)).Ensures store fun outcome after =>
        body.answer ModelClass.named (modelClass.valuedBy siblings) = outcome ∧ kept after := by
  have restricted := composed.restrict (fun _ basic => basic) (.onClass modelClass)
  refine restricted.run_passes (Body.answer_verdicts _ _) ?_
  rintro leaf ⟨basic, member⟩ store keeps
  rcases basic.onClass with ⟨part, answer, -, runs⟩ | ⟨name, rfl⟩
  · rw [runs]
    exact ⟨answer _, keeps⟩
  · have answer : (Body.byValue name).answer ModelClass.named (modelClass.valuedBy siblings) =
        modelClass.valuedBy siblings name := rfl
    unfold ModelClass.valuedBy at answer
    rw [Body.run, Reads.byValue]
    cases declared : modelClass.attribute? name with
    | none =>
      rw [declared] at answer
      exact ⟨answer, keeps⟩
    | some kind =>
      rw [declared] at answer
      cases kind with
      | field => exact ⟨answer, keeps⟩
      | hybrid sibling =>
        refine Action.ensures_bind_pure.mpr ((each name sibling member declared store keeps).mono ?_)
        rintro outcome after ⟨built, ended⟩
        refine ⟨answer.trans ?_, ended⟩
        dsimp only
        rw [← built]
        cases outcome with
        | error error => rfl
        | ok wrapper => exact congrArg Except.ok wrapper.expression_unstamped

end Rules

namespace ModelClass

variable {modelClass : ModelClass} {descriptor : Descriptor} {name : String}

section Reading

variable {ledger : Ledger} {start : Store} {directory : Directory}

/-- The frames of hybrids under evaluation on a class. -/
def framesOnClass (modelClass : ModelClass) (under : List String) : List Frame :=
  under.map (Frame.mk modelClass.id none)

variable (known : ∀ name descriptor, modelClass.attribute? name = some (.hybrid descriptor) →
  ∀ wrapper, ledger.wrapper descriptor.id modelClass.id wrapper ↔
    modelClass.Builds descriptor wrapper.unstamped)
variable (standard : start.registry modelClass.registry = .standard)
variable (composed : modelClass.IsComposedOf Body.IsBasic)

include known standard composed

/-- A build gives what is constructed, if reading siblings does with the hybrid under evaluation. -/
private theorem buildWrapper_construct {reads : Reads} {room : Nat} {under : List String}
    {stack : List Frame} (declared : modelClass.attribute? name = some (.hybrid descriptor))
    (fresh : descriptor.name ∉ under)
    (cached : ∀ wrapper, ledger.wrapper descriptor.id modelClass.id wrapper →
      (Except.ok wrapper).map Wrapper.unstamped = modelClass.construct (room + 1) under descriptor)
    (siblings : ∀ other, TransGen modelClass.Mentions name other → ∀ sibling,
      modelClass.attribute? other = some (.hybrid sibling) →
        ∀ store, ledger.Keeps start stack store →
          (reads.ofClass modelClass sibling).Ensures store fun outcome after =>
            outcome.map Wrapper.unstamped =
                modelClass.construct room (under ++ [descriptor.name]) sibling ∧
              ledger.Keeps start stack after) {store : Store} (keeps : ledger.Keeps start stack store) :
    (descriptor.buildWrapper reads directory modelClass).Ensures store fun outcome after =>
      outcome.map Wrapper.unstamped = modelClass.construct (room + 1) under descriptor ∧
        ledger.Keeps start stack after := by
  refine Descriptor.buildWrapper_keeps _ (fun term => descriptor.body.answer named
    (modelClass.valuedBy (modelClass.construct room (under ++ [descriptor.name]))) = .ok term)
    keeps cached ?runs ?resolves
  case runs =>
    intro store keeps
    refine ((composed name descriptor declared).run_answer
      (fun other sibling member => siblings other (.single ?_) sibling) store keeps).mono ?_
    · exact ⟨descriptor, _, declared, member, List.mem_singleton_self other⟩
    · rintro outcome after ⟨answered, ended⟩
      refine ⟨?_, ended⟩
      cases outcome with
      | ok term => exact answered
      | error error =>
        rw [construct_of_not_mem fresh, answered]
        rfl
  case resolves =>
    intro term answered wrapped same store keeps
    have asIs := Registry.wrap_standard term
    rw [← standard, ← same] at asIs
    rw [asIs.1, asIs.2]
    refine (Reads.resolve_dependenciesOf (fun other wanted sibling => siblings other ?_ sibling)
      (fun store event keeps => ?_) store keeps).mono ?_
    · exact transGen_of_answer composed declared answered (Term.mem_fieldReferences.mp wanted)
    · exact keeps.congr rfl rfl rfl rfl rfl rfl
    · rintro outcome after ⟨resolved, ended⟩
      refine ⟨?_, ended⟩
      cases outcome with
      | error error =>
        rw [construct_of_not_mem fresh, answered]
        dsimp only [Bind.bind, Except.bind]
        rw [← resolved]
        rfl
      | ok dependencies =>
        intro stamp
        refine (known _ descriptor declared _).mpr ?_
        exact builds_of_construct composed declared
          (construct_eq_ok.mpr ⟨fresh, term, _, answered, resolved.symm, rfl⟩)

variable (own : modelClass.OwnNames)

include own

/-- Reading a hybrid on the class gives what is constructed under the hybrids on the build stack. -/
theorem ofClass_construct (room : Nat) :
    ∀ name descriptor under, modelClass.attribute? name = some (.hybrid descriptor) →
      modelClass.Under under name → modelClass.hybrids.length < room + under.length →
        ∀ store, ledger.Keeps start (modelClass.framesOnClass under) store →
          ((directory.readsWithin room).ofClass modelClass descriptor).Ensures store
            fun outcome after =>
              outcome.map Wrapper.unstamped = modelClass.construct room under descriptor ∧
                ledger.Keeps start (modelClass.framesOnClass under) after := by
  induction room with
  | zero =>
    -- More hybrids would be under evaluation than the class has.
    intro name descriptor under _ holds ample
    have bound := holds.length_le
    omega
  | succ room ih =>
    intro name descriptor under declared holds ample store keeps
    obtain rfl : descriptor.name = name := own name descriptor declared
    -- What is cached was built under other hybrids, which makes no difference.
    have cached (wrapper : Wrapper) (held : ledger.wrapper descriptor.id modelClass.id wrapper) :
        (Except.ok wrapper).map Wrapper.unstamped =
          modelClass.construct (room + 1) under descriptor := by
      have builds := (known _ descriptor declared wrapper).mp held
      rw [builds.construct composed own _ (room + 1) under declared holds ample,
        Wrapper.unstamped_unstamped]
      rfl
    have building : store.building = under.map (Frame.mk modelClass.id none) := keeps.building
    refine Descriptor.readClass_keeps _ keeps cached ?cyclic ?builds
    case cyclic =>
      intro chain cyclic
      rw [Store.cycle?_of_building building] at cyclic
      rw [construct]
      split at cyclic
      · next entered =>
        rw [if_pos entered, Option.some.inj cyclic]
        rfl
      · cases cyclic
    case builds =>
      intro outside store keeps
      have fresh : descriptor.name ∉ under :=
        fun entered => outside (List.mem_map.mpr ⟨_, entered, rfl⟩)
      have pushed : modelClass.framesOnClass (under ++ [descriptor.name]) =
          modelClass.framesOnClass under ++ [⟨modelClass.id, none, descriptor.name⟩] := by
        rw [framesOnClass, List.map_append]
        rfl
      rw [← pushed] at keeps ⊢
      refine buildWrapper_construct known standard composed declared fresh cached ?_ keeps
      intro other leads sibling declaredOther
      have ampleNext : modelClass.hybrids.length < room + (under ++ [descriptor.name]).length := by
        rw [List.length_append, List.length_singleton]
        omega
      exact ih other sibling _ declaredOther (holds.push fresh leads) ampleNext

/-- A class read gives what the attribute is constructed as. -/
theorem get_constructed (name : String) {store : Store} (keeps : ledger.Keeps start [] store) :
    (modelClass.get directory name).Ensures store fun outcome after =>
      outcome.map Wrapper.unstamped = modelClass.constructed (directory.room modelClass) name ∧
        ledger.Keeps start [] after := by
  unfold ModelClass.get Reads.hybridOf constructed
  cases declared : modelClass.attribute? name with
  | none => exact ⟨rfl, keeps⟩
  | some kind =>
    cases kind with
    | field => exact ⟨rfl, keeps⟩
    | hybrid descriptor =>
      have ample := directory.length_hybrids_lt_room modelClass
      exact ofClass_construct known standard composed own (directory.room modelClass) name descriptor
        [] declared .nil ample store keeps

end Reading

end ModelClass

end Hybrid
