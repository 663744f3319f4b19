import Hybrid.Proofs.Reading.Mentions
import Hybrid.Proofs.Wrapper.Listing

/-! # What a class read gives without caches

The wrapper of a hybrid on a class from the functions of the class alone, with the names of the
hybrids under evaluation as the build stack has them. Where hybrids are declared under their own
names, these are the names of attributes that lead to the one that is read. What is built with
nothing under evaluation is built the same under them: a hybrid that is built leads to no cycle, and
so not back to what leads to it.
-/

namespace Hybrid.ModelClass

open Relation

variable {modelClass : ModelClass} {descriptor : Descriptor} {wrapper : Wrapper}
variable {name other : String} {term : Term}

variable (modelClass)

/-- What attributes of a class give by value, from what its hybrids are built as. -/
def valuedBy (siblings : Descriptor → Except HybridError Wrapper) : Body.Attributes := fun name =>
  match modelClass.attribute? name with
  | none => .error (.unknownAttribute modelClass.name name)
  | some (.hybrid sibling) => (siblings sibling).map Wrapper.expression
  | some .field => .ok (.symbolic (.field name))

/-- The dependencies for names that an expression refers to, from what the hybrids are built as. -/
def dependenciesOf (siblings : Descriptor → Except HybridError Wrapper) (hybrid : String) :
    List String → Except HybridError (List (String × Wrapper))
  | [] => .ok []
  | name :: rest =>
    match modelClass.attribute? name with
    | some (.hybrid sibling) => do
      let wrapper ← siblings sibling
      return (name, wrapper) :: (← dependenciesOf siblings hybrid rest)
    | some .field => dependenciesOf siblings hybrid rest
    | none => .error (.unresolvedReference hybrid name modelClass.name)

/-- The wrapper of a hybrid, all stamps apart, while the hybrids of these names are under
evaluation. -/
def construct : (room : Nat) → (under : List String) → Descriptor → Except HybridError Wrapper
  | 0, _, _ => .error .exhausted
  | room + 1, under, descriptor =>
    if descriptor.name ∈ under then
      .error (.cyclicDependency modelClass.name
        (under.dropWhile (· ≠ descriptor.name) ++ [descriptor.name]))
    else do
      let siblings := construct room (under ++ [descriptor.name])
      let expression ← descriptor.body.answer named (modelClass.valuedBy siblings)
      let dependencies ←
        modelClass.dependenciesOf siblings descriptor.name expression.fieldReferences
      return .mk 0 expression descriptor.name modelClass.id modelClass.name dependencies

/-- What reading an attribute on the class gives that is constructed for it. -/
def constructed (room : Nat) (name : String) : Except HybridError Wrapper :=
  match modelClass.attribute? name with
  | none => .error (.unknownAttribute modelClass.name name)
  | some (.hybrid descriptor) => modelClass.construct room [] descriptor
  | some .field => .error (.notAHybrid modelClass.name name)

variable {modelClass} {siblings : Descriptor → Except HybridError Wrapper} {hybrid : String}
variable {names : List String} {dependencies : List (String × Wrapper)} {room : Nat}
variable {under : List String}

section Resolution

variable {built : String → Wrapper → Prop}

theorem resolves_nil : modelClass.Resolves built [] dependencies ↔ dependencies = [] := by
  constructor
  · exact fun resolves => List.map_eq_nil_iff.mp resolves.hybrids
  · rintro rfl
    exact ⟨nofun, rfl, nofun⟩

/-- A field needs no dependency. -/
theorem resolves_cons_field (declared : modelClass.attribute? name = some .field) :
    modelClass.Resolves built (name :: names) dependencies ↔
      modelClass.Resolves built names dependencies := by
  have known : modelClass.attribute? name ≠ none := by simp [declared]
  have plain : ¬ modelClass.isHybrid name = true := by simp [isHybrid, declared]
  constructor
  · intro resolves
    have hybrids := resolves.hybrids
    rw [List.filter_cons_of_neg plain] at hybrids
    exact ⟨(List.forall_mem_cons.mp resolves.known).2, hybrids, resolves.built⟩
  · intro resolves
    refine ⟨List.forall_mem_cons.mpr ⟨known, resolves.known⟩, ?_, resolves.built⟩
    rw [resolves.hybrids, List.filter_cons_of_neg plain]

/-- A hybrid is the first dependency. -/
theorem resolves_cons_hybrid {sibling : Descriptor}
    (declared : modelClass.attribute? name = some (.hybrid sibling)) :
    modelClass.Resolves built (name :: names) dependencies ↔
      ∃ wrapper others, dependencies = (name, wrapper) :: others ∧ built name wrapper ∧
        modelClass.Resolves built names others := by
  have known : modelClass.attribute? name ≠ none := by simp [declared]
  have isHybrid : modelClass.isHybrid name = true := isHybrid_iff.mpr ⟨sibling, declared⟩
  constructor
  · intro resolves
    have hybrids := resolves.hybrids
    rw [List.filter_cons_of_pos isHybrid] at hybrids
    obtain ⟨⟨first, wrapper⟩, others, rfl, rfl, remaining⟩ := List.map_eq_cons_iff.mp hybrids
    obtain ⟨given, built⟩ := List.forall_mem_cons.mp resolves.built
    exact ⟨wrapper, others, rfl, given, (List.forall_mem_cons.mp resolves.known).2, remaining, built⟩
  · rintro ⟨wrapper, others, rfl, given, resolves⟩
    refine ⟨List.forall_mem_cons.mpr ⟨known, resolves.known⟩, ?_,
      List.forall_mem_cons.mpr ⟨given, resolves.built⟩⟩
    rw [List.map_cons, resolves.hybrids, List.filter_cons_of_pos isHybrid]

end Resolution

/-- The dependencies are found for exactly the names that resolve, and they are what siblings are
built as. -/
theorem dependenciesOf_eq_ok :
    modelClass.dependenciesOf siblings hybrid names = .ok dependencies ↔
      modelClass.Resolves (fun name wrapper => ∀ sibling,
        modelClass.attribute? name = some (.hybrid sibling) → siblings sibling = .ok wrapper)
        names dependencies := by
  induction names generalizing dependencies with
  | nil =>
    rw [dependenciesOf, resolves_nil]
    exact ⟨fun same => (Except.ok.inj same).symm, fun same => same ▸ rfl⟩
  | cons name rest ih =>
    rw [dependenciesOf]
    cases declared : modelClass.attribute? name with
    | none =>
      exact ⟨nofun, fun resolves => absurd declared (resolves.known name (List.mem_cons_self ..))⟩
    | some kind =>
      cases kind with
      | field =>
        rw [resolves_cons_field declared]
        exact ih
      | hybrid sibling =>
        rw [resolves_cons_hybrid declared]
        simp only [Body.bind_eq_ok, ih]
        constructor
        · rintro ⟨wrapper, given, others, resolves, same⟩
          refine ⟨wrapper, others, (Except.ok.inj same).symm, fun other found => ?_, resolves⟩
          obtain rfl : sibling = other := by simpa [declared] using found
          exact given
        · rintro ⟨wrapper, others, rfl, given, resolves⟩
          exact ⟨wrapper, given sibling declared, others, resolves, rfl⟩

/-- The dependencies are found if all names are attributes and those that are hybrids are built. -/
theorem exists_dependenciesOf (hybrid : String)
    (known : ∀ name ∈ names, modelClass.attribute? name ≠ none)
    (each : ∀ name ∈ names, ∀ sibling, modelClass.attribute? name = some (.hybrid sibling) →
      ∃ wrapper, siblings sibling = .ok wrapper) :
    ∃ dependencies, modelClass.dependenciesOf siblings hybrid names = .ok dependencies := by
  induction names with
  | nil => exact ⟨[], rfl⟩
  | cons name rest ih =>
    obtain ⟨knownFirst, knownRest⟩ := List.forall_mem_cons.mp known
    obtain ⟨first, others⟩ := List.forall_mem_cons.mp each
    obtain ⟨dependencies, found⟩ := ih knownRest others
    rw [dependenciesOf]
    cases declared : modelClass.attribute? name with
    | none => exact absurd declared knownFirst
    | some kind =>
      cases kind with
      | field => exact ⟨dependencies, found⟩
      | hybrid sibling =>
        obtain ⟨wrapper, built⟩ := first sibling declared
        refine ⟨(name, wrapper) :: dependencies, ?_⟩
        dsimp only
        rw [built, found]
        rfl

theorem construct_of_not_mem (outside : descriptor.name ∉ under) :
    modelClass.construct (room + 1) under descriptor =
      descriptor.body.answer named (modelClass.valuedBy
          (modelClass.construct room (under ++ [descriptor.name]))) >>= fun expression =>
        modelClass.dependenciesOf (modelClass.construct room (under ++ [descriptor.name]))
          descriptor.name expression.fieldReferences >>= fun dependencies =>
        .ok (.mk 0 expression descriptor.name modelClass.id modelClass.name dependencies) := by
  rw [construct, if_neg outside]
  rfl

theorem construct_eq_ok :
    modelClass.construct (room + 1) under descriptor = .ok wrapper ↔
      descriptor.name ∉ under ∧ ∃ expression dependencies,
        descriptor.body.answer named (modelClass.valuedBy
          (modelClass.construct room (under ++ [descriptor.name]))) = .ok expression ∧
        modelClass.dependenciesOf (modelClass.construct room (under ++ [descriptor.name]))
          descriptor.name expression.fieldReferences = .ok dependencies ∧
        wrapper = .mk 0 expression descriptor.name modelClass.id modelClass.name dependencies := by
  rw [construct]
  split
  · next entered => exact ⟨nofun, fun ⟨outside, _⟩ => absurd entered outside⟩
  · next outside =>
    simp only [Body.bind_eq_ok]
    constructor
    · rintro ⟨expression, answered, dependencies, resolved, same⟩
      exact ⟨outside, expression, dependencies, answered, resolved, (Except.ok.inj same).symm⟩
    · rintro ⟨-, expression, dependencies, answered, resolved, rfl⟩
      exact ⟨expression, answered, dependencies, resolved, rfl⟩

/-- What is read by value while a wrapper is constructed. -/
theorem valuedBy_eq_ok {field : String} :
    modelClass.valuedBy siblings field = .ok term ↔
      (modelClass.attribute? field = some .field ∧ term = .symbolic (.field field)) ∨
        ∃ sibling wrapper, modelClass.attribute? field = some (.hybrid sibling) ∧
          siblings sibling = .ok wrapper ∧ term = wrapper.expression := by
  unfold valuedBy
  cases declared : modelClass.attribute? field with
  | none => simp
  | some kind =>
    cases kind with
    | field => simp [eq_comm]
    | hybrid sibling =>
      cases built : siblings sibling with
      | error error => simp [Except.map, built]
      | ok wrapper => simp [Except.map, built, eq_comm]

/-- An answer over wrappers is the answer over siblings that are built with their expressions. -/
theorem answer_valuedBy {wrappers : String → Wrapper} (body : Body.Composed descriptor.body)
    (each : ∀ field sibling, .byValue field ∈ descriptor.body.leaves (.onClass modelClass) →
      modelClass.attribute? field = some (.hybrid sibling) → ∃ wrapper,
        siblings sibling = .ok wrapper ∧ wrapper.expression = (wrappers field).expression)
    (answers : descriptor.body.answer named (modelClass.valued wrappers) = .ok term) :
    descriptor.body.answer named (modelClass.valuedBy siblings) = .ok term := by
  refine Body.answer_mono_values (.onClass modelClass) body (fun field part member given => ?_) answers
  refine valuedBy_eq_ok.mpr ?_
  unfold valued at given
  cases found : modelClass.attribute? field with
  | none =>
    rw [found] at given
    cases given
  | some kind =>
    rw [found] at given
    cases kind with
    | field => exact .inl ⟨rfl, (Except.ok.inj given).symm⟩
    | hybrid sibling =>
      obtain ⟨wrapper, built, same⟩ := each field sibling member found
      exact .inr ⟨sibling, wrapper, rfl, built, (Except.ok.inj given).symm.trans same.symm⟩

/-- What is constructed is built. -/
theorem builds_of_construct (composed : modelClass.IsComposedOf Body.IsBasic)
    (declared : modelClass.attribute? name = some (.hybrid descriptor))
    (constructed : modelClass.construct room under descriptor = .ok wrapper) :
    modelClass.Builds descriptor wrapper := by
  induction room generalizing under name descriptor wrapper with
  | zero => cases constructed
  | succ room ih =>
    obtain ⟨-, expression, dependencies, answered, resolved, rfl⟩ := construct_eq_ok.mp constructed
    obtain ⟨wrappers, chosen⟩ := modelClass.exists_wrappers
    have resolves := dependenciesOf_eq_ok.mp resolved
    refine .intro 0 wrappers ?values ?answers resolves.known resolves.hybrids ?siblings
    case values =>
      intro field sibling member found
      obtain ⟨part, given⟩ :=
        Body.exists_answer_of_leaf (composed name descriptor declared) member answered
      rcases valuedBy_eq_ok.mp given with ⟨plain, -⟩ | ⟨again, built, same, constructed, -⟩
      · rw [found] at plain
        cases plain
      · obtain rfl : sibling = again := by simpa [found] using same
        exact chosen field sibling built found (ih found constructed)
    case answers =>
      refine Body.answer_mono_values (.onClass modelClass) (composed name descriptor declared)
        (fun field part member given => ?_) answered
      unfold valued
      rcases valuedBy_eq_ok.mp given with ⟨found, rfl⟩ | ⟨sibling, built, found, constructed, rfl⟩
      · rw [found]
      · -- All wrappers of the sibling have one expression, and so has the one that was chosen.
        have builds := ih found constructed
        rw [found, ((chosen field sibling built found builds).unique composed
          (composed field sibling found) builds).1]
    case siblings =>
      intro dependency member sibling found
      exact ih found (resolves.built dependency member sibling found)

/-- What a constructed expression refers to is mentioned on the way. -/
theorem transGen_of_answer (composed : modelClass.IsComposedOf Body.IsBasic)
    (declared : modelClass.attribute? name = some (.hybrid descriptor))
    (answered : descriptor.body.answer named
      (modelClass.valuedBy (modelClass.construct room under)) = .ok term)
    (occurs : other ∈ term.occurrences) : TransGen modelClass.Mentions name other := by
  refine transGen_of_mem_occurrences (composed name descriptor declared) declared ?_ answered occurs
  intro field part member given mentioned occursPart
  rcases valuedBy_eq_ok.mp given with ⟨-, rfl⟩ | ⟨sibling, built, found, constructed, rfl⟩
  · exact .inl (List.mem_singleton.mp occursPart)
  · have builds := builds_of_construct composed found constructed
    exact .inr (builds.transGen_of_mem_occurrences composed field mentioned found occursPart)

/-- Stamps do not matter to what is built. -/
theorem Builds.of_unstamped (builds : modelClass.Builds descriptor wrapper.unstamped) :
    modelClass.Builds descriptor wrapper := by
  generalize same : wrapper.unstamped = other at builds
  induction builds generalizing wrapper with
  | @intro descriptor expression dependencies stamp wrappers values answers known hybrids siblings
      _ siblingsBuilt =>
    obtain ⟨stamp', expression', name', owner', ownerName', original⟩ := wrapper
    rw [Wrapper.unstamped] at same
    cases same
    rw [Wrapper.unstampedDependencies_names] at hybrids
    refine .intro stamp' wrappers values answers known hybrids fun dependency member sibling found => ?_
    refine siblingsBuilt (dependency.1, dependency.2.unstamped) ?_ sibling found rfl
    rw [Wrapper.unstampedDependencies_eq]
    exact List.mem_map_of_mem member

/-- What is built is constructed under the hybrids that lead to it. -/
theorem Builds.construct (composed : modelClass.IsComposedOf Body.IsBasic) (own : modelClass.OwnNames)
    (builds : modelClass.Builds descriptor wrapper) :
    ∀ name room under, modelClass.attribute? name = some (.hybrid descriptor) →
      modelClass.Under under name → modelClass.hybrids.length < room + under.length →
        modelClass.construct room under descriptor = .ok wrapper.unstamped := by
  induction builds with
  | @intro descriptor expression dependencies stamp wrappers values answers known hybrids siblings
      valuesConstruct siblingsConstruct =>
    intro name room under declared holds ample
    have builds := Builds.intro stamp wrappers values answers known hybrids siblings
    -- Were this hybrid under evaluation already, it would lead to itself.
    have outside := holds.not_mem (builds.not_circular composed declared)
    have bound := holds.length_le
    obtain ⟨room, rfl⟩ : ∃ less, room = less + 1 := ⟨room - 1, by omega⟩
    have ampleNext : modelClass.hybrids.length < room + (under ++ [name]).length := by
      rw [List.length_append, List.length_singleton]
      omega
    have same : descriptor.name = name := own name descriptor declared
    refine construct_eq_ok.mpr ⟨same ▸ outside, expression,
      Wrapper.unstampedDependencies dependencies, ?answers, ?dependencies, rfl⟩
    all_goals rw [same]
    case answers =>
      refine answer_valuedBy (composed name descriptor declared) (fun field sibling member found => ?_)
        answers
      have mentions : modelClass.Mentions name field :=
        ⟨descriptor, _, declared, member, List.mem_singleton_self field⟩
      have pushed := holds.push outside (.single mentions)
      exact ⟨_, valuesConstruct field sibling member found field room _ found pushed ampleNext,
        Wrapper.expression_unstamped _⟩
    case dependencies =>
      refine dependenciesOf_eq_ok.mpr ⟨known, ?_, fun dependency member sibling found => ?_⟩
      · rw [Wrapper.unstampedDependencies_names, hybrids]
      · rw [Wrapper.unstampedDependencies_eq] at member
        obtain ⟨original, listed, rfl⟩ := List.mem_map.mp member
        have wanted : original.1 ∈ expression.fieldReferences.filter modelClass.isHybrid :=
          hybrids ▸ List.mem_map_of_mem listed
        have occurs := Term.mem_fieldReferences.mp (List.mem_filter.mp wanted).1
        have pushed := holds.push outside
          (builds.transGen_of_mem_occurrences composed name original.1 declared occurs)
        exact siblingsConstruct original listed sibling found original.1 room _ found pushed ampleNext

end Hybrid.ModelClass
