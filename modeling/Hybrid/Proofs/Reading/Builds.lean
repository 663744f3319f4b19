import Hybrid.Proofs.Body.Answer
import Hybrid.Proofs.Reading.History
import Hybrid.Proofs.Reading.Rules
import Hybrid.Proofs.Wrapper.Inlining

/-! # What is built on a class

`ModelClass.Builds` says which wrappers a hybrid of composed functions may have on a class, without
a store: the function answers the expression where the hybrids that it reads by value have
expressions of their own, and the dependencies are wrappers of the hybrids that the expression
refers to. All wrappers of a hybrid have the same expression and inline alike. What a class read
returns is always such a wrapper.
-/

namespace Hybrid

/-- The standard registry leaves terms as they are and has them depend on what they refer to. -/
theorem Registry.wrap_standard (term : Term) :
    (Registry.standard.wrap term).toTerm = term ∧
      (Registry.standard.wrap term).dependencies = term.fieldReferences := by
  have bundled (expr : Expr) : distinct expr.fieldReferences = expr.fieldReferences :=
    distinct_of_nodup expr.nodup_fieldReferences
  cases term with
  | native value => cases value <;> exact ⟨rfl, rfl⟩
  | symbolic expr =>
    cases expr with
    | literal value => exact ⟨rfl, (Expr.fieldReferences_eq (.literal value)).symm⟩
    | _ => exact ⟨rfl, bundled _⟩

namespace ModelClass

/-- On a class every name stands for the field of that name. -/
def named : Body.Attributes :=
  fun name => .ok (.symbolic (.field name))

/-- What attributes of a class give by value where its hybrids have these wrappers. -/
def valued (modelClass : ModelClass) (wrappers : String → Wrapper) : Body.Attributes := fun name =>
  match modelClass.attribute? name with
  | none => .error (.unknownAttribute modelClass.name name)
  | some (.hybrid _) => .ok (wrappers name).expression
  | some .field => .ok (.symbolic (.field name))

/-- The wrappers that hybrids may have on a class with the standard registry. -/
inductive Builds (modelClass : ModelClass) : Descriptor → Wrapper → Prop
  | intro {descriptor : Descriptor} {expression : Term} {dependencies : List (String × Wrapper)}
    (stamp : Nat) (wrappers : String → Wrapper)
    (values : ∀ name sibling, .byValue name ∈ descriptor.body.leaves (.onClass modelClass) →
      modelClass.attribute? name = some (.hybrid sibling) →
        Builds modelClass sibling (wrappers name))
    (answers : descriptor.body.answer named (modelClass.valued wrappers) = .ok expression)
    (known : ∀ name ∈ expression.fieldReferences, modelClass.attribute? name ≠ none)
    (hybrids : dependencies.map (·.1) = expression.fieldReferences.filter modelClass.isHybrid)
    (siblings : ∀ dependency ∈ dependencies, ∀ sibling,
      modelClass.attribute? dependency.1 = some (.hybrid sibling) →
        Builds modelClass sibling dependency.2) :
    Builds modelClass descriptor
      (.mk stamp expression descriptor.name modelClass.id modelClass.name dependencies)

variable {modelClass : ModelClass} {descriptor : Descriptor} {wrapper other : Wrapper}

theorem isHybrid_iff {name : String} :
    modelClass.isHybrid name = true ↔
      ∃ descriptor, modelClass.attribute? name = some (.hybrid descriptor) := by
  unfold isHybrid
  split
  · next descriptor declared => simp [declared]
  · next differ => exact ⟨nofun, fun ⟨descriptor, declared⟩ => absurd declared (differ descriptor)⟩

/-- A name that is referred to has a dependency if it is a hybrid. -/
theorem exists_dependency {names : List String} {dependencies : List (String × Wrapper)}
    (hybrids : dependencies.map (·.1) = names.filter modelClass.isHybrid) {name : String}
    (wanted : name ∈ names) (hybrid : modelClass.isHybrid name = true) :
    ∃ sibling, dependencies.lookup name = some sibling ∧ (name, sibling) ∈ dependencies := by
  have listed : name ∈ dependencies.map (·.1) := by
    rw [hybrids]
    exact List.mem_filter.mpr ⟨wanted, hybrid⟩
  cases found : dependencies.lookup name with
  | none =>
    obtain ⟨dependency, member, same⟩ := List.mem_map.mp listed
    have absent := List.lookup_eq_none_iff.mp found dependency member
    simp [same] at absent
  | some sibling =>
    obtain ⟨before, after, split, -⟩ := List.lookup_eq_some_iff.mp found
    exact ⟨sibling, rfl, split ▸ List.mem_append_right _ (List.mem_cons_self ..)⟩

/-- A name that is no hybrid has no dependency. -/
theorem lookup_dependencies_eq_none {names : List String} {dependencies : List (String × Wrapper)}
    (hybrids : dependencies.map (·.1) = names.filter modelClass.isHybrid) {name : String}
    (plain : modelClass.isHybrid name = false) : dependencies.lookup name = none := by
  refine List.lookup_eq_none_iff.mpr fun dependency member => ?_
  have listed : dependency.1 ∈ names.filter modelClass.isHybrid :=
    hybrids ▸ List.mem_map_of_mem member
  have hybrid : modelClass.isHybrid dependency.1 = true := (List.mem_filter.mp listed).2
  have differ : name ≠ dependency.1 := fun same => by simp [← same, plain] at hybrid
  simpa using differ

/-- The hybrids of a class that are composed of certain leaves. -/
def IsComposedOf (modelClass : ModelClass) (Leaf : Body → Prop) : Prop :=
  ∀ name descriptor, modelClass.attribute? name = some (.hybrid descriptor) →
    Body.ComposedOf Leaf descriptor.body

theorem IsComposedOf.ofHybrids {Leaf : Body → Prop}
    (each : ∀ hybrid ∈ modelClass.hybrids, Body.ComposedOf Leaf hybrid.2.body) :
    modelClass.IsComposedOf Leaf :=
  fun _ _ declared => each _ (mem_hybrids declared)

/-- All wrappers of a hybrid have the same expression and inline alike. -/
theorem Builds.unique (composed : modelClass.IsComposedOf Body.IsBasic)
    (body : Body.Composed descriptor.body) (first : modelClass.Builds descriptor wrapper)
    (second : modelClass.Builds descriptor other) :
    wrapper.expression = other.expression ∧ wrapper.inline = other.inline := by
  induction first generalizing other with
  | @intro descriptor expression dependencies stamp wrappers values answers known hybrids siblings
      valuesUnique siblingsUnique =>
    obtain ⟨stamp', wrappers', values', answers', known', hybrids', siblings'⟩ := second
    rename_i expression' dependencies'
    have same : expression = expression' := by
      have agree : descriptor.body.answer named (modelClass.valued wrappers) =
          descriptor.body.answer named (modelClass.valued wrappers') := by
        refine Body.answer_congr (.onClass modelClass) body (fun _ _ => rfl) fun name read => ?_
        unfold valued
        cases declared : modelClass.attribute? name with
        | none => rfl
        | some kind =>
          cases kind with
          | field => rfl
          | hybrid sibling =>
            exact congrArg Except.ok (valuesUnique name sibling read declared
              (composed name sibling declared) (values' name sibling read declared)).1
      exact Except.ok.inj (answers.symm.trans (agree.trans answers'))
    subst same
    refine ⟨rfl, Wrapper.inline_congr rfl fun name occurs => ?_⟩
    have wanted : name ∈ expression.fieldReferences := Term.mem_fieldReferences.mpr occurs
    dsimp only [Wrapper.dependencies]
    cases hybrid : modelClass.isHybrid name with
    | false =>
      rw [lookup_dependencies_eq_none hybrids hybrid, lookup_dependencies_eq_none hybrids' hybrid]
    | true =>
      obtain ⟨sibling, found, member⟩ := exists_dependency hybrids wanted hybrid
      obtain ⟨sibling', found', member'⟩ := exists_dependency hybrids' wanted hybrid
      obtain ⟨declaration, declared⟩ := isHybrid_iff.mp hybrid
      rw [found, found']
      exact congrArg some (siblingsUnique _ member declaration declared
        (composed name declaration declared) (siblings' _ member' declaration declared)).2

/-- What names stand for on a class: fields for what the row says, and hybrids for the values of
their inlined expressions on it. -/
structure Standing (modelClass : ModelClass) (row environment : Environment) : Prop where
  field {name : String} : modelClass.attribute? name = some .field → environment name = row name
  hybrid {name : String} {descriptor : Descriptor} {wrapper : Wrapper} :
    modelClass.attribute? name = some (.hybrid descriptor) → modelClass.Builds descriptor wrapper →
      environment name = wrapper.inline.toExpr.valueIn row

theorem exists_standing (composed : modelClass.IsComposedOf Body.IsBasic) (row : Environment) :
    ∃ environment, modelClass.Standing row environment := by
  have each (name : String) : ∃ outcome : Evaluated,
      (modelClass.attribute? name = some .field → outcome = row name) ∧
        ∀ descriptor wrapper, modelClass.attribute? name = some (.hybrid descriptor) →
          modelClass.Builds descriptor wrapper → outcome = wrapper.inline.toExpr.valueIn row := by
    by_cases built : ∃ descriptor wrapper, modelClass.attribute? name = some (.hybrid descriptor) ∧
        modelClass.Builds descriptor wrapper
    · obtain ⟨descriptor, wrapper, declared, builds⟩ := built
      refine ⟨wrapper.inline.toExpr.valueIn row, fun field => ?_, fun other sibling same again => ?_⟩
      · rw [declared] at field
        cases field
      · obtain rfl : descriptor = other := by simpa [declared] using same
        rw [(builds.unique composed (composed name descriptor declared) again).2]
    · exact ⟨row name, fun _ => rfl, fun descriptor wrapper declared builds =>
        absurd ⟨descriptor, wrapper, declared, builds⟩ built⟩
  choose environment field hybrid using each
  exact ⟨environment, fun declared => field _ declared, fun declared => hybrid _ _ _ declared⟩

/-- The inlined expression on the row is the expression where names stand for what they do. -/
theorem Builds.valueIn_inline {row environment : Environment}
    (standing : modelClass.Standing row environment)
    (builds : modelClass.Builds descriptor wrapper) :
    wrapper.inline.toExpr.valueIn row = wrapper.expression.toExpr.valueIn environment := by
  obtain ⟨stamp, wrappers, values, answers, known, hybrids, siblings⟩ := builds
  rename_i expression dependencies
  rw [Wrapper.valueIn_inline]
  dsimp only [Wrapper.expression, Wrapper.dependencies]
  refine Expr.valueIn_congr fun name occurs => ?_
  have wanted : name ∈ expression.fieldReferences := Term.mem_fieldReferences.mpr occurs
  cases declared : modelClass.attribute? name with
  | none => exact absurd declared (known name wanted)
  | some kind =>
    cases kind with
    | field =>
      have plain : modelClass.isHybrid name = false := by simp [isHybrid, declared]
      rw [lookup_dependencies_eq_none hybrids plain, standing.field declared]
    | hybrid declaration =>
      obtain ⟨sibling, found, member⟩ :=
        exists_dependency hybrids wanted (isHybrid_iff.mpr ⟨declaration, declared⟩)
      rw [found, standing.hybrid declared (siblings _ member declaration declared)]

theorem exists_wrappers (modelClass : ModelClass) :
    ∃ wrappers : String → Wrapper, ∀ name descriptor wrapper,
      modelClass.attribute? name = some (.hybrid descriptor) →
        modelClass.Builds descriptor wrapper → modelClass.Builds descriptor (wrappers name) := by
  have each (name : String) : ∃ chosen : Wrapper, ∀ descriptor wrapper,
      modelClass.attribute? name = some (.hybrid descriptor) →
        modelClass.Builds descriptor wrapper → modelClass.Builds descriptor chosen := by
    by_cases built : ∃ descriptor wrapper, modelClass.attribute? name = some (.hybrid descriptor) ∧
        modelClass.Builds descriptor wrapper
    · obtain ⟨descriptor, wrapper, declared, builds⟩ := built
      refine ⟨wrapper, fun other _ same _ => ?_⟩
      obtain rfl : descriptor = other := by simpa [declared] using same
      exact builds
    · exact ⟨.mk 0 (.native .null) "" modelClass.id "" [], fun descriptor wrapper declared builds =>
        absurd ⟨descriptor, wrapper, declared, builds⟩ built⟩
  choose wrappers built using each
  exact ⟨wrappers, built⟩

section Reading

variable {ledger : Ledger} {start : Store} {directory : Directory} {wrappers : String → Wrapper}

/-- What a program reads by value is built. -/
def ValuesBuilt (modelClass : ModelClass) (wrappers : String → Wrapper) (body : Body) : Prop :=
  ∀ name sibling, .byValue name ∈ body.leaves (.onClass modelClass) →
    modelClass.attribute? name = some (.hybrid sibling) → modelClass.Builds sibling (wrappers name)

theorem valuesBuilt_combine {operator : Operator} {lhs rhs : Body} :
    modelClass.ValuesBuilt wrappers (.combine operator lhs rhs) ↔
      modelClass.ValuesBuilt wrappers lhs ∧ modelClass.ValuesBuilt wrappers rhs := by
  unfold ValuesBuilt
  simp only [Body.leaves, List.mem_append, or_imp, forall_and]

theorem valuesBuilt_negate {operand : Body} :
    modelClass.ValuesBuilt wrappers (.negate operand) ↔
      modelClass.ValuesBuilt wrappers operand := by
  unfold ValuesBuilt
  simp only [Body.leaves]

theorem valuesBuilt_call {name : String} {arguments : List Body} :
    modelClass.ValuesBuilt wrappers (.call name arguments) ↔
      ∀ argument ∈ arguments, modelClass.ValuesBuilt wrappers argument := by
  unfold ValuesBuilt
  simp only [Body.leaves, Body.mem_leavesList]
  constructor
  · exact fun all argument member field sibling read => all field sibling ⟨argument, member, read⟩
  · exact fun each field sibling ⟨argument, member, read⟩ => each argument member field sibling read

/-- If a program has a result on a class, then this is its answer, and what it reads by value is
built. -/
def AnswersOn (modelClass : ModelClass) (wrappers : String → Wrapper) (body : Body)
    (outcome : Except HybridError Term) : Prop :=
  ∀ term, outcome = .ok term →
    modelClass.ValuesBuilt wrappers body ∧ body.answer named (modelClass.valued wrappers) = .ok term

theorem answersOn_verdicts : Body.Verdicts (modelClass.AnswersOn wrappers) where
  combine {operator lhs rhs left right} answersLeft answersRight term ended := by
    obtain ⟨valuesLeft, answerLeft⟩ := answersLeft left rfl
    obtain ⟨valuesRight, answerRight⟩ := answersRight right rfl
    refine ⟨valuesBuilt_combine.mpr ⟨valuesLeft, valuesRight⟩, ?_⟩
    rw [Body.answer, answerLeft, answerRight]
    exact ended
  combineLeft _ := nofun
  combineRight _ _ := nofun
  negate {operand _} answersOperand term ended := by
    obtain ⟨values, answer⟩ := answersOperand _ rfl
    refine ⟨valuesBuilt_negate.mpr values, ?_⟩
    rw [Body.answer, answer]
    exact ended
  negateError _ := nofun
  call {name arguments terms} all term ended := by
    obtain ⟨values, answers⟩ := (List.forall₂_and_left arguments terms).mp
      (all.imp fun argument term answers => answers term rfl)
    refine ⟨valuesBuilt_call.mpr values, ?_⟩
    rw [Body.answer, Body.answers_eq_ok.mpr answers]
    exact ended
  callError _ _ := nofun

/-- A class on which reads by value return what is built runs programs as they answer. -/
private theorem run_answersOn {reads : Reads} {stack : List Frame}
    (chosen : ∀ name sibling wrapper, modelClass.attribute? name = some (.hybrid sibling) →
      modelClass.Builds sibling wrapper → modelClass.Builds sibling (wrappers name))
    (composed : modelClass.IsComposedOf Body.IsBasic)
    (siblings : ∀ name sibling, modelClass.attribute? name = some (.hybrid sibling) →
      ∀ store, ledger.Keeps start stack store →
        (reads.ofClass modelClass sibling).Ensures store fun outcome after =>
          (∀ wrapper, outcome = .ok wrapper → modelClass.Builds sibling wrapper) ∧
            ledger.Keeps start stack after)
    {body : Body} (whole : Body.Composed body) :
    ∀ store, ledger.Keeps start stack store →
      (body.run reads directory (.onClass modelClass)).Ensures store
        (Body.Passes (ledger.Keeps start stack) (modelClass.AnswersOn wrappers) body) := by
  refine whole.run_passes answersOn_verdicts fun leaf basic store keeps => ?_
  have answersOn {term : Term} (answers : leaf.answer named (modelClass.valued wrappers) = .ok term)
      (values : ∀ name, leaf = .byValue name → ∀ sibling,
        modelClass.attribute? name = some (.hybrid sibling) →
          modelClass.Builds sibling (wrappers name)) :
      modelClass.AnswersOn wrappers leaf (.ok term) := by
    refine fun result ended => ⟨fun name sibling read declared => ?_, answers.trans ended⟩
    rw [Body.leaves_of_isBasic basic, List.mem_singleton] at read
    exact values name read.symm sibling declared
  cases basic with
  | expression expr =>
    rw [Body.run]
    exact ⟨answersOn rfl nofun, keeps⟩
  | reference name =>
    rw [Body.run]
    exact ⟨answersOn rfl nofun, keeps⟩
  | read isRead =>
    cases isRead with
    | constant value =>
      rw [Body.run]
      exact ⟨answersOn rfl nofun, keeps⟩
    | byName name =>
      rw [Body.run]
      exact ⟨answersOn rfl nofun, keeps⟩
    | byValue name =>
      have answer : (Body.byValue name).answer named (modelClass.valued wrappers) =
          modelClass.valued wrappers name := rfl
      unfold valued at answer
      rw [Body.run, Reads.byValue]
      cases declared : modelClass.attribute? name with
      | none => exact ⟨nofun, keeps⟩
      | some kind =>
        rw [declared] at answer
        cases kind with
        | field =>
          refine ⟨answersOn answer fun other same sibling hybrid => ?_, keeps⟩
          rw [← Body.byValue.inj same, declared] at hybrid
          cases hybrid
        | hybrid sibling =>
          refine Action.ensures_bind_pure.mpr ((siblings name sibling declared store keeps).mono
            fun outcome after ⟨built, ended⟩ => ⟨?_, ended⟩)
          cases outcome with
          | error error => exact nofun
          | ok wrapper =>
            have builds := chosen name sibling wrapper declared (built wrapper rfl)
            have unique := (built wrapper rfl).unique composed (composed name sibling declared) builds
            refine answersOn (answer.trans (congrArg Except.ok unique.1.symm))
              fun other same hybrid again => ?_
            obtain rfl := Body.byValue.inj same
            obtain rfl : sibling = hybrid := by simpa [declared] using again
            exact builds

/-- Resolving names where reads return what is built gives dependencies that are built. -/
private theorem resolve_builds {reads : Reads} {stack : List Frame}
    (siblings : ∀ name sibling, modelClass.attribute? name = some (.hybrid sibling) →
      ∀ store, ledger.Keeps start stack store →
        (reads.ofClass modelClass sibling).Ensures store fun outcome after =>
          (∀ wrapper, outcome = .ok wrapper → modelClass.Builds sibling wrapper) ∧
            ledger.Keeps start stack after)
    (hybrid : String) (names : List String) :
    ∀ store, ledger.Keeps start stack store →
      (reads.resolve modelClass hybrid names).Ensures store fun outcome after =>
        Outcome (modelClass.Resolves (fun name wrapper => ∀ sibling,
            modelClass.attribute? name = some (.hybrid sibling) →
              modelClass.Builds sibling wrapper) names)
          (fun _ => True) outcome ∧ ledger.Keeps start stack after := by
  refine Reads.resolve_keeps (fun name _ sibling declared store keeps => ?_) fun _ _ _ => trivial
  refine (siblings name sibling declared store keeps).mono
    fun outcome after ⟨built, ended⟩ => ⟨?_, ended⟩
  cases outcome with
  | error error => exact trivial
  | ok wrapper =>
    intro other again
    obtain rfl : sibling = other := by simpa [declared] using again
    exact built wrapper rfl

/-- What a class read returns is built. -/
theorem builds_of_readsWithin
    (known : ∀ name descriptor, modelClass.attribute? name = some (.hybrid descriptor) →
      ∀ wrapper, ledger.wrapper descriptor.id modelClass.id wrapper ↔
        modelClass.Builds descriptor wrapper)
    (standard : start.registry modelClass.registry = .standard)
    (composed : modelClass.IsComposedOf Body.IsBasic) (room : Nat) :
    ∀ name descriptor, modelClass.attribute? name = some (.hybrid descriptor) →
      ∀ stack store, ledger.Keeps start stack store →
        ((directory.readsWithin room).ofClass modelClass descriptor).Ensures store
          fun outcome after =>
            (∀ wrapper, outcome = .ok wrapper → modelClass.Builds descriptor wrapper) ∧
              ledger.Keeps start stack after := by
  induction room with
  | zero => exact fun name descriptor declared stack store keeps => ⟨nofun, keeps⟩
  | succ room ih =>
    intro name descriptor declared stack store keeps
    obtain ⟨wrappers, chosen⟩ := exists_wrappers modelClass
    refine Descriptor.readClass_keeps _ keeps (fun wrapper cached result same => ?_) (fun _ _ => nofun)
      fun _ store keeps => ?_
    · obtain rfl := Except.ok.inj same
      exact (known name descriptor declared wrapper).mp cached
    · have siblings (other : String) (sibling : Descriptor)
          (declared : modelClass.attribute? other = some (.hybrid sibling)) :=
        ih other sibling declared (stack ++ [⟨modelClass.id, none, descriptor.name⟩])
      refine Descriptor.buildWrapper_keeps _
        (fun term => modelClass.AnswersOn wrappers descriptor.body (.ok term)) keeps
        (fun wrapper cached result same => ?_) (fun store keeps => ?_)
        fun term answers wrapped same store keeps => ?_
      · obtain rfl := Except.ok.inj same
        exact (known name descriptor declared wrapper).mp cached
      · exact (run_answersOn chosen composed siblings (composed name descriptor declared) store
          keeps).mono fun outcome after ⟨answers, ended⟩ => by
            cases outcome with
            | error error => exact ⟨nofun, ended⟩
            | ok term => exact ⟨answers, ended⟩
      · obtain ⟨values, answer⟩ := answers term rfl
        have asIs := Registry.wrap_standard term
        rw [← standard, ← same] at asIs
        rw [asIs.1, asIs.2]
        refine (resolve_builds siblings descriptor.name term.fieldReferences store keeps).mono
          fun outcome after ⟨resolved, ended⟩ => ⟨?_, ended⟩
        cases outcome with
        | error error => exact nofun
        | ok dependencies =>
          intro stamp
          refine (known name descriptor declared _).mpr ?_
          exact .intro stamp wrappers values answer resolved.known resolved.hybrids resolved.built

end Reading

end ModelClass

end Hybrid
