import Mathlib
import Hybrid.Proofs.Reading.Builds
import Hybrid.Proofs.Term.Faithful

/-! # Class readings and instance readings agree

Functions that say the same on both sides are run twice: on the class they give an expression, on an
instance a value. Evaluating the inlined expression on the fields of the instance gives what the
instance reads, in every state that reads and resets of the class lead to.
-/

namespace Hybrid.ModelClass

variable {modelClass : ModelClass} {directory : Directory} {start : Store} {key : InstanceId}
variable {environment row : Environment} {values : Table String Value}

/-- Whether names stand for something on a class: for a field, or for a hybrid that can be built. -/
def Grounded (modelClass : ModelClass) (name : String) : Prop :=
  modelClass.attribute? name = some .field ∨
    ∃ descriptor wrapper, modelClass.attribute? name = some (.hybrid descriptor) ∧
      modelClass.Builds descriptor wrapper

theorem Builds.grounded {descriptor : Descriptor} {wrapper : Wrapper}
    (builds : modelClass.Builds descriptor wrapper) :
    ∀ name ∈ wrapper.expression.occurrences, modelClass.Grounded name := by
  obtain ⟨stamp, wrappers, values, answers, known, hybrids, siblings⟩ := builds
  intro name occurs
  have wanted := Term.mem_fieldReferences.mpr occurs
  cases declared : modelClass.attribute? name with
  | none => exact absurd declared (known name wanted)
  | some kind =>
    cases kind with
    | field => exact .inl declared
    | hybrid descriptor =>
      obtain ⟨sibling, -, member⟩ :=
        exists_dependency hybrids wanted (isHybrid_iff.mpr ⟨descriptor, declared⟩)
      exact .inr ⟨descriptor, sibling, declared, siblings _ member descriptor declared⟩

/-- The outcome of a hybrid on an instance is faithful to whatever is built for it on the class. -/
def FaithfulTo (modelClass : ModelClass) (row : Environment) (descriptor : Descriptor)
    (outcome : Except HybridError Term) : Prop :=
  ∀ wrapper, modelClass.Builds descriptor wrapper →
    Faithful outcome (wrapper.inline.toExpr.valueIn row)

/-- The outcome of a program on an instance is faithful to its answer on the class. -/
def FaithfulAnswer (modelClass : ModelClass) (environment : Environment) (body : Body)
    (outcome : Except HybridError Term) : Prop :=
  ∀ wrappers term, modelClass.ValuesBuilt wrappers body →
    body.answer named (modelClass.valued wrappers) = .ok term →
      (∀ name ∈ term.occurrences, modelClass.Grounded name) →
        Faithful outcome (term.toExpr.valueIn environment)

/-- Terms of an instance and of the class go together argument by argument. -/
private theorem forall₂_faithful {wrappers : String → Wrapper} {arguments : List Body}
    {terms classTerms : List Term}
    (faithful : List.Forall₂ (fun argument term =>
      modelClass.FaithfulAnswer environment argument (.ok term)) arguments terms)
    (answers : List.Forall₂ (fun argument term =>
      argument.answer named (modelClass.valued wrappers) = .ok term) arguments classTerms)
    (built : ∀ argument ∈ arguments, modelClass.ValuesBuilt wrappers argument)
    (grounded : ∀ term ∈ classTerms, ∀ name ∈ term.occurrences, modelClass.Grounded name) :
    List.Forall₂ (fun term outcome => Faithful (.ok term) outcome) terms
      (classTerms.map fun term => term.toExpr.valueIn environment) := by
  induction faithful generalizing classTerms with
  | nil => cases answers; exact .nil
  | cons first _ ih =>
    cases answers with
    | cons answer answers =>
      obtain ⟨builtFirst, builtRest⟩ := List.forall_mem_cons.mp built
      obtain ⟨groundedFirst, groundedRest⟩ := List.forall_mem_cons.mp grounded
      exact .cons (first _ _ builtFirst answer groundedFirst) (ih answers builtRest groundedRest)

theorem faithfulAnswer_verdicts : Body.Verdicts (modelClass.FaithfulAnswer environment) where
  combine first second wrappers term built answer grounded := by
    obtain ⟨left, right, answerLeft, answerRight, combined⟩ := Body.answer_combine_eq_ok.mp answer
    obtain ⟨builtLeft, builtRight⟩ := valuesBuilt_combine.mp built
    rw [Term.occurrences_combine combined, List.forall_mem_append] at grounded
    rw [Term.valueIn_combine combined]
    exact (first _ _ builtLeft answerLeft grounded.1).combine
      (second _ _ builtRight answerRight grounded.2)
  combineLeft first wrappers term built answer grounded := by
    obtain ⟨left, right, answerLeft, -, combined⟩ := Body.answer_combine_eq_ok.mp answer
    rw [Term.occurrences_combine combined, List.forall_mem_append] at grounded
    rw [Term.valueIn_combine combined]
    exact (first _ _ (valuesBuilt_combine.mp built).1 answerLeft grounded.1).combineLeft
  combineRight _ second wrappers term built answer grounded := by
    obtain ⟨left, right, -, answerRight, combined⟩ := Body.answer_combine_eq_ok.mp answer
    rw [Term.occurrences_combine combined, List.forall_mem_append] at grounded
    rw [Term.valueIn_combine combined]
    exact (second _ _ (valuesBuilt_combine.mp built).2 answerRight grounded.2).combineRight
  negate operand wrappers term built answer grounded := by
    obtain ⟨inner, answerOperand, negated⟩ := Body.answer_negate_eq_ok.mp answer
    rw [Term.occurrences_negate negated] at grounded
    rw [Term.valueIn_negate negated]
    exact (operand _ _ (valuesBuilt_negate.mp built) answerOperand grounded).negate
  negateError operand wrappers term built answer grounded := by
    obtain ⟨inner, answerOperand, negated⟩ := Body.answer_negate_eq_ok.mp answer
    rw [Term.occurrences_negate negated] at grounded
    rw [Term.valueIn_negate negated]
    exact (operand _ _ (valuesBuilt_negate.mp built) answerOperand grounded).negateError
  call all wrappers term built answer grounded := by
    obtain ⟨classTerms, answers, called⟩ := Body.answer_call_eq_ok.mp answer
    simp only [Term.occurrences_call called, List.mem_flatMap, forall_exists_index, and_imp] at grounded
    rw [Term.valueIn_call called]
    exact .call (forall₂_faithful all answers (valuesBuilt_call.mp built)
      fun inner member name occurs => grounded name inner member occurs)
  callError {name before terms argument rest error} _ fails wrappers term built answer grounded := by
    obtain ⟨classTerms, answers, called⟩ := Body.answer_call_eq_ok.mp answer
    simp only [Term.occurrences_call called, List.mem_flatMap, forall_exists_index, and_imp] at grounded
    rw [Term.valueIn_call called]
    have failing : argument ∈ before ++ argument :: rest := by simp
    obtain ⟨inner, member, answerInner⟩ := Body.exists_answer answers failing
    exact Faithful.callError (List.mem_map_of_mem member)
      (fails _ _ (valuesBuilt_call.mp built argument failing) answerInner (grounded · inner member))

section Instances

variable {ledger : Ledger} {stack : List Frame} {reads : Reads} {other : InstanceId}

/-- Reading an attribute of the instance is faithful to what its name stands for. -/
private theorem attributeOf_faithful (standing : modelClass.Standing row environment)
    (fixed : start.instances.get? key = some (.record values))
    (fields : ∀ name, modelClass.attribute? name = some .field → row name = .ok (values.get? name))
    (hybrids : ∀ name descriptor, modelClass.attribute? name = some (.hybrid descriptor) →
      ∀ store, ledger.Keeps start stack store →
        (reads.ofInstance modelClass other descriptor).Ensures store fun outcome after =>
          (other = key → modelClass.FaithfulTo row descriptor (outcome.map Stamped.content)) ∧
            ledger.Keeps start stack after)
    (name : String) (store : Store) (keeps : ledger.Keeps start stack store) :
    (reads.attributeOf modelClass other name).Ensures store fun outcome after =>
      (other = key → modelClass.Grounded name →
        Faithful (outcome.map Stamped.content) (environment name)) ∧
          ledger.Keeps start stack after := by
  refine Reads.attributeOf_fixed
    (fun outcome => modelClass.Grounded name → Faithful outcome (environment name)) fixed keeps
    (fun _ _ => trivial) (fun declared _ => ?_) fun descriptor declared => ?_
  · rw [fieldOutcome, standing.field declared, fields name declared]
    cases values.get? name with
    | none => exact trivial
    | some value => rfl
  · refine (hybrids name descriptor declared store keeps).mono
      fun outcome after ⟨faithful, ended⟩ => ⟨fun same grounded => ?_, ended⟩
    rcases grounded with field | ⟨again, wrapper, declaredAgain, builds⟩
    · rw [declared] at field
      cases field
    · obtain rfl : descriptor = again := by simpa [declared] using declaredAgain
      rw [standing.hybrid declared builds]
      exact faithful same wrapper builds

/-- A program is run on the instance as its answer on the class evaluates. -/
private theorem run_faithful (standing : modelClass.Standing row environment)
    (attributes : ∀ name store, ledger.Keeps start stack store →
      (reads.attributeOf modelClass other name).Ensures store fun outcome after =>
        (other = key → modelClass.Grounded name →
          Faithful (outcome.map Stamped.content) (environment name)) ∧
            ledger.Keeps start stack after)
    {body : Body} (calculation : Body.Calculation body) :
    ∀ store, ledger.Keeps start stack store →
      (body.run reads directory (.onInstance modelClass other)).Ensures store
        (Body.Passes (ledger.Keeps start stack)
          (fun body outcome => other = key → modelClass.FaithfulAnswer environment body outcome)
          body) := by
  refine calculation.run_passes (faithfulAnswer_verdicts.under _) fun leaf isRead store keeps => ?_
  cases isRead with
  | constant value =>
    rw [Body.run]
    refine ⟨fun _ wrappers term _ answer _ => ?_, keeps⟩
    rw [← Except.ok.inj answer]
    rfl
  | byName name =>
    rw [Body.run, Reads.byName]
    refine Action.ensures_bind_pure.mpr ((attributes name store keeps).mono
      fun outcome after ⟨faithful, ended⟩ => ⟨fun same wrappers term _ answer grounded => ?_, ended⟩)
    obtain rfl := Except.ok.inj answer
    exact faithful same (grounded name (List.mem_singleton_self name))
  | byValue name =>
    rw [Body.run, Reads.byValue]
    refine Action.ensures_bind_pure.mpr ((attributes name store keeps).mono
      fun outcome after ⟨faithful, ended⟩ =>
        ⟨fun same wrappers term built answer grounded => ?_, ended⟩)
    have answered : modelClass.valued wrappers name = .ok term := answer
    unfold valued at answered
    cases declared : modelClass.attribute? name with
    | none => rw [declared] at answered; cases answered
    | some kind =>
      rw [declared] at answered
      cases kind with
      | field =>
        obtain rfl := Except.ok.inj answered
        exact faithful same (.inl declared)
      | hybrid descriptor =>
        obtain rfl := Except.ok.inj answered
        have read : .byValue name ∈ (Body.byValue name).leaves (.onClass modelClass) := by
          simp [Body.leaves]
        have builds := built name descriptor read declared
        rw [← builds.valueIn_inline standing, ← standing.hybrid declared builds]
        exact faithful same (.inr ⟨descriptor, _, declared, builds⟩)

/-- Reading a hybrid on the instance is faithful to what is built for it on the class. -/
private theorem faithful_of_readsWithin (standing : modelClass.Standing row environment)
    (calculations : modelClass.IsComposedOf Body.IsRead)
    (known : ∀ name descriptor, modelClass.attribute? name = some (.hybrid descriptor) →
      ∀ other term, ledger.value descriptor.id other term ↔
        (other = key → modelClass.FaithfulTo row descriptor (.ok term)))
    (fixed : start.instances.get? key = some (.record values))
    (fields : ∀ name, modelClass.attribute? name = some .field → row name = .ok (values.get? name))
    (room : Nat) :
    ∀ name descriptor, modelClass.attribute? name = some (.hybrid descriptor) →
      ∀ other stack store, ledger.Keeps start stack store →
        ((directory.readsWithin room).ofInstance modelClass other descriptor).Ensures store
          fun outcome after =>
            (other = key → modelClass.FaithfulTo row descriptor (outcome.map Stamped.content)) ∧
              ledger.Keeps start stack after := by
  induction room with
  | zero => exact fun name descriptor _ other stack store keeps => ⟨fun _ _ _ => trivial, keeps⟩
  | succ room ih =>
    intro name descriptor declared other stack store keeps
    refine Descriptor.readInstance_keeps
      (fun outcome => other = key → modelClass.FaithfulTo row descriptor outcome) keeps
      (fun term cached => (known name descriptor declared other term).mp cached)
      (fun chain _ _ _ _ => trivial) fun _ store keeps => ?_
    have attributes := attributeOf_faithful standing fixed fields fun name sibling declared =>
      ih name sibling declared other (stack ++ [⟨modelClass.id, some other, descriptor.name⟩])
    refine (run_faithful standing attributes (calculations name descriptor declared) store keeps).mono
      fun outcome after ⟨faithful, ended⟩ => ?_
    have whole (same : other = key) : modelClass.FaithfulTo row descriptor outcome := by
      intro wrapper builds
      have grounded := builds.grounded
      rw [builds.valueIn_inline standing]
      obtain ⟨stamp, wrappers, values, answers, -, -, -⟩ := builds
      exact faithful same wrappers _ values answers grounded
    refine ⟨⟨whole, fun term ended => ?_⟩, ended⟩
    exact (known name descriptor declared other term).mpr fun same => ended ▸ whole same

end Instances

section Histories

/-- What is known of the caches of a class: wrappers are built, and the values of one instance are
faithful to them. -/
def agreement (modelClass : ModelClass) (row : Environment) (key : InstanceId) : Ledger :=
  .ofFamily (· = modelClass)
    (fun descriptor owner wrapper => owner = modelClass.id → modelClass.Builds descriptor wrapper)
    (fun descriptor other term => other = key → modelClass.FaithfulTo row descriptor (.ok term))
    fun _ => True

variable (calculations : modelClass.IsComposedOf Body.IsRead) (distinct : DistinctIn (· = modelClass))
variable (standard : start.registry modelClass.registry = .standard)
variable (fixed : start.instances.get? key = some (.record values))
variable (fields : ∀ name, modelClass.attribute? name = some .field → row name = .ok (values.get? name))

include calculations distinct standard in
private theorem get_builds (name : String) {store : Store}
    (keeps : (modelClass.agreement row key).Keeps start [] store) :
    Action.Ensures (modelClass.get directory name) store fun outcome after =>
      (∀ wrapper, outcome = .ok wrapper → ∃ descriptor,
        modelClass.attribute? name = some (.hybrid descriptor) ∧
          modelClass.Builds descriptor wrapper) ∧
        (modelClass.agreement row key).Keeps start [] after := by
  unfold get Reads.hybridOf
  cases declared : modelClass.attribute? name with
  | none => exact ⟨nofun, keeps⟩
  | some kind =>
    cases kind with
    | field => exact ⟨nofun, keeps⟩
    | hybrid descriptor =>
      have known (name : String) (descriptor : Descriptor)
          (declared : modelClass.attribute? name = some (.hybrid descriptor)) (wrapper : Wrapper) :
          (modelClass.agreement row key).wrapper descriptor.id modelClass.id wrapper ↔
            modelClass.Builds descriptor wrapper :=
        (Ledger.ofFamily_wrapper distinct (Descriptor.in_of_attribute? rfl declared)).trans
          ⟨fun built => built rfl, fun builds _ => builds⟩
      have basic : modelClass.IsComposedOf Body.IsBasic :=
        fun name descriptor declared => (calculations name descriptor declared).composed
      refine (builds_of_readsWithin known standard basic (directory.room modelClass) name descriptor
        declared [] store keeps).mono fun outcome after ⟨built, ended⟩ => ⟨?_, ended⟩
      exact fun wrapper same => ⟨descriptor, rfl, built wrapper same⟩

include calculations distinct fixed fields in
private theorem getFor_faithful_of_keeps (other : InstanceId) (name : String) {store : Store}
    (keeps : (modelClass.agreement row key).Keeps start [] store) :
    Action.Ensures (modelClass.getFor directory other name) store fun outcome after =>
      (other = key → ∀ descriptor, modelClass.attribute? name = some (.hybrid descriptor) →
        modelClass.FaithfulTo row descriptor (outcome.map Stamped.content)) ∧
        (modelClass.agreement row key).Keeps start [] after := by
  unfold getFor
  cases declared : modelClass.attribute? name with
  | none =>
    unfold Reads.attributeOf
    rw [declared]
    exact ⟨nofun, keeps⟩
  | some kind =>
    cases kind with
    | field =>
      exact (Reads.attributeOf_field declared keeps).mono fun outcome after ⟨_, ended⟩ => ⟨nofun, ended⟩
    | hybrid descriptor =>
      have read : (directory.reads modelClass).attributeOf modelClass other name =
          (directory.reads modelClass).ofInstance modelClass other descriptor := by
        unfold Reads.attributeOf
        rw [declared]
      have known (name : String) (descriptor : Descriptor)
          (declared : modelClass.attribute? name = some (.hybrid descriptor)) (other : InstanceId)
          (term : Term) : (modelClass.agreement row key).value descriptor.id other term ↔
            (other = key → modelClass.FaithfulTo row descriptor (.ok term)) :=
        Ledger.ofFamily_value distinct (Descriptor.in_of_attribute? rfl declared)
      obtain ⟨environment, standing⟩ := exists_standing
        (fun name descriptor declared => (calculations name descriptor declared).composed) row
      rw [read]
      refine (faithful_of_readsWithin standing calculations known fixed fields
        (directory.room modelClass) name descriptor declared other [] store keeps).mono
        fun outcome after ⟨faithful, ended⟩ => ⟨fun same again declaredAgain => ?_, ended⟩
      obtain rfl : descriptor = again := by simpa using declaredAgain
      exact faithful same

include calculations distinct standard fixed fields in
/-- Reads and resets of the class leave everything that is cached known. -/
private theorem keeps_after (directory : Directory) (blank : start.Blank (· = modelClass))
    {history : List Access}
    (within : ∀ access ∈ history, access.Within (· = modelClass)) :
    (modelClass.agreement row key).Keeps start [] (start.after directory history) := by
  refine (Ledger.Keeps.ofBlank blank trivial).after (fun _ => trivial) ?_ ?_ within
  · rintro _ name rfl store keeps
    exact (get_builds calculations distinct standard name keeps).mono fun _ _ ended => ended.2
  · rintro _ other name rfl store keeps
    exact (getFor_faithful_of_keeps calculations distinct fixed fields other name keeps).mono
      fun _ _ ended => ended.2

end Histories

/-- An instance reads a hybrid as the inlined expression of the class evaluates on its fields. The
two readings may be made in different states that the class was brought to. -/
theorem getFor_faithful {row : Row} {history later : List Access} {name : String} {wrapper : Wrapper}
    {outcome : Except HybridError (Stamped Term)}
    (calculations : modelClass.IsComposedOf Body.IsRead) (distinct : DistinctIn (· = modelClass))
    (standard : start.registry modelClass.registry = .standard)
    (blank : start.Blank (· = modelClass))
    (fixed : start.instances.get? key = some (.record values))
    (fields : ∀ name, modelClass.attribute? name = some .field → row name = values.get? name)
    (within : ∀ access ∈ history, access.Within (· = modelClass))
    (withinLater : ∀ access ∈ later, access.Within (· = modelClass))
    (built : ((modelClass.get directory name).run (start.after directory history)).1 = .ok wrapper)
    (read : ((modelClass.getFor directory key name).run (start.after directory later)).1 = outcome) :
    Faithful (outcome.map Stamped.content) (wrapper.inline.toExpr.evaluate row) := by
  have answered (name : String) (field : modelClass.attribute? name = some .field) :
      Environment.ofRow row name = .ok (values.get? name) :=
    congrArg Except.ok (fields name field)
  have first := keeps_after calculations distinct standard fixed answered directory blank within
  have second := keeps_after calculations distinct standard fixed answered directory blank withinLater
  obtain ⟨descriptor, declared, builds⟩ :=
    (get_builds calculations distinct standard name first).1 wrapper built
  rw [Expr.evaluate_eq, ← read]
  exact (getFor_faithful_of_keeps calculations distinct fixed answered key name second).1 rfl
    descriptor declared wrapper builds

end Hybrid.ModelClass

namespace Hybrid.Account

/-- The amount twice, by name. -/
def doubled : Descriptor :=
  ⟨⟨1⟩, "doubled", .combine .add (.byName "amount") (.byName "amount")⟩

/-- The double by name and again by value. -/
def quadrupled : Descriptor :=
  ⟨⟨2⟩, "quadrupled", .combine .add (.byName "doubled") (.byValue "doubled")⟩

def account : ModelClass where
  id := ⟨1⟩
  name := "Account"
  attributes :=
    [("amount", .field), ("doubled", .hybrid doubled), ("quadrupled", .hybrid quadrupled)]
  registry := Store.sharedRegistry

def amounts : Table String Value := ⟨[("amount", .int 5)]⟩

/-- The store with one account in it. -/
def opened : Store := { Store.initial with instances := ⟨[(⟨1⟩, .record amounts)]⟩ }

def directory : Directory := ⟨.empty, .empty, .empty⟩

/-- The amount twice. -/
def doubledExpr : Expr := .combined .add (.field "amount") (.field "amount")

/-- What is built for `quadrupled` when it is the first to be read. -/
def quadrupledWrapper : Wrapper :=
  .mk 2 (.symbolic (.combined .add (.field "doubled") doubledExpr)) "quadrupled" ⟨1⟩ "Account"
    [("doubled", .mk 1 (.symbolic doubledExpr) "doubled" ⟨1⟩ "Account" [])]

private theorem get_quadrupled :
    ((account.get directory "quadrupled").run (opened.after directory
      [.ofClass account "quadrupled", .reset doubled])).1 = .ok quadrupledWrapper := by
  cbv

private theorem getFor_quadrupled :
    ((account.getFor directory ⟨1⟩ "quadrupled").run (opened.after directory
      [.ofInstance account ⟨1⟩ "doubled"])).1 = .ok ⟨4, .native (.int 20)⟩ := by
  cbv

private theorem calculations : account.IsComposedOf Body.IsRead := by
  have hybrids : account.hybrids = [("doubled", doubled), ("quadrupled", quadrupled)] := rfl
  refine .ofHybrids ?_
  rw [hybrids]
  simp only [List.forall_mem_cons, List.not_mem_nil, IsEmpty.forall_iff, implies_true, and_true]
  exact ⟨.combine .add (.leaf (.byName _)) (.leaf (.byName _)),
    .combine .add (.leaf (.byName _)) (.leaf (.byValue _))⟩

private theorem distinct : DistinctIn (· = account) := by
  have hybrids : account.hybrids = [("doubled", doubled), ("quadrupled", quadrupled)] := rfl
  refine .ofList [doubled, quadrupled] ?_ (by simp [doubled, quadrupled])
  rintro _ rfl
  simp [hybrids]

/-- The class is read again after a reset, and the instance after a part of it was read. -/
theorem getFor_faithful_account :
    ((account.get directory "quadrupled").run (opened.after directory
        [.ofClass account "quadrupled", .reset doubled])).1 = .ok quadrupledWrapper ∧
      ((account.getFor directory ⟨1⟩ "quadrupled").run (opened.after directory
        [.ofInstance account ⟨1⟩ "doubled"])).1 = .ok ⟨4, .native (.int 20)⟩ ∧
      quadrupledWrapper.inline.toExpr.evaluate amounts.get? = .ok (some (.int 20)) := by
  have standard : opened.registry account.registry = .standard := rfl
  have blank : opened.Blank (· = account) := .ofEmpty rfl rfl rfl _
  have fixed : opened.instances.get? ⟨1⟩ = some (.record amounts) := rfl
  have fields : ∀ name, account.attribute? name = some .field →
      amounts.get? name = amounts.get? name := fun _ _ => rfl
  have within : ∀ access ∈ [.ofClass account "quadrupled", .reset doubled],
      Access.Within (· = account) access := by simp [Access.Within]
  have withinLater : ∀ access ∈ [.ofInstance account ⟨1⟩ "doubled"],
      Access.Within (· = account) access := by simp [Access.Within]
  exact ⟨get_quadrupled, getFor_quadrupled, ModelClass.getFor_faithful calculations distinct standard
    blank fixed fields within withinLater get_quadrupled getFor_quadrupled⟩

end Hybrid.Account
