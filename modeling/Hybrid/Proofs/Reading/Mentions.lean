import Mathlib.Data.List.Nodup
import Mathlib.Logic.Relation
import Hybrid.Proofs.Reading.Builds

/-! # What hybrids of a class mention

On a class the function of a hybrid mentions the names that it reads by name or by value. What a
composed function answers refers to what it mentions, or to what the expressions that it reads by
value refer to: so whatever a built expression refers to is mentioned on the way. A hybrid that is
built leads to no cycle of mentions. Hybrids under evaluation on a class lead to the one that is
read, and where they are declared under their own names there are no more of them than the class
has.
-/

namespace Hybrid

open Relation

namespace Body

variable {named valued : Attributes} {scope : Scope} {body leaf : Body} {term : Term}

/-- Each of the terms is the answer of one of the programs. -/
private theorem exists_answered {bodies : List Body} {terms : List Term}
    (answers : List.Forall₂ (fun body term => body.answer named valued = .ok term) bodies terms)
    (member : term ∈ terms) : ∃ body ∈ bodies, body.answer named valued = .ok term := by
  induction answers with
  | nil => cases member
  | @cons body first _ _ answer _ ih =>
    rcases List.mem_cons.mp member with rfl | member
    · exact ⟨body, List.mem_cons_self .., answer⟩
    · obtain ⟨other, present, answer⟩ := ih member
      exact ⟨other, List.mem_cons_of_mem _ present, answer⟩

/-- A program refers to what its leaves refer to. -/
theorem mem_occurrences_answer (scope : Scope) (composed : Composed body)
    (answered : body.answer named valued = .ok term) {name : String} :
    name ∈ term.occurrences ↔ ∃ leaf ∈ body.leaves scope, ∃ part,
      leaf.answer named valued = .ok part ∧ name ∈ part.occurrences := by
  induction composed generalizing term with
  | @leaf body isLeaf =>
    rw [leaves_of_isBasic isLeaf]
    constructor
    · exact fun occurs => ⟨body, List.mem_singleton_self _, term, answered, occurs⟩
    · rintro ⟨other, member, part, answer, occurs⟩
      obtain rfl := List.mem_singleton.mp member
      rwa [Except.ok.inj (answered.symm.trans answer)]
  | combine operator _ _ left right =>
    obtain ⟨first, second, answerFirst, answerSecond, combined⟩ := answer_combine_eq_ok.mp answered
    rw [Term.occurrences_combine combined, List.mem_append, left answerFirst, right answerSecond]
    simp only [leaves, List.mem_append, or_and_right, exists_or]
  | negate _ operand =>
    obtain ⟨inner, answerInner, negated⟩ := answer_negate_eq_ok.mp answered
    rw [Term.occurrences_negate negated, operand answerInner]
    simp only [leaves]
  | call function _ each =>
    obtain ⟨terms, answers, called⟩ := answer_call_eq_ok.mp answered
    rw [Term.occurrences_call called, List.mem_flatMap]
    simp only [leaves, mem_leavesList]
    constructor
    · rintro ⟨inner, member, occurs⟩
      obtain ⟨argument, present, answer⟩ := exists_answered answers member
      obtain ⟨leaf, read, found⟩ := (each argument present answer).mp occurs
      exact ⟨leaf, ⟨argument, present, read⟩, found⟩
    · rintro ⟨leaf, ⟨argument, present, read⟩, found⟩
      obtain ⟨inner, member, answer⟩ := exists_answer answers present
      exact ⟨inner, member, (each argument present answer).mpr ⟨leaf, read, found⟩⟩

/-- The names that a leaf reads on a class by name or by value, or puts into its expression. -/
def mentions : Body → List String
  | .byName name => [name]
  | .byValue name => [name]
  | .reference name => [name]
  | .expression expr => expr.occurrences
  | _ => []

/-- On a class a leaf reads an attribute by value, or it is always the same and refers to what it
mentions. -/
theorem IsBasic.onClass (basic : IsBasic leaf) :
    (∃ part, (∀ valued, leaf.answer ModelClass.named valued = .ok part) ∧
      part.occurrences = leaf.mentions ∧ ∀ reads directory modelClass,
        leaf.run reads directory (.onClass modelClass) = pure part) ∨
    ∃ name, leaf = .byValue name := by
  cases basic with
  | expression expr => exact .inl ⟨.symbolic expr, fun _ => rfl, rfl, fun _ _ _ => by rw [Body.run]⟩
  | reference name =>
    exact .inl ⟨.symbolic (.field name), fun _ => rfl, rfl, fun _ _ _ => by rw [Body.run]⟩
  | read isRead =>
    cases isRead with
    | constant value => exact .inl ⟨.native value, fun _ => rfl, rfl, fun _ _ _ => by rw [Body.run]⟩
    | byName name =>
      exact .inl ⟨.symbolic (.field name), fun _ => rfl, rfl, fun _ _ _ => by rw [Body.run]; rfl⟩
    | byValue name => exact .inr ⟨name, rfl⟩

end Body

namespace ModelClass

variable {modelClass : ModelClass} {descriptor : Descriptor} {wrapper : Wrapper}
variable {name other : String} {leaf : Body} {term : Term} {valued : Body.Attributes}

/-- The hybrid of the first name reads the second by name or by value. -/
def Mentions (modelClass : ModelClass) (name other : String) : Prop :=
  ∃ descriptor leaf, modelClass.attribute? name = some (.hybrid descriptor) ∧
    leaf ∈ descriptor.body.leaves (.onClass modelClass) ∧ other ∈ leaf.mentions

/-- The attribute leads to one that leads to itself. -/
def Circular (modelClass : ModelClass) (name : String) : Prop :=
  ∃ other, ReflTransGen modelClass.Mentions name other ∧ TransGen modelClass.Mentions other other

/-- Hybrids are declared under their own names. -/
def OwnNames (modelClass : ModelClass) : Prop :=
  ∀ name descriptor, modelClass.attribute? name = some (.hybrid descriptor) → descriptor.name = name

theorem OwnNames.ofHybrids (each : ∀ hybrid ∈ modelClass.hybrids, hybrid.2.name = hybrid.1) :
    modelClass.OwnNames :=
  fun _ _ declared => each _ (mem_hybrids declared)

/-- A leaf of a function that answers reads what it mentions by value, or the answer refers to it. -/
theorem byValue_or_mem_occurrences (composed : Body.Composed descriptor.body)
    (member : leaf ∈ descriptor.body.leaves (.onClass modelClass)) (mentioned : other ∈ leaf.mentions)
    (answered : descriptor.body.answer named valued = .ok term) :
    leaf = .byValue other ∨ other ∈ term.occurrences := by
  have refers {part : Term} (answer : leaf.answer named valued = .ok part)
      (occurs : other ∈ part.occurrences) : other ∈ term.occurrences :=
    (Body.mem_occurrences_answer (.onClass modelClass) composed answered).mpr
      ⟨leaf, member, part, answer, occurs⟩
  rcases (composed.of_leaf (fun _ basic => basic) member).onClass with
    ⟨part, answer, same, -⟩ | ⟨field, rfl⟩
  · exact .inr (refers (answer valued) (same ▸ mentioned))
  · obtain rfl := List.mem_singleton.mp mentioned
    exact .inl rfl

/-- A hybrid that a function mentions is read by value, or it is among the dependencies of the
answer. -/
theorem byValue_or_mem_dependencies {expression : Term} {dependencies : List (String × Wrapper)}
    (composed : Body.Composed descriptor.body)
    (declared : modelClass.attribute? name = some (.hybrid descriptor))
    (answers : descriptor.body.answer named valued = .ok expression)
    (hybrids : dependencies.map (·.1) = expression.fieldReferences.filter modelClass.isHybrid)
    (mentions : modelClass.Mentions name other) (isHybrid : modelClass.isHybrid other = true) :
    .byValue other ∈ descriptor.body.leaves (.onClass modelClass) ∨
      ∃ sibling, (other, sibling) ∈ dependencies := by
  obtain ⟨again, leaf, same, member, mentioned⟩ := mentions
  obtain rfl : descriptor = again := by simpa [declared] using same
  rcases byValue_or_mem_occurrences composed member mentioned answers with rfl | occurs
  · exact .inl member
  · have wanted : other ∈ expression.fieldReferences := Term.mem_fieldReferences.mpr occurs
    obtain ⟨sibling, -, listed⟩ := exists_dependency hybrids wanted isHybrid
    exact .inr ⟨sibling, listed⟩

/-- What an answer refers to is mentioned on the way, if this holds of what is read by value. -/
theorem transGen_of_mem_occurrences (composed : Body.Composed descriptor.body)
    (declared : modelClass.attribute? name = some (.hybrid descriptor))
    (values : ∀ field part, .byValue field ∈ descriptor.body.leaves (.onClass modelClass) →
      valued field = .ok part → ∀ other ∈ part.occurrences,
        other = field ∨ TransGen modelClass.Mentions field other)
    (answered : descriptor.body.answer named valued = .ok term) (occurs : other ∈ term.occurrences) :
    TransGen modelClass.Mentions name other := by
  obtain ⟨leaf, member, part, answer, occurs⟩ :=
    (Body.mem_occurrences_answer (.onClass modelClass) composed answered).mp occurs
  have mentions {field : String} (mentioned : field ∈ leaf.mentions) :
      modelClass.Mentions name field := ⟨descriptor, leaf, declared, member, mentioned⟩
  rcases (composed.of_leaf (fun _ basic => basic) member).onClass with
    ⟨always, answers, same, -⟩ | ⟨field, rfl⟩
  · obtain rfl := Except.ok.inj ((answers valued).symm.trans answer)
    exact .single (mentions (same ▸ occurs))
  · have first := mentions (List.mem_singleton_self field)
    rcases values field part member answer other occurs with rfl | rest
    · exact .single first
    · exact .head first rest

/-- What a built expression refers to is mentioned on the way. -/
theorem Builds.transGen_of_mem_occurrences (composed : modelClass.IsComposedOf Body.IsBasic)
    (builds : modelClass.Builds descriptor wrapper) :
    ∀ name other, modelClass.attribute? name = some (.hybrid descriptor) →
      other ∈ wrapper.expression.occurrences → TransGen modelClass.Mentions name other := by
  induction builds with
  | @intro descriptor expression dependencies stamp wrappers values answers known hybrids siblings
      valuesLead _ =>
    intro name other declared occurs
    refine ModelClass.transGen_of_mem_occurrences (composed name descriptor declared) declared ?_
      answers occurs
    intro field part member given mentioned occursPart
    unfold ModelClass.valued at given
    cases found : modelClass.attribute? field with
    | none =>
      rw [found] at given
      cases given
    | some kind =>
      rw [found] at given
      cases kind with
      | field =>
        obtain rfl := Except.ok.inj given
        exact .inl (List.mem_singleton.mp occursPart)
      | hybrid sibling =>
        obtain rfl := Except.ok.inj given
        exact .inr (valuesLead field sibling member found field mentioned found occursPart)

/-- A hybrid that is built leads to no infinite chain of hybrids. -/
theorem Builds.acc (composed : modelClass.IsComposedOf Body.IsBasic)
    (builds : modelClass.Builds descriptor wrapper) :
    ∀ name, modelClass.attribute? name = some (.hybrid descriptor) →
      Acc (fun later earlier => modelClass.Mentions earlier later) name := by
  induction builds with
  | @intro descriptor expression dependencies stamp wrappers values answers known hybrids siblings
      valuesAcc siblingsAcc =>
    intro name declared
    refine ⟨name, fun other mentions => ?_⟩
    -- A hybrid that is mentioned is built itself. Any other name mentions nothing.
    by_cases isHybrid : modelClass.isHybrid other = true
    · obtain ⟨sibling, found⟩ := isHybrid_iff.mp isHybrid
      rcases byValue_or_mem_dependencies (composed name descriptor declared) declared answers hybrids
        mentions isHybrid with member | ⟨_, listed⟩
      · exact valuesAcc other sibling member found other found
      · exact siblingsAcc _ listed sibling found other found
    · refine ⟨other, fun later ⟨found, _, hybrid, _⟩ => ?_⟩
      exact absurd (isHybrid_iff.mpr ⟨found, hybrid⟩) isHybrid

/-- The hybrids that a built hybrid leads to are built. -/
theorem Builds.reached (composed : modelClass.IsComposedOf Body.IsBasic)
    (builds : modelClass.Builds descriptor wrapper)
    (declared : modelClass.attribute? name = some (.hybrid descriptor))
    (reached : ReflTransGen modelClass.Mentions name other) {sibling : Descriptor}
    (found : modelClass.attribute? other = some (.hybrid sibling)) :
    ∃ built, modelClass.Builds sibling built := by
  induction reached generalizing sibling with
  | refl =>
    obtain rfl : descriptor = sibling := by simpa [declared] using found
    exact ⟨wrapper, builds⟩
  | tail _ mentions ih =>
    obtain ⟨earlier, leaf, declaredEarlier, mentioned⟩ := mentions
    obtain ⟨built, stamp, wrappers, values, answers, known, hybrids, siblings⟩ := ih declaredEarlier
    rcases byValue_or_mem_dependencies (composed _ earlier declaredEarlier) declaredEarlier answers
      hybrids ⟨earlier, leaf, declaredEarlier, mentioned⟩ (isHybrid_iff.mpr ⟨sibling, found⟩) with
      member | ⟨_, listed⟩
    · exact ⟨_, values _ sibling member found⟩
    · exact ⟨_, siblings _ listed sibling found⟩

/-- What leads to no infinite chain leads to no cycle. -/
theorem not_circular_of_acc
    (acc : Acc (fun later earlier => modelClass.Mentions earlier later) name) :
    ¬ modelClass.Circular name := by
  have acyclic {other : String}
      (acc : Acc (fun later earlier => modelClass.Mentions earlier later) other) :
      ¬ TransGen modelClass.Mentions other other := by
    induction acc with
    | intro other _ ih =>
      intro cycle
      obtain ⟨next, mentions, rest⟩ := TransGen.head'_iff.mp cycle
      exact ih next mentions (TransGen.tail' rest mentions)
  rintro ⟨other, reached, cycle⟩
  induction reached using ReflTransGen.head_induction_on with
  | refl => exact acyclic acc cycle
  | head mentions _ ih => exact ih (acc.inv mentions)

theorem Builds.not_circular (composed : modelClass.IsComposedOf Body.IsBasic)
    (builds : modelClass.Builds descriptor wrapper)
    (declared : modelClass.attribute? name = some (.hybrid descriptor)) :
    ¬ modelClass.Circular name :=
  not_circular_of_acc (builds.acc composed name declared)

/-- The names of the hybrids under evaluation while an attribute is read: they are different, and
each of the hybrids leads to the attribute. -/
structure Under (modelClass : ModelClass) (under : List String) (name : String) : Prop where
  nodup : under.Nodup
  leads : ∀ own ∈ under, TransGen modelClass.Mentions own name

namespace Under

variable {under : List String}

theorem nil : modelClass.Under [] name :=
  ⟨List.nodup_nil, nofun⟩

theorem push (holds : modelClass.Under under name) (outside : name ∉ under)
    (mentions : TransGen modelClass.Mentions name other) :
    modelClass.Under (under ++ [name]) other where
  nodup := by
    have disjoint : under.Disjoint [name] := by simpa using outside
    exact holds.nodup.append (List.nodup_singleton _) disjoint
  leads own member := by
    rcases List.mem_append.mp member with member | member
    · exact (holds.leads own member).trans mentions
    · obtain rfl := List.mem_singleton.mp member
      exact mentions

/-- No more hybrids are under evaluation than the class has. -/
theorem length_le (holds : modelClass.Under under name) :
    under.length ≤ modelClass.hybrids.length := by
  have listed : under ⊆ modelClass.hybrids.map (·.1) := by
    intro own member
    obtain ⟨_, ⟨found, _, declared, _⟩, _⟩ := TransGen.head'_iff.mp (holds.leads own member)
    exact List.mem_map.mpr ⟨_, modelClass.mem_hybrids declared, rfl⟩
  have bound := List.Nodup.length_le_of_subset holds.nodup listed
  rwa [List.length_map] at bound

/-- A hybrid that leads to no cycle is not under evaluation. -/
theorem not_mem (holds : modelClass.Under under name) (acyclic : ¬ modelClass.Circular name) :
    name ∉ under := by
  intro member
  exact acyclic ⟨name, .refl, holds.leads name member⟩

end Under

end ModelClass

end Hybrid
