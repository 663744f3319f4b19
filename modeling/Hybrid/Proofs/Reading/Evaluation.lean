import Mathlib.Data.List.Nodup
import Hybrid.Proofs.Body.Answer
import Hybrid.Proofs.Reading.Builds
import Hybrid.Proofs.Reading.Graph

/-! # What instances read without caches

The outcome of an attribute from the fixed fields of an instance and the functions alone: once with
the names of the hybrids under evaluation, as the build stack has them, and once without looking out
for cycles. What the second gives, the first gives too, as long as no hybrid under evaluation has
the name of another that it leads to.
-/

namespace Hybrid

open Relation

namespace Body

/-- The attribute of an instance that a leaf reads. -/
def attribute? : Body → Option String
  | .byName name => some name
  | .byValue name => some name
  | _ => none

variable {attributes attributes' : Attributes} {leaf body : Body}

theorem answer_of_attribute? {name : String} (reads : leaf.attribute? = some name) :
    leaf.answer attributes attributes = attributes name := by
  cases leaf <;> simp only [attribute?, Option.some.injEq, reduceCtorEq] at reads <;>
    subst reads <;> rfl

/-- A leaf that reads nothing has its answer of its own. -/
theorem answer_of_attribute?_none (basic : IsBasic leaf) (reads : leaf.attribute? = none) :
    leaf.answer attributes attributes = leaf.answer attributes' attributes' := by
  cases basic with
  | expression expr => rfl
  | reference name => rfl
  | read isRead =>
    cases isRead with
    | constant value => rfl
    | byName name => cases reads
    | byValue name => cases reads

/-- A program that answers goes on to do so when the attributes that it reads give the same. -/
theorem answer_mono_attributes (scope : Scope) (composed : Composed body)
    (reads : ∀ leaf ∈ body.leaves scope, ∀ name, leaf.attribute? = some name →
      ∀ term, attributes name = .ok term → attributes' name = .ok term) {term : Term}
    (answered : body.answer attributes attributes = .ok term) :
    body.answer attributes' attributes' = .ok term := by
  refine answer_mono scope composed ?_ answered
  intro leaf member result answered
  cases read : leaf.attribute? with
  | none =>
    have basic := composed.of_leaf (fun _ basic => basic) member
    rw [← answered]
    exact answer_of_attribute?_none basic read
  | some name =>
    rw [answer_of_attribute? read] at answered ⊢
    exact reads leaf member name read result answered

end Body

namespace ModelClass

variable (modelClass : ModelClass) (values : Table String Value)

/-- What an attribute gives for fixed fields, from what its hybrids give. -/
def attributeOutcome (hybrid : Descriptor → Except HybridError Term) : Body.Attributes := fun name =>
  match modelClass.attribute? name with
  | none => .error (.unknownAttribute modelClass.name name)
  | some .field => modelClass.fieldOutcome values name
  | some (.hybrid descriptor) => hybrid descriptor

/-- What an attribute gives if its functions are nested at most that deep. -/
def computed : (depth : Nat) → Body.Attributes
  | 0 => modelClass.attributeOutcome values fun _ => .error .exhausted
  | depth + 1 => modelClass.attributeOutcome values fun descriptor =>
    descriptor.body.answer (computed depth) (computed depth)

/-- What an attribute gives while the hybrids of these names are under evaluation. -/
def evaluation : (room : Nat) → (under : List String) → Body.Attributes
  | 0, _ => modelClass.attributeOutcome values fun _ => .error .exhausted
  | room + 1, under => modelClass.attributeOutcome values fun descriptor =>
    if descriptor.name ∈ under then
      .error (.cyclicDependency modelClass.name
        (under.dropWhile (· ≠ descriptor.name) ++ [descriptor.name]))
    else
      descriptor.body.answer (evaluation room (under ++ [descriptor.name]))
        (evaluation room (under ++ [descriptor.name]))

/-- An attribute gives the term, however deep its functions are nested. -/
def Gives (name : String) (term : Term) : Prop :=
  ∃ depth, modelClass.computed values depth name = .ok term

variable {modelClass values} {name other : String} {descriptor : Descriptor} {term : Term}

theorem attributeOutcome_hybrid (declared : modelClass.attribute? name = some (.hybrid descriptor))
    (hybrid : Descriptor → Except HybridError Term) :
    modelClass.attributeOutcome values hybrid name = hybrid descriptor := by
  unfold attributeOutcome
  rw [declared]

/-- Where hybrids go on to give what they give, attributes do. -/
theorem attributeOutcome_mono {hybrid hybrid' : Descriptor → Except HybridError Term}
    (mono : ∀ descriptor, modelClass.attribute? name = some (.hybrid descriptor) →
      hybrid descriptor = .ok term → hybrid' descriptor = .ok term)
    (gives : modelClass.attributeOutcome values hybrid name = .ok term) :
    modelClass.attributeOutcome values hybrid' name = .ok term := by
  unfold attributeOutcome at gives ⊢
  cases declared : modelClass.attribute? name with
  | none =>
    rw [declared] at gives
    cases gives
  | some kind =>
    rw [declared] at gives
    cases kind with
    | field => exact gives
    | hybrid descriptor => exact mono descriptor declared gives

/-- An evaluation differs from another in its hybrids only. -/
theorem attributeOutcome_evaluation (room : Nat) (under : List String) (name : String) :
    modelClass.attributeOutcome values (fun _ => modelClass.evaluation values room under name) name =
      modelClass.evaluation values room under name := by
  cases room <;>
    (unfold evaluation attributeOutcome; cases modelClass.attribute? name with
      | none => rfl
      | some kind => cases kind <;> rfl)

/-- What is given in spite of the guard against cycles is given without it. -/
theorem computed_of_evaluation (composed : modelClass.IsComposedOf Body.IsBasic) {room : Nat}
    {under : List String} (gives : modelClass.evaluation values room under name = .ok term) :
    modelClass.computed values room name = .ok term := by
  induction room generalizing under name term with
  | zero => exact gives
  | succ room ih =>
    refine attributeOutcome_mono (fun descriptor declared gives => ?_) gives
    split at gives
    · cases gives
    · exact Body.answer_mono_attributes (.onClass modelClass) (composed name descriptor declared)
        (fun _ _ other _ result given => ih given) gives

/-- A name of the same hybrid gives the same. -/
theorem computed_congr (first : modelClass.attribute? name = some (.hybrid descriptor))
    (second : modelClass.attribute? other = some (.hybrid descriptor)) (depth : Nat) :
    modelClass.computed values depth name = modelClass.computed values depth other := by
  cases depth <;>
    rw [computed, attributeOutcome_hybrid first, attributeOutcome_hybrid second]

end ModelClass

namespace Setting

variable {setting : Setting} {key : InstanceId} {values : Table String Value}
variable {modelClass : ModelClass} {name other : String} {descriptor : Descriptor} {term : Term}

/-- What an instance needs for a hybrid are the attributes of its class that the function reads. -/
theorem needs_onInstance (composed : modelClass.IsComposedOf Body.IsBasic) {reading : Reading}
    (needs : setting.Needs ⟨.onInstance modelClass key, name⟩ reading) :
    ∃ descriptor leaf other, modelClass.attribute? name = some (.hybrid descriptor) ∧
      leaf ∈ descriptor.body.leaves (.onInstance modelClass key) ∧ leaf.attribute? = some other ∧
        reading = ⟨.onInstance modelClass key, other⟩ := by
  cases needs with
  | named onClass _ => cases onClass
  | listed onClass _ _ => cases onClass
  | read reads =>
    obtain ⟨descriptor, hybrid, leaf, member, target⟩ := reads
    have declared := Reading.attribute?_of_hybrid? hybrid
    have basic := (composed name descriptor declared).of_leaf (fun _ basic => basic) member
    cases basic with
    | expression expr => cases target
    | reference other => cases target
    | read isRead =>
      cases isRead with
      | constant value => cases target
      | byName other =>
        exact ⟨descriptor, _, other, declared, member, rfl, (Option.some.inj target).symm⟩
      | byValue other =>
        exact ⟨descriptor, _, other, declared, member, rfl, (Option.some.inj target).symm⟩

theorem needs_of_leaf {leaf : Body} (declared : modelClass.attribute? name = some (.hybrid descriptor))
    (member : leaf ∈ descriptor.body.leaves (.onInstance modelClass key))
    (reads : leaf.attribute? = some other) :
    setting.Needs ⟨.onInstance modelClass key, name⟩ ⟨.onInstance modelClass key, other⟩ := by
  refine .read ⟨descriptor, Reading.hybrid?_eq_some (.onInstance modelClass key) declared, leaf,
    member, ?_⟩
  cases leaf <;> simp only [Body.attribute?, Option.some.injEq, reduceCtorEq] at reads <;>
    subst reads <;> rfl

/-- What a reading needs is computed at a lesser depth. -/
theorem computed_of_needs (composed : modelClass.IsComposedOf Body.IsBasic) {depth : Nat}
    {reading : Reading}
    (needed : TransGen setting.Needs ⟨.onInstance modelClass key, name⟩ reading)
    (gives : modelClass.computed values depth name = .ok term) :
    ∃ lesser < depth, ∃ other term, reading = ⟨.onInstance modelClass key, other⟩ ∧
      modelClass.computed values lesser other = .ok term := by
  have step {depth : Nat} {name : String} {term : Term} {reading : Reading}
      (needs : setting.Needs ⟨.onInstance modelClass key, name⟩ reading)
      (gives : modelClass.computed values depth name = .ok term) :
      ∃ lesser < depth, ∃ other term, reading = ⟨.onInstance modelClass key, other⟩ ∧
        modelClass.computed values lesser other = .ok term := by
    obtain ⟨descriptor, leaf, other, declared, member, reads, rfl⟩ := needs_onInstance composed needs
    cases depth with
    | zero =>
      rw [ModelClass.computed, ModelClass.attributeOutcome_hybrid declared] at gives
      cases gives
    | succ depth =>
      rw [ModelClass.computed, ModelClass.attributeOutcome_hybrid declared] at gives
      obtain ⟨result, given⟩ :=
        Body.exists_answer_of_leaf (composed name descriptor declared) member gives
      rw [Body.answer_of_attribute? reads] at given
      exact ⟨depth, Nat.lt_succ_self depth, other, result, rfl, given⟩
  induction needed with
  | single needs => exact step needs gives
  | tail _ needs ih =>
    obtain ⟨middle, less, other, result, rfl, given⟩ := ih
    obtain ⟨lesser, lower, found⟩ := step needs given
    exact ⟨lesser, Nat.lt_trans lower less, found⟩

/-- A hybrid that gives something does not need itself, under whatever name. -/
theorem not_computed_of_needs (composed : modelClass.IsComposedOf Body.IsBasic)
    (first : modelClass.attribute? name = some (.hybrid descriptor))
    (second : modelClass.attribute? other = some (.hybrid descriptor))
    (needed : TransGen setting.Needs ⟨.onInstance modelClass key, name⟩
      ⟨.onInstance modelClass key, other⟩) (depth : Nat) :
    ∀ term, modelClass.computed values depth name ≠ .ok term := by
  induction depth using Nat.strong_induction_on with
  | _ depth ih =>
    intro term gives
    obtain ⟨lesser, less, found, result, same, given⟩ := computed_of_needs composed needed gives
    obtain rfl : other = found := congrArg Reading.name same
    rw [← ModelClass.computed_congr first second] at given
    exact ih lesser less result given

/-- No hybrid that the instance reads has the name of another that it leads to. -/
def Clear (setting : Setting) (key : InstanceId) : Prop :=
  ∀ modelClass name, setting.family modelClass → ¬ setting.Clash ⟨.onInstance modelClass key, name⟩

/-- An instance needs nothing but attributes of its class. -/
private theorem scope_of_needs (composed : modelClass.IsComposedOf Body.IsBasic)
    {first second : Reading} (needed : ReflTransGen setting.Needs first second)
    (scope : first.scope = .onInstance modelClass key) :
    second.scope = .onInstance modelClass key := by
  induction needed with
  | refl => exact scope
  | @tail middle last _ needs ih =>
    obtain ⟨scope, name⟩ := middle
    obtain rfl : scope = .onInstance modelClass key := ih
    obtain ⟨_, _, other, _, _, _, rfl⟩ := needs_onInstance composed needs
    rfl

/-- No hybrids are mistaken for each other if those of a class that have one name are one. -/
theorem Clear.ofNames
    (composed : ∀ modelClass, setting.family modelClass → modelClass.IsComposedOf Body.IsBasic)
    (names : ∀ modelClass, setting.family modelClass → ∀ first ∈ modelClass.hybrids,
      ∀ second ∈ modelClass.hybrids, first.2.name = second.2.name → first.2 = second.2) :
    setting.Clear key := by
  rintro modelClass name family ⟨first, second, descriptor, other, reached, needed, -, hybrid,
    hybridOther, different, same⟩
  have scope := scope_of_needs (composed modelClass family) reached rfl
  have scopeOther := scope_of_needs (composed modelClass family) needed.to_reflTransGen scope
  have declared := Reading.attribute?_of_hybrid? hybrid
  have declaredOther := Reading.attribute?_of_hybrid? hybridOther
  rw [scope] at declared
  rw [scopeOther] at declaredOther
  exact different (names modelClass family _ (modelClass.mem_hybrids declared) _
    (modelClass.mem_hybrids declaredOther) same)

/-- The names of the hybrids under evaluation while an attribute is read: they are different, and
each is that of a hybrid which leads to the attribute. -/
structure Under (setting : Setting) (key : InstanceId) (modelClass : ModelClass)
    (under : List String) (name : String) : Prop where
  nodup : under.Nodup
  leads : ∀ own ∈ under, ∃ outer descriptor,
    modelClass.attribute? outer = some (.hybrid descriptor) ∧ descriptor.name = own ∧
      TransGen setting.Needs ⟨.onInstance modelClass key, outer⟩ ⟨.onInstance modelClass key, name⟩

namespace Under

variable {under : List String}

theorem nil : setting.Under key modelClass [] name :=
  ⟨List.nodup_nil, nofun⟩

theorem push (holds : setting.Under key modelClass under name)
    (declared : modelClass.attribute? name = some (.hybrid descriptor))
    (outside : descriptor.name ∉ under)
    (needs : setting.Needs ⟨.onInstance modelClass key, name⟩ ⟨.onInstance modelClass key, other⟩) :
    setting.Under key modelClass (under ++ [descriptor.name]) other where
  nodup := by
    have disjoint : under.Disjoint [descriptor.name] := by simpa using outside
    exact holds.nodup.append (List.nodup_singleton _) disjoint
  leads own member := by
    rcases List.mem_append.mp member with member | member
    · obtain ⟨outer, found, hybrid, same, needed⟩ := holds.leads own member
      exact ⟨outer, found, hybrid, same, needed.tail needs⟩
    · obtain rfl := List.mem_singleton.mp member
      exact ⟨name, descriptor, declared, rfl, .single needs⟩

/-- No more hybrids are under evaluation than the class has. -/
theorem length_le (holds : setting.Under key modelClass under name) :
    under.length ≤ modelClass.hybrids.length := by
  have listed : under ⊆ modelClass.hybrids.map (·.2.name) := by
    intro own member
    obtain ⟨outer, descriptor, declared, same, -⟩ := holds.leads own member
    exact List.mem_map.mpr ⟨_, modelClass.mem_hybrids declared, same⟩
  have bound := List.Nodup.length_le_of_subset holds.nodup listed
  rwa [List.length_map] at bound

/-- A hybrid that gives something is not among those under evaluation. -/
theorem not_mem (holds : setting.Under key modelClass under name) (clear : setting.Clear key)
    (family : setting.family modelClass) (composed : modelClass.IsComposedOf Body.IsBasic)
    (declared : modelClass.attribute? name = some (.hybrid descriptor)) {depth : Nat}
    (gives : modelClass.computed values depth name = .ok term) : descriptor.name ∉ under := by
  intro member
  obtain ⟨outer, found, hybrid, same, needed⟩ := holds.leads _ member
  have one : found = descriptor := by
    by_contra different
    refine clear modelClass outer family ⟨_, _, found, descriptor, .refl, needed, rfl, ?_, ?_,
      different, same⟩
    · exact Reading.hybrid?_eq_some (.onInstance modelClass key) hybrid
    · exact Reading.hybrid?_eq_some (.onInstance modelClass key) declared
  subst one
  rw [← ModelClass.computed_congr hybrid declared] at gives
  exact not_computed_of_needs composed hybrid declared needed depth term gives

end Under

/-- What an attribute gives, it gives under the hybrids that lead to it. -/
theorem evaluation_of_computed (clear : setting.Clear key) (family : setting.family modelClass)
    (composed : modelClass.IsComposedOf Body.IsBasic) {depth room : Nat} {under : List String}
    (holds : setting.Under key modelClass under name)
    (ample : modelClass.hybrids.length < room + under.length)
    (gives : modelClass.computed values depth name = .ok term) :
    modelClass.evaluation values room under name = .ok term := by
  induction depth generalizing room under name term with
  | zero =>
    cases room with
    | zero => exact gives
    | succ room =>
      refine ModelClass.attributeOutcome_mono (fun descriptor _ given => ?_) gives
      cases given
  | succ depth ih =>
    have bound := holds.length_le
    obtain ⟨room, rfl⟩ : ∃ less, room = less + 1 := ⟨room - 1, by omega⟩
    refine ModelClass.attributeOutcome_mono (fun descriptor declared given => ?_) gives
    have outside := holds.not_mem clear family composed declared gives
    rw [if_neg outside]
    refine Body.answer_mono_attributes (.onInstance modelClass key) (composed name descriptor declared)
      (fun leaf member other reads result given => ?_) given
    have pushed := holds.push declared outside (needs_of_leaf declared member reads)
    refine ih pushed ?_ given
    rw [List.length_append, List.length_singleton]
    omega

end Setting

end Hybrid
