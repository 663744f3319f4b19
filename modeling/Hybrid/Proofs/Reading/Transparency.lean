import Hybrid.Proofs.Reading.Effects
import Hybrid.Proofs.Reading.Evaluation
import Hybrid.Proofs.Reading.History

/-! # When the instance caches are not seen

An instance reads an attribute as its evaluation gives it, if every value that is cached for a
hybrid is what each class that shares the hybrid would compute. A cache has no more than one value
for an instance. So reads are as if there were no caches exactly if the classes that share a hybrid
agree on its values.
-/

namespace Hybrid

/-- The frames of hybrids under evaluation for one instance of a class. -/
def ModelClass.frames (modelClass : ModelClass) (key : InstanceId) (under : List String) :
    List Frame :=
  under.map fun own => ⟨modelClass.id, some key, own⟩

/-- There is room for all hybrids of the class that a read starts from. -/
theorem Directory.length_hybrids_lt_room (directory : Directory) (modelClass : ModelClass) :
    modelClass.hybrids.length < directory.room modelClass := by
  unfold Directory.room
  rw [ModelClass.countHybrids, Nat.add_mul, Nat.mul_add]
  omega

/-- Reading a hybrid attribute of an instance reads the hybrid. -/
theorem ModelClass.getFor_hybrid {modelClass : ModelClass} {name : String} {descriptor : Descriptor}
    (declared : modelClass.attribute? name = some (.hybrid descriptor)) (directory : Directory)
    (key : InstanceId) :
    ∃ room, modelClass.getFor directory key name =
      descriptor.readInstance (directory.readsWithin room) directory modelClass key := by
  have ample := directory.length_hybrids_lt_room modelClass
  obtain ⟨room, enough⟩ : ∃ less, directory.room modelClass = less + 1 :=
    ⟨directory.room modelClass - 1, by omega⟩
  refine ⟨room, ?_⟩
  unfold ModelClass.getFor Directory.reads Reads.attributeOf
  rw [declared, enough]
  rfl

namespace Setting

/-- What is cached is what the classes that share the hybrid give. -/
def memo (setting : Setting) (among : ModelClass → Prop) (key : InstanceId)
    (values : Table String Value) (resets : Table HybridId Nat → Prop) : Ledger :=
  .ofFamily setting.family (fun _ _ _ => True)
    (fun descriptor other term => other = key → ∀ modelClass name, among modelClass →
      modelClass.attribute? name = some (.hybrid descriptor) → modelClass.Gives values name term)
    resets

/-- Some classes give the same for the hybrids that they share. -/
def Consistent (among : ModelClass → Prop) (values : Table String Value) : Prop :=
  ∀ first second name other descriptor term, among first → among second →
    first.attribute? name = some (.hybrid descriptor) →
      second.attribute? other = some (.hybrid descriptor) →
        first.Gives values name term → second.Gives values other term

/-- One class agrees with itself. -/
theorem Consistent.single (modelClass : ModelClass) (values : Table String Value) :
    Consistent (· = modelClass) values := by
  rintro _ _ name other descriptor term rfl rfl declared declaredOther ⟨depth, gives⟩
  exact ⟨depth, ModelClass.computed_congr declared declaredOther depth ▸ gives⟩

variable {setting : Setting} {among : ModelClass → Prop} {key other : InstanceId}
variable {values : Table String Value} {resets : Table HybridId Nat → Prop}
variable {modelClass : ModelClass} {name : String} {descriptor : Descriptor}

private theorem memo_value (family : setting.family modelClass)
    (declared : modelClass.attribute? name = some (.hybrid descriptor)) {term : Term} :
    (setting.memo among key values resets).value descriptor.id other term ↔
      (other = key → ∀ modelClass name, among modelClass →
        modelClass.attribute? name = some (.hybrid descriptor) →
          modelClass.Gives values name term) :=
  Ledger.ofFamily_value setting.descriptors (Descriptor.in_of_attribute? family declared)

section Instances

variable (within : ∀ modelClass, among modelClass → setting.family modelClass)
variable (consistent : Consistent among values) (member : among modelClass)
variable (composed : modelClass.IsComposedOf Body.IsBasic) (clear : setting.Clear key)
variable (fixed : setting.start.instances.get? key = some (.record values))

include fixed in
/-- Reading an attribute gives its outcome, if reading hybrids does. -/
private theorem attributeOf_outcome {reads : Reads} {stack : List Frame}
    {hybrid : Descriptor → Except HybridError Term} {store : Store}
    (hybrids : ∀ descriptor, modelClass.attribute? name = some (.hybrid descriptor) →
      (reads.ofInstance modelClass other descriptor).Ensures store fun outcome after =>
        (other = key → outcome.map Stamped.content = hybrid descriptor) ∧
          (setting.memo among key values resets).Keeps setting.start stack after)
    (keeps : (setting.memo among key values resets).Keeps setting.start stack store) :
    (reads.attributeOf modelClass other name).Ensures store fun outcome after =>
      (other = key →
        outcome.map Stamped.content = modelClass.attributeOutcome values hybrid name) ∧
          (setting.memo among key values resets).Keeps setting.start stack after := by
  refine Reads.attributeOf_fixed (· = modelClass.attributeOutcome values hybrid name) fixed keeps
    (fun declared => ?_) (fun declared => ?_) fun descriptor declared => ?_
  · rw [ModelClass.attributeOutcome, declared]
  · rw [ModelClass.attributeOutcome, declared]
  · rw [ModelClass.attributeOutcome, declared]
    exact hybrids descriptor declared

/-- A composed program is run on an instance as it answers, if attributes are read so. -/
private theorem run_answer {ledger : Ledger} {start : Store} {stack : List Frame} {reads : Reads}
    {directory : Directory} {body : Body} (key : InstanceId) (attributes : Body.Attributes)
    (composed : Body.Composed body)
    (each : ∀ leaf ∈ body.leaves (.onInstance modelClass key), ∀ name,
      leaf.attribute? = some name → ∀ store, ledger.Keeps start stack store →
        (reads.attributeOf modelClass other name).Ensures store fun outcome after =>
          (other = key → outcome.map Stamped.content = attributes name) ∧
            ledger.Keeps start stack after) :
    ∀ store, ledger.Keeps start stack store →
      (body.run reads directory (.onInstance modelClass other)).Ensures store
        (Body.Passes (ledger.Keeps start stack)
          (fun body outcome => other = key → body.answer attributes attributes = outcome) body) := by
  have restricted := composed.restrict (fun _ basic => basic) (.onInstance modelClass key)
  refine restricted.run_passes ((Body.answer_verdicts attributes attributes).under _) ?_
  rintro leaf ⟨basic, member⟩ store keeps
  have read {name : String} (reads : leaf.attribute? = some name) := each leaf member name reads
  cases basic with
  | expression expr =>
    rw [Body.run]
    exact ⟨fun _ => rfl, keeps⟩
  | reference name =>
    rw [Body.run]
    exact ⟨fun _ => rfl, keeps⟩
  | read isRead =>
    cases isRead with
    | constant value =>
      rw [Body.run]
      exact ⟨fun _ => rfl, keeps⟩
    | byName name =>
      rw [Body.run, Reads.byName]
      refine Action.ensures_bind_pure.mpr ((read rfl store keeps).mono ?_)
      exact fun outcome after ⟨expected, ended⟩ => ⟨fun same => (expected same).symm, ended⟩
    | byValue name =>
      rw [Body.run, Reads.byValue]
      refine Action.ensures_bind_pure.mpr ((read rfl store keeps).mono ?_)
      exact fun outcome after ⟨expected, ended⟩ => ⟨fun same => (expected same).symm, ended⟩

include within consistent member composed clear fixed in
/-- Reading a hybrid on the instance gives its evaluation under the hybrids on the build stack. -/
private theorem ofInstance_evaluation (room : Nat) :
    ∀ name descriptor under store, modelClass.attribute? name = some (.hybrid descriptor) →
      setting.Under key modelClass under name → modelClass.hybrids.length < room + under.length →
        (setting.memo among key values resets).Keeps setting.start (modelClass.frames other under)
            store →
          ((setting.directory.readsWithin room).ofInstance modelClass other descriptor).Ensures store
            fun outcome after =>
              (other = key →
                outcome.map Stamped.content = modelClass.evaluation values room under name) ∧
              (setting.memo among key values resets).Keeps setting.start
                (modelClass.frames other under) after := by
  induction room with
  | zero =>
    intro name descriptor under store _ holds ample
    have bound := holds.length_le
    omega
  | succ room ih =>
    intro name descriptor under store declared holds ample keeps
    have family := within modelClass member
    have pushed : modelClass.frames other (under ++ [descriptor.name]) =
        modelClass.frames other under ++ [⟨modelClass.id, some other, descriptor.name⟩] := by
      rw [ModelClass.frames, List.map_append]
      rfl
    have evaluates : modelClass.evaluation values (room + 1) under name =
        if descriptor.name ∈ under then
          .error (.cyclicDependency modelClass.name
            (under.dropWhile (· ≠ descriptor.name) ++ [descriptor.name]))
        else
          descriptor.body.answer
            (modelClass.evaluation values room (under ++ [descriptor.name]))
            (modelClass.evaluation values room (under ++ [descriptor.name])) :=
      ModelClass.attributeOutcome_hybrid declared _
    refine Descriptor.readInstance_keeps
      (fun outcome => other = key → outcome = modelClass.evaluation values (room + 1) under name)
      keeps ?cached ?cyclic ?runs
    case cached =>
      intro term known same
      obtain ⟨depth, gives⟩ :=
        (memo_value family declared).mp known same modelClass name member declared
      exact (evaluation_of_computed clear family composed holds ample gives).symm
    case cyclic =>
      intro chain cyclic _
      have building : store.building = under.map (Frame.mk modelClass.id (some other)) := keeps.building
      rw [Store.cycle?_of_building building] at cyclic
      rw [evaluates]
      split at cyclic
      · next again => rw [if_pos again, Option.some.inj cyclic]
      · cases cyclic
    case runs =>
      intro outside store keeps
      have fresh : descriptor.name ∉ under := by
        intro again
        exact outside (List.mem_map.mpr ⟨_, again, rfl⟩)
      rw [evaluates, if_neg fresh]
      rw [← pushed] at keeps ⊢
      refine (run_answer key (modelClass.evaluation values room (under ++ [descriptor.name]))
        (composed name descriptor declared) ?_ store keeps).mono ?_
      · intro leaf present read reads store keeps
        have holdsRead := holds.push declared fresh (needs_of_leaf declared present reads)
        have ampleRead : modelClass.hybrids.length < room + (under ++ [descriptor.name]).length := by
          rw [List.length_append, List.length_singleton]
          omega
        rw [← ModelClass.attributeOutcome_evaluation]
        exact attributeOf_outcome fixed
          (fun sibling found => ih read sibling _ store found holdsRead ampleRead keeps) keeps
      · rintro outcome after ⟨answered, ended⟩
        refine ⟨⟨fun same => (answered same).symm, ?_⟩, ended⟩
        rintro term rfl
        refine (memo_value family declared).mpr fun same owner second memberOwner declaredOwner => ?_
        have gives : modelClass.evaluation values (room + 1) under name = .ok term := by
          rw [evaluates, if_neg fresh]
          exact answered same
        have given : modelClass.Gives values name term :=
          ⟨room + 1, ModelClass.computed_of_evaluation composed gives⟩
        exact consistent modelClass owner name second descriptor term member memberOwner declared
          declaredOwner given

include within consistent member composed clear fixed in
private theorem getFor_evaluation (name : String) {store : Store}
    (keeps : (setting.memo among key values resets).Keeps setting.start [] store) :
    (modelClass.getFor setting.directory other name).Ensures store fun outcome after =>
      (other = key → outcome.map Stamped.content =
        modelClass.evaluation values (setting.directory.room modelClass) [] name) ∧
          (setting.memo among key values resets).Keeps setting.start [] after := by
  rw [← ModelClass.attributeOutcome_evaluation]
  refine attributeOf_outcome fixed (fun descriptor declared => ?_) keeps
  have ample := setting.directory.length_hybrids_lt_room modelClass
  exact ofInstance_evaluation within consistent member composed clear fixed
    (setting.directory.room modelClass) name descriptor [] store declared .nil ample keeps

end Instances

section Classes

variable {ledger : Ledger} {start store : Store} {directory : Directory}
variable (wrappers : ∀ hybrid owner wrapper, ledger.wrapper hybrid owner wrapper)
variable (composed : modelClass.IsComposedOf Body.IsBasic)

/-- A leaf of a composed program keeps on a class what reads of siblings keep. -/
private theorem leaf_keeps {reads : Reads} {stack : List Frame} {leaf : Body}
    (basic : Body.IsBasic leaf)
    (siblings : ∀ name sibling, modelClass.attribute? name = some (.hybrid sibling) →
      (reads.ofClass modelClass sibling).Ensures store fun _ after => ledger.Keeps start stack after)
    (keeps : ledger.Keeps start stack store) :
    (leaf.run reads directory (.onClass modelClass)).Ensures store
      fun _ after => ledger.Keeps start stack after := by
  cases basic with
  | expression expr =>
    rw [Body.run]
    exact keeps
  | reference name =>
    rw [Body.run]
    exact keeps
  | read isRead =>
    cases isRead with
    | constant value =>
      rw [Body.run]
      exact keeps
    | byName name =>
      rw [Body.run]
      exact keeps
    | byValue name =>
      rw [Body.run]
      unfold Reads.byValue
      dsimp only
      cases declared : modelClass.attribute? name with
      | none => exact keeps
      | some kind =>
        cases kind with
        | field => exact keeps
        | hybrid sibling =>
          exact Action.ensures_bind_pure.mpr (siblings name sibling declared)

include wrappers composed in
/-- Reads on a class put no values into caches. -/
private theorem ofClass_keeps (room : Nat) :
    ∀ name descriptor stack store, modelClass.attribute? name = some (.hybrid descriptor) →
      ledger.Keeps start stack store →
        ((directory.readsWithin room).ofClass modelClass descriptor).Ensures store
          fun _ after => ledger.Keeps start stack after := by
  induction room with
  | zero => exact fun name descriptor stack store _ keeps => keeps
  | succ room ih =>
    intro name descriptor stack store declared keeps
    refine Descriptor.readClass_anything (wrappers _ _) (fun stack => ?_)
      (fun other sibling found stack store keeps => ih other sibling stack store found keeps)
      stack store keeps
    refine Body.run_preserves fun leaf member _ store keeps => ?_
    have basic := (composed name descriptor declared).of_leaf (fun _ basic => basic) member
    exact leaf_keeps basic (fun other sibling found => ih other sibling _ store found keeps) keeps

include wrappers composed in
private theorem get_keeps (name : String) (keeps : ledger.Keeps start [] store) :
    (modelClass.get directory name).Ensures store fun _ after => ledger.Keeps start [] after := by
  refine (Reads.hybridOf_keeps (fun _ => True) keeps trivial trivial ?_).mono
    fun _ _ ended => ended.2
  intro descriptor declared
  exact (ofClass_keeps wrappers composed (directory.room modelClass) name descriptor [] store
    declared keeps).mono fun _ _ ended => ⟨trivial, ended⟩

end Classes

/-- What an instance reads of a class after a history. -/
def readAfter (setting : Setting) (history : List Access) (modelClass : ModelClass)
    (key : InstanceId) (name : String) : Except HybridError Term :=
  ((modelClass.getFor setting.directory key name).run
    (setting.start.after setting.directory history)).1.map Stamped.content

/-- After every history an instance reads what it reads when nothing was read before. -/
def Transparent (setting : Setting) (key : InstanceId) : Prop :=
  ∀ history, (∀ access ∈ history, access.Within setting.family) →
    ∀ modelClass name, setting.family modelClass →
      setting.readAfter history modelClass key name = setting.readAfter [] modelClass key name

/-- Classes that share a hybrid read the same term for it when nothing was read before, if one of
them reads a term. -/
def Agree (setting : Setting) (key : InstanceId) : Prop :=
  ∀ first second name other descriptor term, setting.family first → setting.family second →
    first.attribute? name = some (.hybrid descriptor) →
      second.attribute? other = some (.hybrid descriptor) →
        setting.readAfter [] first key name = .ok term →
          setting.readAfter [] second key other = .ok term

section Sharing

variable (composed : ∀ modelClass, setting.family modelClass → modelClass.IsComposedOf Body.IsBasic)
variable (clear : setting.Clear key)
variable (fixed : setting.start.instances.get? key = some (.record values))

include composed clear fixed in
/-- A first read gives the evaluation of the attribute. -/
private theorem readAfter_nil (family : setting.family modelClass) (name : String) :
    setting.readAfter [] modelClass key name =
      modelClass.evaluation values (setting.directory.room modelClass) [] name := by
  have within : ∀ other, other = modelClass → setting.family other := by
    rintro other rfl
    exact family
  have keeps : (setting.memo (· = modelClass) key values fun _ => True).Keeps setting.start []
      setting.start := .ofBlank setting.blank trivial
  exact (getFor_evaluation within (.single modelClass values) rfl (composed modelClass family) clear
    fixed name keeps).1 rfl

include composed clear fixed in
/-- What is read first is what the class gives. -/
private theorem readAfter_nil_eq_ok (family : setting.family modelClass) {term : Term} :
    setting.readAfter [] modelClass key name = .ok term ↔ modelClass.Gives values name term := by
  rw [readAfter_nil composed clear fixed family]
  constructor
  · intro gives
    exact ⟨_, ModelClass.computed_of_evaluation (composed modelClass family) gives⟩
  · rintro ⟨depth, gives⟩
    have ample := setting.directory.length_hybrids_lt_room modelClass
    exact evaluation_of_computed clear family (composed modelClass family) .nil ample gives

include composed clear fixed in
private theorem Agree.consistent (agree : setting.Agree key) :
    Consistent setting.family values := by
  intro first second name other descriptor term family familyOther declared declaredOther gives
  rw [← readAfter_nil_eq_ok composed clear fixed familyOther]
  refine agree first second name other descriptor term family familyOther declared declaredOther ?_
  rwa [readAfter_nil_eq_ok composed clear fixed family]

include composed clear fixed in
private theorem keeps_after (consistent : Consistent setting.family values) {history : List Access}
    (within : ∀ access ∈ history, access.Within setting.family) :
    (setting.memo setting.family key values fun _ => True).Keeps setting.start []
      (setting.start.after setting.directory history) := by
  refine (Ledger.Keeps.ofBlank setting.blank trivial).after (fun _ => trivial) ?_ ?_ within
  · intro modelClass name family store keeps
    exact get_keeps (fun _ _ _ _ _ _ => trivial) (composed modelClass family) name keeps
  · intro modelClass other name family store keeps
    exact (getFor_evaluation (fun _ family => family) consistent family (composed modelClass family)
      clear fixed name keeps).mono fun _ _ ended => ended.2

include composed clear fixed in
/-- After a first read, every class that shares the hybrid reads its term. -/
private theorem readAfter_shared {first second : ModelClass} {name other : String} {term : Term}
    (family : setting.family first) (declared : first.attribute? name = some (.hybrid descriptor))
    (declaredOther : second.attribute? other = some (.hybrid descriptor))
    (gives : setting.readAfter [] first key name = .ok term) :
    setting.readAfter [.ofInstance first key name] second key other = .ok term := by
  obtain ⟨room, reads⟩ := ModelClass.getFor_hybrid declared setting.directory key
  obtain ⟨roomOther, readsOther⟩ := ModelClass.getFor_hybrid declaredOther setting.directory key
  have keeps : (setting.memo (· = first) key values (· = setting.start.generations)).Keeps
      setting.start [] setting.start := .ofBlank setting.blank rfl
  have within : ∀ other, other = first → setting.family other := by
    rintro other rfl
    exact family
  have ended : (setting.memo (· = first) key values (· = setting.start.generations)).Keeps
      setting.start [] ((first.getFor setting.directory key name).run setting.start).2 :=
    (getFor_evaluation within (.single first values) rfl (composed first family) clear fixed name
      keeps).2
  have alive : ((first.getFor setting.directory key name).run setting.start).2.isAlive key = true := by
    unfold Store.isAlive
    rw [ended.covers.record fixed]
    rfl
  have cached := descriptor.value?_readInstance (setting.directory.readsWithin room)
    setting.directory first key setting.start
  rw [← reads] at cached
  change (((first.getFor setting.directory key name).run setting.start).1).map _ = _ at gives
  cases outcome : ((first.getFor setting.directory key name).run setting.start).1 with
  | error error =>
    rw [outcome] at gives
    cases gives
  | ok value =>
    rw [outcome] at gives
    have held := cached value outcome ended.covers.resets alive
    have hit := descriptor.readInstance_hit (setting.directory.readsWithin roomOther)
      setting.directory second held
    rw [← readsOther] at hit
    rw [← gives]
    exact congrArg (Except.map Stamped.content) hit

include composed clear fixed in
/-- Classes agree where the caches are not seen: what one has read, the others find. -/
theorem Transparent.agree (transparent : setting.Transparent key) : setting.Agree key := by
  intro first second name other descriptor term family familyOther declared declaredOther gives
  have within : ∀ access ∈ [Access.ofInstance first key name], access.Within setting.family := by
    simpa [Access.Within] using family
  rw [← transparent _ within second other familyOther]
  exact readAfter_shared composed clear fixed family declared declaredOther gives

include composed clear fixed in
/-- Caches are not seen where classes agree: whatever is cached is what every class would give. -/
theorem Agree.transparent (agree : setting.Agree key) : setting.Transparent key := by
  intro history within modelClass name family
  have consistent := agree.consistent composed clear fixed
  have keeps := keeps_after composed clear fixed consistent within
  rw [readAfter_nil composed clear fixed family]
  exact (getFor_evaluation (fun _ family => family) consistent family (composed modelClass family)
    clear fixed name keeps).1 rfl

include composed clear fixed in
/-- Caches are not seen where no two classes share a hybrid. -/
theorem transparent_of_unshared
    (unshared : ∀ first second name other descriptor, setting.family first → setting.family second →
      first.attribute? name = some (.hybrid descriptor) →
        second.attribute? other = some (.hybrid descriptor) → first = second) :
    setting.Transparent key := by
  refine Agree.transparent composed clear fixed ?_
  intro first second name other descriptor term family familyOther declared declaredOther gives
  obtain rfl := unshared first second name other descriptor family familyOther declared declaredOther
  rw [readAfter_nil_eq_ok composed clear fixed family] at gives ⊢
  exact Consistent.single first values first first name other descriptor term rfl rfl declared
    declaredOther gives

include composed clear fixed in
/-- Instances read after every history what they read first, exactly if classes that share a hybrid
agree on what is first read for it. -/
theorem transparent_iff : setting.Transparent key ↔ setting.Agree key :=
  ⟨Transparent.agree composed clear fixed, Agree.transparent composed clear fixed⟩

end Sharing

end Setting

end Hybrid

namespace Hybrid.Override

/-- What the base class declares under the name. -/
def ofBase : Descriptor :=
  ⟨⟨1⟩, "rate", .constant (.int 1)⟩

/-- What the derived class declares in its place. -/
def ofDerived : Descriptor :=
  ⟨⟨2⟩, "rate", .constant (.int 2)⟩

/-- A hybrid that both classes share. -/
def charge : Descriptor :=
  ⟨⟨3⟩, "charge", .byName "rate"⟩

def base : ModelClass where
  id := ⟨1⟩
  name := "Base"
  attributes := [("rate", .hybrid ofBase), ("charge", .hybrid charge)]
  registry := Store.sharedRegistry

def derived : ModelClass where
  id := ⟨2⟩
  name := "Derived"
  attributes := [("rate", .hybrid ofDerived), ("charge", .hybrid charge)]
  registry := Store.sharedRegistry

private theorem hybrids_base : base.hybrids = [("rate", ofBase), ("charge", charge)] := rfl

private theorem hybrids_derived :
    derived.hybrids = [("rate", ofDerived), ("charge", charge)] := rfl

/-- Both classes, and an instance without fields. -/
def setting : Setting where
  family modelClass := modelClass = base ∨ modelClass = derived
  directory := ⟨.empty, .empty, .empty⟩
  start := { Store.initial with instances := ⟨[(⟨1⟩, .record .empty)]⟩ }
  listed _ _ found := nomatch found
  classes := by
    rintro _ _ (rfl | rfl) (rfl | rfl) same
    · rfl
    · cases same
    · cases same
    · rfl
  descriptors := by
    refine .ofList [ofBase, ofDerived, charge] ?_ (by simp [ofBase, ofDerived, charge])
    rintro _ (rfl | rfl)
    · simp [hybrids_base]
    · simp [hybrids_derived]
  blank := .ofEmpty rfl rfl rfl _

theorem composed : ∀ modelClass, setting.family modelClass →
    modelClass.IsComposedOf Body.IsBasic := by
  rintro _ (rfl | rfl)
  · refine .ofHybrids ?_
    rw [hybrids_base]
    simp only [List.forall_mem_cons, List.not_mem_nil, IsEmpty.forall_iff, implies_true, and_true]
    exact ⟨.leaf (.read (.constant _)), .leaf (.read (.byName _))⟩
  · refine .ofHybrids ?_
    rw [hybrids_derived]
    simp only [List.forall_mem_cons, List.not_mem_nil, IsEmpty.forall_iff, implies_true, and_true]
    exact ⟨.leaf (.read (.constant _)), .leaf (.read (.byName _))⟩

/-- There are three hybrids in all. -/
theorem eq_of_in {descriptor : Descriptor} (known : descriptor.In setting.family) :
    descriptor = ofBase ∨ descriptor = ofDerived ∨ descriptor = charge := by
  obtain ⟨modelClass, rfl | rfl, name, member⟩ := known
  · simp only [hybrids_base, List.mem_cons, List.not_mem_nil, or_false, Prod.mk.injEq] at member
    exact member.imp And.right fun last => .inr last.2
  · simp only [hybrids_derived, List.mem_cons, List.not_mem_nil, or_false, Prod.mk.injEq] at member
    exact .inr (member.imp And.right And.right)

theorem charge_in : charge.In setting.family :=
  ⟨base, .inl rfl, "charge", List.mem_cons_of_mem _ (List.mem_cons_self ..)⟩

private theorem clear : setting.Clear ⟨1⟩ := by
  refine .ofNames composed ?_
  rintro _ (rfl | rfl)
  · simp [hybrids_base, ofBase, charge]
  · simp [hybrids_derived, ofDerived, charge]

/-- The derived class reads its own rate first, and that of the base once the base was read. -/
theorem readAfter_base :
    setting.readAfter [] derived ⟨1⟩ "charge" = .ok (.native (.int 2)) ∧
      setting.readAfter [.ofInstance base ⟨1⟩ "charge"] derived ⟨1⟩ "charge" =
        .ok (.native (.int 1)) :=
  ⟨rfl, rfl⟩

/-- The two classes do not agree on the charge, and so the caches are seen. -/
theorem not_transparent : ¬ setting.Transparent ⟨1⟩ := by
  have fixed : setting.start.instances.get? ⟨1⟩ = some (.record .empty) := rfl
  have first : setting.readAfter [] base ⟨1⟩ "charge" = .ok (.native (.int 1)) := rfl
  have second : setting.readAfter [] derived ⟨1⟩ "charge" = .ok (.native (.int 2)) := rfl
  rw [Setting.transparent_iff composed clear fixed]
  intro agree
  have same := agree base derived "charge" "charge" charge _ (.inl rfl) (.inr rfl) rfl rfl first
  rw [second] at same
  cases same

end Hybrid.Override
