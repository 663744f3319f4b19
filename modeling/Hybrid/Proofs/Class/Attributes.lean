import Hybrid.Session.Run
import Mathlib.Data.List.Induction
import Mathlib.Data.List.Perm.Basic

/-! # The attributes of a built class

The calls of a builder say what it declares and which base it inherits from last. A declaration
changes the list of attributes and the index of their positions together: in the place of an
inherited attribute of its name, or at the end. A run over declarations under distinct names lays
them over the inherited attributes, and a repeated name ends it.

The bases are themselves classes of a session, which a build leaves as they are.
-/

namespace Hybrid

namespace BuilderCall

/-- The attributes that a call declares. -/
def declares : BuilderCall → List (String × Attribute)
  | .field name => [(name, .field)]
  | .fields names => names.map fun name => (name, .field)
  | .hybrid descriptor => [(descriptor.name, .hybrid descriptor)]
  | .declare name kind => [(name, kind)]
  | .inherit _ | .registry _ => []

/-- The base that a call inherits from. -/
def base? : BuilderCall → Option ModelClass
  | .inherit base => some base
  | .field _ | .fields _ | .hybrid _ | .declare _ _ | .registry _ => none

/-- The attributes that calls declare, in order. -/
def declarations (calls : List BuilderCall) : List (String × Attribute) :=
  calls.flatMap declares

/-- The bases that calls inherit from, in order. -/
def bases (calls : List BuilderCall) : List ModelClass :=
  calls.filterMap base?

/-- The attributes of the last base. -/
def inheritance (calls : List BuilderCall) : List (String × Attribute) :=
  ((bases calls).getLast?.map fun base => base.attributes).getD []

end BuilderCall

namespace ClassBuilder

open BuilderCall

theorem fields_eq (builder : ClassBuilder) (names : List String) :
    builder.fields names =
      { builder with declared := builder.declared ++ names.map fun name => (name, .field) } := by
  unfold fields
  induction names generalizing builder with
  | nil => simp
  | cons name rest ih => simp [ih, field, declare]

theorem ofCalls_concat (name : String) (calls : List BuilderCall) (last : BuilderCall) :
    ofCalls name (calls ++ [last]) = (ofCalls name calls).call last :=
  List.foldl_concat ..

theorem name_call (builder : ClassBuilder) (call : BuilderCall) :
    (builder.call call).name = builder.name := by
  cases call with
  | fields names => rw [call, fields_eq]
  | _ => rfl

theorem declared_call (builder : ClassBuilder) (call : BuilderCall) :
    (builder.call call).declared = builder.declared ++ call.declares := by
  cases call with
  | fields names => rw [call, fields_eq]; rfl
  | field | hybrid | declare => rfl
  | inherit | registry => exact (List.append_nil _).symm

theorem inherited_call (builder : ClassBuilder) (call : BuilderCall) :
    (builder.call call).inherited =
      (call.base?.map fun base => base.attributes).getD builder.inherited := by
  cases call with
  | fields names => rw [call, fields_eq]; rfl
  | _ => rfl

@[simp] theorem name_ofCalls (name : String) (calls : List BuilderCall) :
    (ofCalls name calls).name = name := by
  induction calls using List.reverseRecOn with
  | nil => rfl
  | append_singleton calls last ih => rw [ofCalls_concat, name_call, ih]

@[simp] theorem declared_ofCalls (name : String) (calls : List BuilderCall) :
    (ofCalls name calls).declared = declarations calls := by
  induction calls using List.reverseRecOn with
  | nil => rfl
  | append_singleton calls last ih =>
    rw [ofCalls_concat, declared_call, ih]
    simp [declarations]

@[simp] theorem inherited_ofCalls (name : String) (calls : List BuilderCall) :
    (ofCalls name calls).inherited = inheritance calls := by
  induction calls using List.reverseRecOn with
  | nil => rfl
  | append_singleton calls last ih =>
    rw [ofCalls_concat, inherited_call, ih]
    cases base : last.base? with
    | none => simp [inheritance, bases, base]
    | some base' => simp [inheritance, bases, base]

end ClassBuilder

/-- Attributes with others laid over them: those of a name that is there take its place, the rest
follows. -/
def overlay (attributes later : List (String × Attribute)) : List (String × Attribute) :=
  (attributes.map fun entry => (entry.1, (later.lookup entry.1).getD entry.2)) ++
    later.filter fun entry => entry.1 ∉ attributes.map (·.1)

section Overlay

variable {attributes rest : List (String × Attribute)} {name : String} {kind : Attribute}

/-- The first of the attributes that are laid over may take its place before the others. -/
theorem overlay_cons_of_mem (known : name ∈ attributes.map (·.1)) (new : name ∉ rest.map (·.1)) :
    overlay attributes ((name, kind) :: rest) =
      overlay (attributes.map fun entry => if entry.1 = name then (name, kind) else entry)
        rest := by
  have replaced (entry : String × Attribute) :
      (if entry.1 = name then (name, kind) else entry).1 = entry.1 := by
    split
    next same => exact same.symm
    next => rfl
  unfold overlay
  rw [List.filter_cons_of_neg (by simpa using known), List.map_map, List.map_map]
  simp only [Function.comp_def, replaced]
  congr 1
  apply List.map_congr_left
  intro entry _
  by_cases same : entry.1 = name
  · rw [if_pos same, same, List.lookup_cons_self, Table.lookup_eq_none_iff.mpr new]
    rfl
  · rw [if_neg same, List.lookup_cons, beq_false_of_ne same]

/-- The first of the attributes that are laid over may follow before the others. -/
theorem overlay_cons_of_not_mem (unknown : name ∉ attributes.map (·.1))
    (new : name ∉ rest.map (·.1)) :
    overlay attributes ((name, kind) :: rest) = overlay (attributes ++ [(name, kind)]) rest := by
  have kept : ∀ entry ∈ attributes,
      ((name, kind) :: rest).lookup entry.1 = rest.lookup entry.1 := by
    intro entry member
    have differs : entry.1 ≠ name := ne_of_mem_of_not_mem (List.mem_map_of_mem member) unknown
    rw [List.lookup_cons, beq_false_of_ne differs]
  have follows : ∀ entry ∈ rest,
      decide (entry.1 ∉ attributes.map (·.1)) =
        decide (entry.1 ∉ (attributes ++ [(name, kind)]).map (·.1)) := by
    intro entry member
    have differs : entry.1 ≠ name := ne_of_mem_of_not_mem (List.mem_map_of_mem member) new
    simp [differs]
  unfold overlay
  rw [List.filter_cons_of_pos (by simpa using unknown), List.filter_congr follows, List.map_append,
    List.map_congr_left fun entry member => by rw [kept entry member]]
  simp [Table.lookup_eq_none_iff.mpr new]

/-- What is laid over goes before what it is laid over. -/
theorem lookup_overlay (attributes later : List (String × Attribute)) (key : String) :
    (overlay attributes later).lookup key = (later.lookup key).or (attributes.lookup key) := by
  unfold overlay
  rw [List.lookup_append, Table.lookup_map fun key kind => (later.lookup key).getD kind,
    Table.lookup_filter fun key => key ∉ attributes.map (·.1)]
  cases there : attributes.lookup key with
  | none =>
    have unknown : key ∉ attributes.map (·.1) := Table.lookup_eq_none_iff.mp there
    simp [unknown]
  | some kind =>
    have known : key ∈ attributes.map (·.1) := by
      by_contra unknown
      rw [Table.lookup_eq_none_iff.mpr unknown] at there
      cases there
    cases later.lookup key <;> simp [known]

end Overlay

namespace AttributeTable

variable {table : AttributeTable} {name : String} {kind : Attribute}

/-- The attributes in the place of those of a name. -/
theorem put_of_mem (known : name ∈ table.attributes.map (·.1)) :
    (table.put name kind).attributes =
      table.attributes.map fun entry => if entry.1 = name then (name, kind) else entry := by
  unfold put
  split
  next position found =>
    -- The index gives the name one position, so no other entry has it.
    have placed (place : Nat) :
        (table.attributes.map (·.1))[place]? = some name ↔ place = position := by
      rw [← table.indexed name place, found, Option.some.injEq, eq_comm]
    change table.attributes.set position (name, kind) = _
    apply List.ext_getElem?
    intro place
    have named := placed place
    rw [List.getElem?_map, Option.map_eq_some_iff] at named
    rw [List.getElem?_map]
    by_cases same : place = position
    · obtain ⟨entry, there, its⟩ := named.mpr same
      rw [← same, List.getElem?_set_self (List.getElem?_eq_some_iff.mp there).1, there,
        Option.map_some, if_pos its]
    · rw [List.getElem?_set_ne (Ne.symm same)]
      cases there : table.attributes[place]? with
      | none => rfl
      | some entry =>
        have other : entry.1 ≠ name := fun its => same (named.mp ⟨entry, there, its⟩)
        rw [Option.map_some, if_neg other]
  next absent => exact absurd known (table.indexed.get?_eq_none_iff.mp absent)

theorem put_of_not_mem (new : name ∉ table.attributes.map (·.1)) :
    (table.put name kind).attributes = table.attributes ++ [(name, kind)] := by
  unfold put
  split
  next position found =>
    have there := (table.indexed name position).mp found
    exact absurd (List.mem_of_getElem? there) new
  next => rfl

/-- Laying attributes over a table is putting the first of them into it and laying the others over
the outcome. -/
theorem overlay_put (rest : List (String × Attribute)) (new : name ∉ rest.map (·.1)) :
    overlay (table.put name kind).attributes rest =
      overlay table.attributes ((name, kind) :: rest) := by
  by_cases known : name ∈ table.attributes.map (·.1)
  · rw [put_of_mem known, overlay_cons_of_mem known new]
  · rw [put_of_not_mem known, overlay_cons_of_not_mem known new]

/-- A run ends at the first name that repeats an earlier one. -/
theorem putAll_error {given : List String} {declared : List (String × Attribute)}
    {repeated : String} (failed : table.putAll given declared = .error repeated) :
    ∃ before after, declared.map (·.1) = before ++ repeated :: after ∧ before.Nodup ∧
      (∀ earlier ∈ before, earlier ∉ given) ∧ (repeated ∈ given ∨ repeated ∈ before) := by
  induction declared generalizing table given with
  | nil => cases failed
  | cons declaration rest ih =>
    obtain ⟨name, kind⟩ := declaration
    unfold putAll at failed
    split at failed
    next known =>
      cases failed
      exact ⟨[], rest.map (·.1), rfl, List.nodup_nil, by simp, .inl known⟩
    next new =>
      obtain ⟨before, after, split, distinct, apart, known⟩ := ih failed
      simp only [List.mem_cons, not_or] at apart
      refine ⟨name :: before, after, by simp [split], ?_, ?_, ?_⟩
      · exact List.nodup_cons.mpr ⟨fun member => (apart name member).1 rfl, distinct⟩
      · simpa [new] using fun earlier member => (apart earlier member).2
      · rcases known with known | known
        · rcases List.mem_cons.mp known with rfl | known
          · exact .inr (List.mem_cons_self ..)
          · exact .inl known
        · exact .inr (List.mem_cons_of_mem _ known)

/-- A run that ends with a table was over distinct names, which it has laid over the attributes. -/
theorem putAll_ok {given : List String} {declared : List (String × Attribute)}
    {result : AttributeTable} (done : table.putAll given declared = .ok result) :
    (declared.map (·.1)).Nodup ∧ (∀ name ∈ declared.map (·.1), name ∉ given) ∧
      result.attributes = overlay table.attributes declared := by
  induction declared generalizing table given with
  | nil =>
    obtain rfl := Except.ok.inj done
    simp [overlay]
  | cons declaration rest ih =>
    obtain ⟨name, kind⟩ := declaration
    unfold putAll at done
    split at done
    next => cases done
    next new =>
      obtain ⟨distinct, apart, laid⟩ := ih done
      simp only [List.mem_cons, not_or] at apart
      have first : name ∉ rest.map (·.1) := fun member => (apart name member).1 rfl
      refine ⟨List.nodup_cons.mpr ⟨first, distinct⟩, ?_, ?_⟩
      · rw [List.map_cons, List.forall_mem_cons]
        exact ⟨new, fun other member => (apart other member).2⟩
      · rw [laid, overlay_put rest first]

end AttributeTable

namespace ModelClass

theorem attribute?_eq_none_iff {modelClass : ModelClass} {name : String} :
    modelClass.attribute? name = none ↔ name ∉ modelClass.attributes.map (·.1) := by
  rw [Option.eq_none_iff_forall_ne_some, List.mem_map]
  simp [attribute?_eq_some_iff]

/-- The fields and the hybrids are two parts of the attributes, each in the order of the whole. -/
theorem fields_hybrids (modelClass : ModelClass) :
    (modelClass.fields.map fun name => (name, Attribute.field)).Sublist modelClass.attributes ∧
      (modelClass.hybrids.map fun entry => (entry.1, Attribute.hybrid entry.2)).Sublist
        modelClass.attributes ∧
      ((modelClass.fields.map fun name => (name, Attribute.field)) ++
        modelClass.hybrids.map fun entry => (entry.1, Attribute.hybrid entry.2)).Perm
          modelClass.attributes := by
  unfold fields hybrids
  induction modelClass.attributes with
  | nil => simp
  | cons entry rest ih =>
    obtain ⟨inOrder, inOrder', parts⟩ := ih
    obtain ⟨name, kind⟩ := entry
    cases kind with
    | field => exact ⟨inOrder.cons_cons _, inOrder'.cons _, parts.cons _⟩
    | hybrid descriptor =>
      exact ⟨inOrder.cons _, inOrder'.cons_cons _, List.perm_middle.trans (parts.cons _)⟩

end ModelClass

namespace ClassBuilder

open BuilderCall

variable {name : String} {calls : List BuilderCall} {id : ClassId} {shared : RegistryId}

/-- All of what a build that succeeds has done. -/
theorem build_eq_ok {builder : ClassBuilder} {built : ModelClass}
    (success : builder.build id shared = .ok built) :
    (AttributeTable.ofList builder.inherited builder.distinct).putAll [] builder.declared =
        .ok built.toAttributeTable ∧
      built.id = id ∧ built.name = builder.name ∧
      built.registry = builder.chosenRegistry.getD shared := by
  unfold build at success
  split at success
  next => cases success
  next table done =>
    obtain rfl := Except.ok.inj success
    exact ⟨done, rfl, rfl, rfl⟩

/-- What is built lays the declarations over the inheritance. -/
theorem build_ok {built : ModelClass} (success : (ofCalls name calls).build id shared = .ok built) :
    ((declarations calls).map (·.1)).Nodup ∧
      built.attributes = overlay (inheritance calls) (declarations calls) := by
  obtain ⟨distinct, _, laid⟩ := AttributeTable.putAll_ok (build_eq_ok success).1
  rw [declared_ofCalls] at distinct laid
  refine ⟨distinct, laid.trans ?_⟩
  rw [← inherited_ofCalls name]
  rfl

/-- A name has what is declared under it, or else what the last base has under it. -/
theorem attribute?_of_build {built : ModelClass}
    (success : (ofCalls name calls).build id shared = .ok built) (key : String) :
    built.attribute? key = ((declarations calls).lookup key).or ((inheritance calls).lookup key) := by
  rw [ModelClass.attribute?_eq_lookup, (build_ok success).2, lookup_overlay]

/-- What fails to be built has a declaration that repeats the name of an earlier one. -/
theorem build_error {error : HybridError}
    (failed : (ofCalls name calls).build id shared = .error error) :
    ∃ before repeated after, (declarations calls).map (·.1) = before ++ repeated :: after ∧
      before.Nodup ∧ repeated ∈ before ∧ error = .duplicateAttribute name repeated := by
  unfold build at failed
  split at failed
  next repeated found =>
    obtain rfl := Except.error.inj failed
    obtain ⟨before, after, split, distinct, _, known⟩ := AttributeTable.putAll_error found
    rw [declared_ofCalls] at split
    have earlier : repeated ∈ before := known.resolve_left List.not_mem_nil
    exact ⟨before, repeated, after, split, distinct, earlier, by rw [name_ofCalls]⟩
  next => cases failed

/-- A class is built exactly if no name is declared twice. -/
theorem build_succeeds_iff :
    (∃ built, (ofCalls name calls).build id shared = .ok built) ↔
      ((declarations calls).map (·.1)).Nodup := by
  constructor
  · rintro ⟨built, success⟩
    exact (build_ok success).1
  · intro distinct
    cases outcome : (ofCalls name calls).build id shared with
    | ok built => exact ⟨built, rfl⟩
    | error error =>
      obtain ⟨before, repeated, after, split, _, known, _⟩ := build_error outcome
      rw [split] at distinct
      have apart := (List.nodup_append.mp distinct).2.2
      exact absurd rfl (apart repeated known repeated (List.mem_cons_self ..))

end ClassBuilder

namespace Session

/-- What calls stand for does not depend on the store. -/
theorem resolve_store (session : Session) (store : Store) :
    resolve { session with store } = session.resolve := by
  funext declaration
  cases declaration <;> rfl

theorem run_buildClass (session : Session) (slot name : String) (declarations : List Declaration)
    {calls : List BuilderCall} (resolved : declarations.mapM session.resolve = some calls) :
    (step (.buildClass slot name declarations)).run session =
      match session.store.buildClass (.ofCalls name calls) with
      | (.ok built, store) =>
        some (.modelClass built, { session with store, classes := session.classes.put slot built })
      | (.error error, store) => some (.failed error, { session with store }) := by
  simp only [step, onStore, StateT.run_bind, StateT.run_get, StateT.run_modifyGet, Option.pure_def,
    Option.bind_eq_bind, Option.bind_some, resolved]
  rcases session.store.buildClass (.ofCalls name calls) with ⟨_ | built, store⟩ <;> rfl

/-- What a step that builds a class answers, and which classes the session has after it. -/
theorem advance_buildClass (session : Session) (slot name : String) (declarations : List Declaration)
    {calls : List BuilderCall} (resolved : declarations.mapM session.resolve = some calls) :
    let (answered, after) := session.advance (.buildClass slot name declarations)
    match (ClassBuilder.ofCalls name calls).build ⟨session.store.next⟩ Store.sharedRegistry with
    | .ok built => answered.1 = .modelClass built ∧ after.classes = session.classes.put slot built
    | .error error => answered.1 = .failed error ∧ after.classes = session.classes := by
  unfold advance
  rw [← resolve_store session { session.store with events := [] }] at resolved
  dsimp only
  rw [run_buildClass _ slot name declarations resolved]
  unfold Store.buildClass
  dsimp only
  cases (ClassBuilder.ofCalls name calls).build ⟨session.store.next⟩ Store.sharedRegistry with
  | ok built => exact ⟨rfl, rfl⟩
  | error error => exact ⟨rfl, rfl⟩

/-- A step that builds a class leaves the classes under other names alone. -/
theorem get?_classes_buildClass {session : Session} {slot name other : String}
    {declarations : List Declaration} {calls : List BuilderCall}
    (resolved : declarations.mapM session.resolve = some calls) (differs : other ≠ slot) :
    (session.advance (.buildClass slot name declarations)).2.classes.get? other =
      session.classes.get? other := by
  have outcome := advance_buildClass session slot name declarations resolved
  dsimp only at outcome
  split at outcome
  next => rw [outcome.2, Table.get?_put, if_neg differs]
  next => rw [outcome.2]

end Session

namespace ClassBuilder

open BuilderCall

/-- A class is built unless the calls declare a name twice; the error then names the first
declaration that repeats an earlier one. The attributes of what is built are those of the last base
with the declared ones laid over them, under distinct names, and each is found under its name. The
fields and the hybrids are their two parts, and the bases stay what they are. -/
theorem build_attributes (name : String) (calls : List BuilderCall) (id : ClassId)
    (shared : RegistryId) :
    ((∃ built, (ofCalls name calls).build id shared = .ok built) ↔
      ((declarations calls).map (·.1)).Nodup) ∧
    (∀ error, (ofCalls name calls).build id shared = .error error →
      ∃ before repeated after, (declarations calls).map (·.1) = before ++ repeated :: after ∧
        before.Nodup ∧ repeated ∈ before ∧ error = .duplicateAttribute name repeated) ∧
    (∀ built, (ofCalls name calls).build id shared = .ok built →
      built.attributes = overlay (inheritance calls) (declarations calls) ∧
      (built.attributes.map (·.1)).Nodup ∧
      (∀ key kind, built.attribute? key = some kind ↔ (key, kind) ∈ built.attributes) ∧
      (∀ key, built.attribute? key = none ↔ key ∉ built.attributes.map (·.1)) ∧
      (built.fields.map fun key => (key, Attribute.field)).Sublist built.attributes ∧
      (built.hybrids.map fun entry => (entry.1, Attribute.hybrid entry.2)).Sublist built.attributes ∧
      ((built.fields.map fun key => (key, Attribute.field)) ++
        built.hybrids.map fun entry => (entry.1, Attribute.hybrid entry.2)).Perm built.attributes) ∧
    (∀ (session : Session) (slot other : String) (steps : List Declaration),
      steps.mapM session.resolve = some calls → other ≠ slot →
        (session.advance (.buildClass slot name steps)).2.classes.get? other =
          session.classes.get? other) := by
  refine ⟨build_succeeds_iff, fun _ => build_error, ?_,
    fun _ _ _ _ => Session.get?_classes_buildClass⟩
  intro built success
  exact ⟨(build_ok success).2, built.indexed.nodup, fun _ _ => ModelClass.attribute?_eq_some_iff,
    fun _ => ModelClass.attribute?_eq_none_iff, built.fields_hybrids⟩

end ClassBuilder

namespace Extension

def base : ModelClass where
  id := ⟨1⟩
  name := "Base"
  attributes := [("a", .field), ("b", .field), ("c", .field)]
  registry := Store.sharedRegistry

def constant : Descriptor :=
  ⟨⟨2⟩, "b", .constant (.int 7)⟩

/-- The calls of a class that inherits three fields, of which a hybrid takes the place of one. -/
def calls : List BuilderCall :=
  [.inherit base, .hybrid constant, .field "d"]

def session : Session :=
  { Session.initial with
    hybrids := Table.empty.put "constant" constant
    classes := Table.empty.put "Base" base }

theorem build_attributes_derived :
    ∃ built, (ClassBuilder.ofCalls "Derived" calls).build ⟨3⟩ Store.sharedRegistry = .ok built ∧
      built.attributes = [("a", .field), ("b", .hybrid constant), ("c", .field), ("d", .field)] ∧
      (session.advance (.buildClass "Derived" "Derived"
        [.inherit "Base", .hybrid "constant", .field "d"])).2.classes.get? "Base" = some base := by
  obtain ⟨succeeds, _, listing, unchanged⟩ :=
    ClassBuilder.build_attributes "Derived" calls ⟨3⟩ Store.sharedRegistry
  obtain ⟨built, success⟩ := succeeds.mpr (by decide)
  have base_stays := unchanged session "Derived" "Base"
    [.inherit "Base", .hybrid "constant", .field "d"] rfl (by decide)
  exact ⟨built, success, (listing built success).1, base_stays⟩

/-- A field that is declared twice. -/
example : (ClassBuilder.ofCalls "A" [.field "x", .field "x"]).build ⟨1⟩ Store.sharedRegistry =
    .error (.duplicateAttribute "A" "x") := rfl

end Extension

end Hybrid
