import Hybrid.Body
import Hybrid.Identity
import Hybrid.Table

/-! # Model classes

A class lists plain fields and hybrid attributes under distinct names, and has the registry that
its hybrids are wrapped with. It is built from declarations on top of the attributes of a base
class, of which a declaration of the same name takes the place.

The attributes are kept in order, with an index of their positions. Each declaration changes both,
and `Indexes` says that they go on to agree.
-/

namespace Hybrid

/-- A hybrid attribute, apart from the classes that declare it: a name and a function. -/
structure Descriptor where
  id : HybridId
  name : String
  body : Body

/-- An attribute of a class. -/
inductive Attribute where
  | field
  | hybrid (descriptor : Descriptor)

/-- An index gives each name of a list its position, and has no other names. -/
def Indexes (index : Table String Nat) (names : List String) : Prop :=
  ∀ name position, index.get? name = some position ↔ names[position]? = some name

/-- The positions of names in a list. -/
def positions (names : List String) : Table String Nat :=
  names.zipIdx.foldl (fun index entry => index.put entry.1 entry.2) .empty

namespace Indexes

variable {index : Table String Nat} {names : List String} {name : String}

theorem empty : Indexes .empty [] := by
  simp [Indexes]

/-- A name that has no position is not in the list. -/
theorem get?_eq_none_iff (agrees : Indexes index names) : index.get? name = none ↔ name ∉ names := by
  constructor
  · intro absent member
    obtain ⟨position, there⟩ := List.getElem?_of_mem member
    rw [(agrees name position).mpr there] at absent
    cases absent
  · intro absent
    cases found : index.get? name with
    | none => rfl
    | some position => exact absurd (List.mem_of_getElem? ((agrees name position).mp found)) absent

/-- A new name gets the position at the end. -/
theorem put (agrees : Indexes index names) (new : name ∉ names) :
    Indexes (index.put name names.length) (names ++ [name]) := by
  intro other position
  rw [Table.get?_put, List.getElem?_append]
  split
  next same =>
    subst same
    split
    next inside =>
      have absent : names[position]? ≠ some other := fun there => new (List.mem_of_getElem? there)
      simp only [Option.some.injEq, absent, iff_false]
      omega
    next outside =>
      simp only [Option.some.injEq, List.getElem?_singleton]
      split
      next last => simpa using (by omega : names.length = position)
      next beyond => simpa using (by omega : names.length ≠ position)
  next differs =>
    rw [agrees]
    split
    next inside => rfl
    next outside =>
      rw [List.getElem?_eq_none (by omega), List.getElem?_singleton]
      split
      · simp [Ne.symm differs]
      · rfl

/-- No name is in the list twice. -/
theorem nodup (agrees : Indexes index names) : names.Nodup := by
  rw [List.nodup_iff_pairwise_ne, List.pairwise_iff_getElem]
  intro first second inside inside' less same
  have one := (agrees names[first] first).mpr (List.getElem?_eq_getElem inside)
  have other := (agrees names[second] second).mpr (List.getElem?_eq_getElem inside')
  rw [same, other] at one
  have := Option.some.inj one
  omega

end Indexes

theorem indexes_positions {names : List String} (distinct : names.Nodup) :
    Indexes (positions names) names := by
  have from_seen (rest seen : List String) (index : Table String Nat) (agrees : Indexes index seen)
      (apart : (seen ++ rest).Nodup) :
      Indexes ((rest.zipIdx seen.length).foldl (fun index entry => index.put entry.1 entry.2) index)
        (seen ++ rest) := by
    induction rest generalizing seen index with
    | nil => simpa using agrees
    | cons name rest ih =>
      have new : name ∉ seen := fun member =>
        (List.nodup_append.mp apart).2.2 name member name (List.mem_cons_self ..) rfl
      have longer := ih (seen ++ [name]) _ (agrees.put new) (by simpa using apart)
      simpa using longer
  exact from_seen names [] .empty .empty distinct

/-- Names and attributes in an order, with an index of the positions of the names. -/
structure AttributeTable where
  /-- In order of declaration, inherited ones first. -/
  attributes : List (String × Attribute)
  index : Table String Nat := positions (attributes.map (·.1))
  indexed : Indexes index (attributes.map (·.1)) := by exact indexes_positions (by decide)

namespace AttributeTable

/-- The table of distinct names. -/
def ofList (attributes : List (String × Attribute)) (distinct : (attributes.map (·.1)).Nodup) :
    AttributeTable where
  attributes
  indexed := indexes_positions distinct

/-- Gives a name an attribute: at its position if it has one, or else at the end. -/
def put (table : AttributeTable) (name : String) (kind : Attribute) : AttributeTable :=
  match found : table.index.get? name with
  | some position =>
    { attributes := table.attributes.set position (name, kind)
      index := table.index
      indexed := by
        have there := (table.indexed name position).mp found
        obtain ⟨inside, same⟩ := List.getElem?_eq_some_iff.mp there
        have unchanged : (table.attributes.map (·.1)).set position name =
            table.attributes.map (·.1) := by
          rw [← same, List.set_getElem_self]
        rw [List.map_set, unchanged]
        exact table.indexed }
  | none =>
    { attributes := table.attributes ++ [(name, kind)]
      index := table.index.put name table.attributes.length
      indexed := by
        have longer := table.indexed.put (table.indexed.get?_eq_none_iff.mp found)
        simpa using longer }

/-- Gives names attributes one after the other, up to one that repeats an earlier name or one of
`given`. -/
def putAll (table : AttributeTable) (given : List String) :
    List (String × Attribute) → Except String AttributeTable
  | [] => .ok table
  | (name, kind) :: rest =>
    if name ∈ given then .error name else (table.put name kind).putAll (name :: given) rest

end AttributeTable

/-- A class of instances. -/
structure ModelClass extends AttributeTable where
  id : ClassId
  name : String
  registry : RegistryId

namespace ModelClass

/-- The attribute of that name. -/
def attribute? (modelClass : ModelClass) (name : String) : Option Attribute :=
  (modelClass.index.get? name).bind fun position => modelClass.attributes[position]?.map (·.2)

/-- What is found under a name is what is listed with it. -/
theorem attribute?_eq_some_iff {modelClass : ModelClass} {name : String} {kind : Attribute} :
    modelClass.attribute? name = some kind ↔ (name, kind) ∈ modelClass.attributes := by
  have placed (position : Nat) : modelClass.index.get? name = some position ↔
      ∃ kind, modelClass.attributes[position]? = some (name, kind) := by
    simp [modelClass.indexed name position]
  unfold attribute?
  rw [Option.bind_eq_some_iff, List.mem_iff_getElem?]
  constructor
  · rintro ⟨position, found, there⟩
    obtain ⟨other, listed⟩ := (placed position).mp found
    rw [listed] at there
    obtain rfl := Option.some.inj there
    exact ⟨position, listed⟩
  · rintro ⟨position, listed⟩
    exact ⟨position, (placed position).mpr ⟨kind, listed⟩, by rw [listed]; rfl⟩

theorem attribute?_eq_lookup (modelClass : ModelClass) (name : String) :
    modelClass.attribute? name = modelClass.attributes.lookup name := by
  apply Option.ext
  intro kind
  rw [attribute?_eq_some_iff, Table.lookup_eq_some_iff_mem modelClass.indexed.nodup]

/-- The names of the plain fields, in order. -/
def fields (modelClass : ModelClass) : List String :=
  modelClass.attributes.filterMap fun
    | (name, .field) => some name
    | (_, .hybrid _) => none

/-- The hybrids with the names that they are declared under, in order. -/
def hybrids (modelClass : ModelClass) : List (String × Descriptor) :=
  modelClass.attributes.filterMap fun
    | (_, .field) => none
    | (name, .hybrid descriptor) => some (name, descriptor)

/-- The number of hybrids that several classes have. -/
def countHybrids : List ModelClass → Nat
  | [] => 0
  | modelClass :: rest => modelClass.hybrids.length + countHybrids rest

end ModelClass

/-- A call of the builder of a class. -/
inductive BuilderCall where
  | field (name : String)
  | fields (names : List String)
  | hybrid (descriptor : Descriptor)
  | declare (name : String) (kind : Attribute)
  | inherit (base : ModelClass)
  | registry (registry : RegistryId)

/-- A class that is being declared. -/
structure ClassBuilder where
  name : String
  inherited : List (String × Attribute)
  distinct : (inherited.map (·.1)).Nodup
  declared : List (String × Attribute)
  chosenRegistry : Option RegistryId

namespace ClassBuilder

/-- Starts a class without attributes. -/
def new (name : String) : ClassBuilder :=
  ⟨name, [], List.nodup_nil, [], none⟩

/-- Declares an attribute. -/
def declare (builder : ClassBuilder) (name : String) (kind : Attribute) : ClassBuilder :=
  { builder with declared := builder.declared ++ [(name, kind)] }

/-- Declares a plain field. -/
def field (builder : ClassBuilder) (name : String) : ClassBuilder :=
  builder.declare name .field

/-- Declares plain fields, in order. -/
def fields (builder : ClassBuilder) (names : List String) : ClassBuilder :=
  names.foldl field builder

/-- Declares a hybrid under its own name. -/
def hybrid (builder : ClassBuilder) (descriptor : Descriptor) : ClassBuilder :=
  builder.declare descriptor.name (.hybrid descriptor)

/-- Inherits the attributes of a class, instead of those of an earlier base, and its registry if
none is chosen yet. -/
def inherit (builder : ClassBuilder) (base : ModelClass) : ClassBuilder :=
  { builder with
    inherited := base.attributes
    distinct := base.indexed.nodup
    chosenRegistry := builder.chosenRegistry.or (some base.registry) }

/-- Chooses the registry. -/
def registry (builder : ClassBuilder) (registry : RegistryId) : ClassBuilder :=
  { builder with chosenRegistry := some registry }

/-- Carries out a call. -/
def call (builder : ClassBuilder) : BuilderCall → ClassBuilder
  | .field name => builder.field name
  | .fields names => builder.fields names
  | .hybrid descriptor => builder.hybrid descriptor
  | .declare name kind => builder.declare name kind
  | .inherit base => builder.inherit base
  | .registry registry => builder.registry registry

/-- The builder of a class after calls, in order. -/
def ofCalls (name : String) (calls : List BuilderCall) : ClassBuilder :=
  calls.foldl call (new name)

/-- The class as declared, unless a name is declared twice; `shared` is the registry of classes
that choose none. -/
def build (builder : ClassBuilder) (id : ClassId) (shared : RegistryId) :
    Except HybridError ModelClass :=
  match (AttributeTable.ofList builder.inherited builder.distinct).putAll [] builder.declared with
  | .error repeated => .error (.duplicateAttribute builder.name repeated)
  | .ok table =>
    .ok {
      toAttributeTable := table
      id
      name := builder.name
      registry := builder.chosenRegistry.getD shared }

end ClassBuilder

end Hybrid
