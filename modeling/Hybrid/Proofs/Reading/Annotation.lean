import Mathlib.Data.Set.List
import Hybrid.Proofs.Reading.Repetition

/-! # Annotating a row

A row can be given the value of a hybrid step by step: the wrappers that the hybrid depends on are
gone through in the order of annotation, each expression is evaluated in the row as it is by then,
and its value is put into the row under the name of the hybrid. What an expression refers to is in
the row when its turn comes. So each step has the value of the inlined expression on the row as it
was at first, also where a hybrid has been built twice.
-/

namespace Hybrid

/-- An expression has a value only if all names that occur in it have one. -/
theorem Expr.exists_value_of_occurs {environment : Environment} {expr : Expr} {value : Value}
    (evaluated : expr.valueIn environment = .ok (some value)) :
    ∀ name ∈ expr.occurrences, ∃ value, environment name = .ok (some value) := by
  induction expr generalizing value with
  | field name =>
    intro other occurs
    obtain rfl := List.mem_singleton.mp occurs
    exact ⟨value, evaluated⟩
  | literal _ => exact fun _ => nofun
  | combined operator lhs rhs left right =>
    obtain ⟨a, b, valueLeft, valueRight, -⟩ := Evaluated.of_combine_eq_some evaluated
    exact List.forall_mem_append.mpr ⟨left valueLeft, right valueRight⟩
  | negated operand ih =>
    obtain ⟨a, valueInside, -⟩ := Evaluated.of_negate_eq_some evaluated
    exact ih valueInside
  | call name arguments each =>
    obtain ⟨values, all, -⟩ := Evaluated.of_call_eq_some evaluated
    rw [valuesIn_eq] at all
    intro other occurs
    obtain ⟨argument, member, inside⟩ := mem_occurrencesList.mp occurs
    obtain ⟨part, present⟩ := Evaluated.exists_value_of_mem all (List.mem_map_of_mem member)
    exact each argument member present other inside

/-- The row with a value under a name. -/
def Row.annotate (row : Row) (name : String) (value : Value) : Row :=
  fun other => if other = name then some value else row other

/-- Goes through wrappers, evaluates the expression of each in the row as it is, and puts the value
into the row under the name of the wrapper. Gives all values, unless one of the steps has none. -/
def Row.annotations (row : Row) : List Wrapper → Option (List Value)
  | [] => some []
  | wrapper :: rest =>
    match wrapper.expression.toExpr.evaluate row with
    | .ok (some value) => ((row.annotate wrapper.name value).annotations rest).map (value :: ·)
    | _ => none

namespace ModelClass

variable {modelClass : ModelClass} {wrapper other : Wrapper}

namespace Has

section Standing

variable {row current : Row} {environment : Environment}
variable (own : modelClass.OwnNames) (standing : modelClass.Standing (.ofRow row) environment)

include standing

/-- A hybrid stands for the value of its inlined expression. -/
theorem evaluate_inline (has : modelClass.Has wrapper) :
    wrapper.inline.toExpr.evaluate row = environment wrapper.name := by
  obtain ⟨descriptor, declared, builds⟩ := has
  rw [Expr.evaluate_eq, standing.hybrid declared builds]

theorem valueIn_expression (has : modelClass.Has wrapper) :
    wrapper.expression.toExpr.valueIn environment = environment wrapper.name := by
  obtain ⟨descriptor, declared, builds⟩ := has
  rw [standing.hybrid declared builds, builds.valueIn_inline standing]

include own

/-- In a row that has the fields and the values of its dependencies, the expression of a wrapper has
the value that its hybrid stands for. -/
theorem evaluate_expression (has : modelClass.Has wrapper)
    (fields : ∀ name, modelClass.attribute? name = some .field → current name = row name)
    (siblings : ∀ sibling ∈ wrapper.siblings, .ok (current sibling.name) = environment sibling.name) :
    wrapper.expression.toExpr.evaluate current = environment wrapper.name := by
  rw [Expr.evaluate_eq, ← has.valueIn_expression standing]
  refine Expr.valueIn_congr fun name occurs => ?_
  rcases has.field_or_sibling own occurs with field | ⟨sibling, member, rfl⟩
  · rw [standing.field field, Environment.ofRow, Environment.ofRow, fields name field]
  · exact siblings sibling member

/-- Wherever a wrapper has a value, all that it depends on has one. -/
theorem exists_value_of_reaches (has : modelClass.Has wrapper) {value : Value}
    (evaluated : environment wrapper.name = .ok (some value)) (reaches : wrapper.Reaches other) :
    ∃ value, environment other.name = .ok (some value) := by
  induction reaches with
  | refl => exact ⟨value, evaluated⟩
  | @tail middle last begins member ih =>
    obtain ⟨inside, evaluatedMiddle⟩ := ih
    have hasMiddle := has.reaches own begins
    rw [← hasMiddle.valueIn_expression standing] at evaluatedMiddle
    exact Expr.exists_value_of_occurs evaluatedMiddle _ (hasMiddle.sibling own member).2

/-- Going through wrappers of which each comes after those that it depends on gives the values that
their hybrids stand for. -/
theorem annotations_eq_some {wrappers done : List Wrapper} (ordered : Wrapper.Ordered done wrappers)
    (all : ∀ wrapper ∈ wrappers, modelClass.Has wrapper)
    (fields : ∀ name, modelClass.attribute? name = some .field → current name = row name)
    (before : ∀ other ∈ done, .ok (current other.name) = environment other.name)
    {values : List Value} :
    current.annotations wrappers = some values ↔
      wrappers.map (fun wrapper => environment wrapper.name) =
        values.map fun value => .ok (some value) := by
  induction wrappers generalizing done current values with
  | nil => cases values <;> simp [Row.annotations]
  | cons wrapper rest ih =>
    obtain ⟨complete, orderedRest⟩ := ordered
    obtain ⟨has, hasRest⟩ := List.forall_mem_cons.mp all
    have step := has.evaluate_expression own standing fields fun sibling member =>
      before sibling (complete sibling member)
    rw [Row.annotations, step, List.map_cons]
    cases here : environment wrapper.name with
    | error error => cases values <;> simp
    | ok value? =>
      cases value? with
      | none => cases values <;> simp
      | some value =>
        have fieldsAfter (name : String) (field : modelClass.attribute? name = some .field) :
            current.annotate wrapper.name value name = row name := by
          have differ : name ≠ wrapper.name := by
            rintro rfl
            obtain ⟨descriptor, declared, -⟩ := has
            rw [declared] at field
            cases field
          rw [Row.annotate, if_neg differ, fields name field]
        -- A hybrid that was built twice gets the same value again.
        have after : ∀ other ∈ done ++ [wrapper],
            .ok (current.annotate wrapper.name value other.name) = environment other.name := by
          intro other member
          unfold Row.annotate
          split
          · next same => rw [same, here]
          · next differ =>
            rcases List.mem_append.mp member with member | member
            · exact before other member
            · exact absurd (congrArg Wrapper.name (List.mem_singleton.mp member)) differ
        have others (behind : List Value) :
            (current.annotate wrapper.name value).annotations rest = some behind ↔
              rest.map (fun wrapper => environment wrapper.name) =
                behind.map fun value => .ok (some value) :=
          ih orderedRest hasRest fieldsAfter after
        cases values with
        | nil => simp
        | cons first behind =>
          simp only [Option.map_eq_some_iff, others, List.map_cons, List.cons.injEq, Except.ok.injEq,
            Option.some.injEq]
          constructor
          · rintro ⟨_, each, rfl, rfl⟩
            exact ⟨rfl, each⟩
          · rintro ⟨rfl, each⟩
            exact ⟨behind, each, rfl, rfl⟩

end Standing

end Has

end ModelClass

namespace Setting

variable {setting : Setting} {modelClass : ModelClass} {history : List Access}

/-- After every history, annotating a row in the order of a wrapper that a class read returns ends
with the value of its inlined expression on the row, if every step has a value. This is so exactly if
the inlined expression has a value. -/
theorem annotations_annotationOrder
    (composed : ∀ modelClass, setting.family modelClass → modelClass.IsComposedOf Body.IsBasic)
    (own : ∀ modelClass, setting.family modelClass → modelClass.OwnNames)
    (standard : ∀ modelClass, setting.family modelClass →
      setting.start.registry modelClass.registry = .standard)
    (within : ∀ access ∈ history, access.Within setting.family)
    (family : setting.family modelClass) {name : String} {wrapper : Wrapper}
    (read : ((modelClass.get setting.directory name).run
      (setting.start.after setting.directory history)).1 = .ok wrapper) (row : Row) :
    (∀ values, row.annotations wrapper.annotationOrder = some values →
      ∃ value, values.getLast? = some value ∧
        wrapper.inline.toExpr.evaluate row = .ok (some value)) ∧
    ∀ value, wrapper.inline.toExpr.evaluate row = .ok (some value) →
      ∃ values, row.annotations wrapper.annotationOrder = some values ∧
        values.getLast? = some value := by
  have ownNames := own modelClass family
  obtain ⟨descriptor, declared, builds⟩ := builds_of_get composed own standard within family read
  obtain ⟨-, has⟩ := ModelClass.Has.ofAttribute ownNames declared builds
  obtain ⟨environment, standing⟩ :=
    ModelClass.exists_standing (composed modelClass family) (.ofRow row)
  obtain ⟨⟨before, last⟩, ordered, -, members⟩ :=
    Wrapper.annotationOrder_emits (distinguished_of_get within family read)
  have all : ∀ other ∈ wrapper.annotationOrder, modelClass.Has other :=
    fun other member => has.reaches ownNames ((members other).mp member)
  have steps (values : List Value) : row.annotations wrapper.annotationOrder = some values ↔
      wrapper.annotationOrder.map (environment ·.name) = values.map fun value => .ok (some value) :=
    ModelClass.Has.annotations_eq_some ownNames standing ordered all (fun _ _ => rfl) nofun
  have ends {values : List Value} (same : wrapper.annotationOrder.map (environment ·.name) =
      values.map fun value => .ok (some value)) :
      values.getLast?.map (fun value => .ok (some value)) = some (environment wrapper.name) := by
    rw [← List.getLast?_map, ← same, last]
    simp
  rw [has.evaluate_inline standing]
  constructor
  · intro values annotated
    obtain ⟨value, final, same⟩ := Option.map_eq_some_iff.mp (ends ((steps values).mp annotated))
    exact ⟨value, final, same.symm⟩
  · intro value evaluated
    have every : ∀ outcome ∈ wrapper.annotationOrder.map (environment ·.name),
        outcome ∈ Set.range fun value => .ok (some value) := by
      refine List.forall_mem_map.mpr fun other member => ?_
      obtain ⟨found, valued⟩ :=
        has.exists_value_of_reaches ownNames standing evaluated ((members other).mp member)
      exact ⟨found, valued.symm⟩
    obtain ⟨values, same⟩ := (Set.range_list_map _).ge every
    refine ⟨values, (steps values).mpr same.symm, ?_⟩
    obtain ⟨found, final, valued⟩ := Option.map_eq_some_iff.mp (ends same.symm)
    rw [evaluated] at valued
    cases valued
    exact final

end Setting

end Hybrid

namespace Hybrid.Invoice

private theorem annotations_total :
    Row.annotations (fun name => if name = "amount" then some (.int 5) else none)
        (totalAt 5 (subtotalAt 4)).annotationOrder =
      some [.int 5, .int 5, .int 10, .int 15] := by
  cbv

/-- The total lists its subtotal twice. Annotated along its order, a row of the amount five ends with
fifteen, which is the value of its inlined expression. -/
theorem annotations_annotationOrder_total :
    Row.annotations (fun name => if name = "amount" then some (.int 5) else none)
        (totalAt 5 (subtotalAt 4)).annotationOrder = some [.int 5, .int 5, .int 10, .int 15] ∧
      (totalAt 5 (subtotalAt 4)).inline.toExpr.evaluate
        (fun name => if name = "amount" then some (.int 5) else none) = .ok (some (.int 15)) := by
  refine ⟨annotations_total, ?_⟩
  obtain ⟨ends, -⟩ := Setting.annotations_annotationOrder composed ownNames standard within rfl
    get_total fun name => if name = "amount" then some (.int 5) else none
  obtain ⟨value, last, evaluated⟩ := ends _ annotations_total
  cases last
  exact evaluated

end Hybrid.Invoice
