import Hybrid.Proofs.Reading.Independence

/-! # Composition by name and by value

Where every name stands for a value, a composed function has a value too, whether it reads its
siblings by name or by value. The inlined expression of a built hybrid has the value of its function
where hybrids stand for the values of their own inlined expressions. So two classes that differ only
in how their hybrids read each other show hybrids of the same value on every row, although constants
are folded in one and left to be substituted in the other.
-/

namespace Hybrid

namespace Body

mutual

/-- The value of a composed program where attributes have values, however they are read; other
programs have none. -/
def valueIn (environment : Environment) : Body → Evaluated
  | .constant value => .ok (some value)
  | .expression expr => expr.valueIn environment
  | .byName name => environment name
  | .byValue name => environment name
  | .reference name => environment name
  | .combine operator lhs rhs =>
    .combine operator (lhs.valueIn environment) (rhs.valueIn environment)
  | .negate operand => .negate (operand.valueIn environment)
  | .call name arguments => .call (Term.calledName name) (valuesIn environment arguments)
  | _ => .ok none

def valuesIn (environment : Environment) : List Body → List Evaluated
  | [] => []
  | body :: rest => body.valueIn environment :: valuesIn environment rest

end

theorem valuesIn_eq (environment : Environment) (bodies : List Body) :
    valuesIn environment bodies = bodies.map (valueIn environment) := by
  induction bodies with
  | nil => rfl
  | cons body rest ih => rw [valuesIn, ih, List.map_cons]

variable {environment other : Environment} {body : Body} {term : Term}

/-- The value depends on what is mentioned alone. -/
theorem valueIn_congr (scope : Scope) (composed : Composed body)
    (agree : ∀ leaf ∈ body.leaves scope, ∀ name ∈ leaf.mentions, environment name = other name) :
    body.valueIn environment = body.valueIn other := by
  induction composed with
  | @leaf body isLeaf =>
    rw [leaves_of_isBasic isLeaf] at agree
    have names := agree body (List.mem_singleton_self _)
    cases isLeaf with
    | expression expr => exact Expr.valueIn_congr names
    | reference name => exact names name (List.mem_singleton_self _)
    | read isRead =>
      cases isRead with
      | constant value => rfl
      | byName name => exact names name (List.mem_singleton_self _)
      | byValue name => exact names name (List.mem_singleton_self _)
  | combine operator _ _ left right =>
    simp only [leaves, List.forall_mem_append] at agree
    rw [valueIn, valueIn, left agree.1, right agree.2]
  | negate _ operand =>
    simp only [leaves] at agree
    rw [valueIn, valueIn, operand agree]
  | call name _ each =>
    simp only [leaves, mem_leavesList] at agree
    rw [valueIn, valueIn, valuesIn_eq, valuesIn_eq]
    congr 1
    refine List.map_congr_left fun argument member => each argument member ?_
    exact fun leaf read => agree leaf ⟨argument, member, read⟩

/-- What a program answers on a class has its value, if this holds of what it reads by value. -/
theorem valueIn_answer {valued : Attributes} (scope : Scope) (composed : Composed body)
    (values : ∀ name part, .byValue name ∈ body.leaves scope → valued name = .ok part →
      part.toExpr.valueIn environment = environment name)
    (answered : body.answer ModelClass.named valued = .ok term) :
    term.toExpr.valueIn environment = body.valueIn environment := by
  induction composed generalizing term with
  | leaf isLeaf =>
    rw [leaves_of_isBasic isLeaf] at values
    cases isLeaf with
    | expression expr =>
      obtain rfl := Except.ok.inj answered
      rfl
    | reference name =>
      obtain rfl := Except.ok.inj answered
      rfl
    | read isRead =>
      cases isRead with
      | constant value =>
        obtain rfl := Except.ok.inj answered
        rfl
      | byName name =>
        obtain rfl := Except.ok.inj answered
        rfl
      | byValue name => exact values name term (List.mem_singleton_self _) answered
  | combine operator _ _ left right =>
    simp only [leaves, List.mem_append] at values
    obtain ⟨first, second, answerFirst, answerSecond, combined⟩ := answer_combine_eq_ok.mp answered
    rw [Term.valueIn_combine combined, valueIn,
      left (fun name part read => values name part (.inl read)) answerFirst,
      right (fun name part read => values name part (.inr read)) answerSecond]
  | negate _ operand =>
    simp only [leaves] at values
    obtain ⟨inner, answerInner, negated⟩ := answer_negate_eq_ok.mp answered
    rw [Term.valueIn_negate negated, valueIn, operand values answerInner]
  | @call name arguments _ each =>
    simp only [leaves, mem_leavesList] at values
    obtain ⟨terms, answers, called⟩ := answer_call_eq_ok.mp answered
    rw [Term.valueIn_call called, valueIn, valuesIn_eq]
    have all := (List.forall₂_and_left _ _).mpr ⟨fun _ member => member, answers⟩
    have same : List.Forall₂ (· = ·) (arguments.map (valueIn environment))
        (terms.map fun part => part.toExpr.valueIn environment) := by
      rw [List.forall₂_map_left_iff, List.forall₂_map_right_iff]
      refine all.imp fun argument part answered => ?_
      obtain ⟨member, answer⟩ := answered
      exact (each argument member (fun field inner read => values field inner ⟨argument, member, read⟩)
        answer).symm
    rw [List.forall₂_eq_eq_eq] at same
    rw [same]

/-- Two programs that differ in reading hybrids by name or by value alone. -/
inductive Restyles (hybrid : String → Prop) : Body → Body → Prop
  | same {body : Body} : IsBasic body → Restyles hybrid body body
  | byValue {name : String} : hybrid name → Restyles hybrid (.byName name) (.byValue name)
  | byName {name : String} : hybrid name → Restyles hybrid (.byValue name) (.byName name)
  | combine {lhs rhs lhs' rhs' : Body} (operator : Operator) : Restyles hybrid lhs lhs' →
    Restyles hybrid rhs rhs' → Restyles hybrid (.combine operator lhs rhs) (.combine operator lhs' rhs')
  | negate {operand operand' : Body} : Restyles hybrid operand operand' →
    Restyles hybrid (.negate operand) (.negate operand')
  | call {arguments : List (Body × Body)} (name : String) :
    (∀ pair ∈ arguments, Restyles hybrid pair.1 pair.2) →
      Restyles hybrid (.call name (arguments.map (·.1))) (.call name (arguments.map (·.2)))

namespace Restyles

variable {hybrid : String → Prop} {restyled : Body}

/-- Both programs have one value. -/
theorem valueIn (restyles : Restyles hybrid body restyled) :
    restyled.valueIn environment = body.valueIn environment := by
  induction restyles with
  | same _ => rfl
  | byValue _ => rfl
  | byName _ => rfl
  | combine operator _ _ left right => rw [Body.valueIn, Body.valueIn, left, right]
  | negate _ operand => rw [Body.valueIn, Body.valueIn, operand]
  | call name _ each =>
    rw [Body.valueIn, Body.valueIn, valuesIn_eq, valuesIn_eq, List.map_map, List.map_map]
    congr 1
    exact List.map_congr_left each

/-- Both programs mention the same names. -/
theorem mentions (restyles : Restyles hybrid body restyled) (scope other : Scope) (name : String) :
    (∃ leaf ∈ body.leaves scope, name ∈ leaf.mentions) ↔
      ∃ leaf ∈ restyled.leaves other, name ∈ leaf.mentions := by
  induction restyles with
  | same basic => rw [leaves_of_isBasic basic, leaves_of_isBasic basic]
  | byValue _ => simp [leaves, Body.mentions]
  | byName _ => simp [leaves, Body.mentions]
  | combine operator _ _ left right =>
    simp only [leaves, List.mem_append, or_and_right, exists_or, left, right]
  | negate _ operand =>
    simp only [leaves]
    exact operand
  | @call arguments function _ each =>
    have swap (bodies : List Body) (scope : Scope) :
        (∃ leaf ∈ (Body.call function bodies).leaves scope, name ∈ leaf.mentions) ↔
          ∃ argument ∈ bodies, ∃ leaf ∈ argument.leaves scope, name ∈ leaf.mentions := by
      simp only [leaves, mem_leavesList]
      constructor
      · rintro ⟨leaf, ⟨argument, member, read⟩, mentioned⟩
        exact ⟨argument, member, leaf, read, mentioned⟩
      · rintro ⟨argument, member, leaf, read, mentioned⟩
        exact ⟨leaf, ⟨argument, member, read⟩, mentioned⟩
    rw [swap, swap]
    simp only [List.mem_map, exists_exists_and_eq_and]
    exact exists_congr fun pair => and_congr_right fun member => each pair member

end Restyles

end Body

namespace ModelClass

variable {modelClass first second : ModelClass} {descriptor : Descriptor} {wrapper : Wrapper}
variable {name other : String} {leaf : Body} {row environment : Environment}

/-- What a function mentions is an attribute if the hybrid is built. -/
theorem Builds.attribute?_ne_none (builds : modelClass.Builds descriptor wrapper)
    (composed : Body.Composed descriptor.body)
    (member : leaf ∈ descriptor.body.leaves (.onClass modelClass)) (mentioned : other ∈ leaf.mentions) :
    modelClass.attribute? other ≠ none := by
  obtain ⟨stamp, wrappers, values, answers, known, hybrids, siblings⟩ := builds
  rcases byValue_or_mem_occurrences composed member mentioned answers with rfl | occurs
  · intro missing
    obtain ⟨part, answer⟩ := Body.exists_answer_of_leaf composed member answers
    rw [Body.answer, valued, missing] at answer
    cases answer
  · exact known other (Term.mem_fieldReferences.mpr occurs)

/-- The inlined expression of a built hybrid has the value of its function, where hybrids stand for
the values of their own inlined expressions. -/
theorem Builds.valueIn_body (standing : modelClass.Standing row environment)
    (builds : modelClass.Builds descriptor wrapper) (composed : Body.Composed descriptor.body) :
    wrapper.inline.toExpr.valueIn row = descriptor.body.valueIn environment := by
  rw [builds.valueIn_inline standing]
  obtain ⟨stamp, wrappers, values, answers, known, hybrids, siblings⟩ := builds
  refine Body.valueIn_answer (.onClass modelClass) composed (fun name part member given => ?_) answers
  unfold valued at given
  cases declared : modelClass.attribute? name with
  | none =>
    rw [declared] at given
    cases given
  | some kind =>
    rw [declared] at given
    cases kind with
    | field =>
      obtain rfl := Except.ok.inj given
      rfl
    | hybrid sibling =>
      have built := values name sibling member declared
      obtain rfl := Except.ok.inj given
      rw [standing.hybrid declared built, built.valueIn_inline standing]

end ModelClass

/-- Two attributes of which both are fields, or hybrids that differ in style alone. -/
inductive Attribute.Restyles (hybrid : String → Prop) : Attribute → Attribute → Prop
  | field : Restyles hybrid .field .field
  | hybrid {descriptor restyled : Descriptor} :
    Body.Restyles hybrid descriptor.body restyled.body →
      Restyles hybrid (.hybrid descriptor) (.hybrid restyled)

namespace ModelClass

/-- Two classes whose attributes differ in reading hybrids by name or by value alone. -/
def Restyles (first second : ModelClass) : Prop :=
  ∀ name, Option.Rel (Attribute.Restyles fun sibling => first.isHybrid sibling = true)
    (first.attribute? name) (second.attribute? name)

namespace Restyles

/-- Two classes that declare such attributes under the same names in the same order. -/
theorem ofAttributes {first second : ModelClass}
    (each : List.Forall₂ (fun one other => one.1 = other.1 ∧
      Attribute.Restyles (fun sibling => first.isHybrid sibling = true) one.2 other.2)
        first.attributes second.attributes) : first.Restyles second := by
  intro name
  rw [attribute?_eq_lookup, attribute?_eq_lookup]
  generalize first.attributes = declared, second.attributes = other at each
  induction each with
  | nil => exact .none
  | @cons one other _ _ related _ ih =>
    obtain ⟨same, related⟩ := related
    rw [List.lookup_cons, List.lookup_cons, ← same]
    cases name == one.1 with
    | true => exact .some related
    | false => exact ih

variable {first second : ModelClass} {name : String} {row environment restyled : Environment}

theorem field (restyles : first.Restyles second) (declared : first.attribute? name = some .field) :
    second.attribute? name = some .field := by
  have related := restyles name
  rw [declared] at related
  cases other : second.attribute? name with
  | none => rw [other] at related; cases related
  | some kind =>
    rw [other] at related
    cases related with
    | some related =>
      cases related
      rfl

theorem hybrid (restyles : first.Restyles second) {descriptor : Descriptor}
    (declared : first.attribute? name = some (.hybrid descriptor)) :
    ∃ restyled, second.attribute? name = some (.hybrid restyled) ∧
      Body.Restyles (fun sibling => first.isHybrid sibling = true) descriptor.body restyled.body := by
  have related := restyles name
  rw [declared] at related
  cases other : second.attribute? name with
  | none => rw [other] at related; cases related
  | some kind =>
    rw [other] at related
    cases related with
    | some related =>
      cases related with
      | hybrid body => exact ⟨_, rfl, body⟩

variable (restyles : first.Restyles second)
variable (composed : first.IsComposedOf Body.IsBasic) (composedSecond : second.IsComposedOf Body.IsBasic)
variable (standing : first.Standing row environment) (standingSecond : second.Standing row restyled)

include restyles composed composedSecond standing standingSecond

/-- What is built on both classes stands for one value on them. -/
theorem environment_eq {descriptor other : Descriptor} {wrapper wrapperSecond : Wrapper}
    (declared : first.attribute? name = some (.hybrid descriptor))
    (declaredSecond : second.attribute? name = some (.hybrid other))
    (builds : first.Builds descriptor wrapper) (buildsSecond : second.Builds other wrapperSecond) :
    environment name = restyled name := by
  -- What a function mentions comes before it, so this is by induction along the mentions.
  have acc := builds.acc composed name declared
  induction acc generalizing descriptor other wrapper wrapperSecond with
  | intro name _ ih =>
    have body := composed name descriptor declared
    obtain ⟨again, same, style⟩ := restyles.hybrid declared
    obtain rfl : again = other := by simpa [declaredSecond] using same.symm
    have agree : ∀ leaf ∈ descriptor.body.leaves (.onClass first), ∀ sibling ∈ leaf.mentions,
        environment sibling = restyled sibling := by
      intro leaf member sibling mentioned
      have mentions : first.Mentions name sibling := ⟨descriptor, leaf, declared, member, mentioned⟩
      cases found : first.attribute? sibling with
      | none => exact absurd found (builds.attribute?_ne_none body member mentioned)
      | some kind =>
        cases kind with
        | field => rw [standing.field found, standingSecond.field (restyles.field found)]
        | hybrid part =>
          obtain ⟨partSecond, foundSecond, -⟩ := restyles.hybrid found
          obtain ⟨leafSecond, memberSecond, mentionedSecond⟩ :=
            (style.mentions (.onClass first) (.onClass second) sibling).mp ⟨leaf, member, mentioned⟩
          have mentionsSecond : second.Mentions name sibling :=
            ⟨again, leafSecond, declaredSecond, memberSecond, mentionedSecond⟩
          obtain ⟨_, built⟩ := builds.reached composed declared (.single mentions) found
          obtain ⟨_, builtSecond⟩ :=
            buildsSecond.reached composedSecond declaredSecond (.single mentionsSecond) foundSecond
          exact ih sibling mentions found foundSecond built builtSecond
    calc environment name
        = descriptor.body.valueIn environment := by
          rw [standing.hybrid declared builds, builds.valueIn_body standing body]
      _ = descriptor.body.valueIn restyled := Body.valueIn_congr (.onClass first) body agree
      _ = again.body.valueIn restyled := style.valueIn.symm
      _ = restyled name := by
          rw [standingSecond.hybrid declaredSecond buildsSecond,
            buildsSecond.valueIn_body standingSecond (composedSecond name again declaredSecond)]

end Restyles

end ModelClass

namespace Setting

variable {first second : Setting} {modelClass restyled : ModelClass} {history other : List Access}

/-- Of two classes that differ in reading hybrids by name or by value alone, a hybrid that can be
read on both, after whatever history, has inlined expressions of one outcome on every row. -/
theorem inline_restyles
    (composed : ∀ modelClass, first.family modelClass → modelClass.IsComposedOf Body.IsBasic)
    (composedSecond : ∀ modelClass, second.family modelClass → modelClass.IsComposedOf Body.IsBasic)
    (own : ∀ modelClass, first.family modelClass → modelClass.OwnNames)
    (ownSecond : ∀ modelClass, second.family modelClass → modelClass.OwnNames)
    (standard : ∀ modelClass, first.family modelClass →
      first.start.registry modelClass.registry = .standard)
    (standardSecond : ∀ modelClass, second.family modelClass →
      second.start.registry modelClass.registry = .standard)
    (within : ∀ access ∈ history, access.Within first.family)
    (withinSecond : ∀ access ∈ other, access.Within second.family)
    (family : first.family modelClass) (familySecond : second.family restyled)
    (restyles : modelClass.Restyles restyled) {name : String} {wrapper wrapperSecond : Wrapper}
    (read : ((modelClass.get first.directory name).run
      (first.start.after first.directory history)).1 = .ok wrapper)
    (readSecond : ((restyled.get second.directory name).run
      (second.start.after second.directory other)).1 = .ok wrapperSecond) (row : Row) :
    wrapper.inline.toExpr.evaluate row = wrapperSecond.inline.toExpr.evaluate row := by
  have composedHere := composed modelClass family
  have composedThere := composedSecond restyled familySecond
  obtain ⟨descriptor, declared, builds⟩ := builds_of_get composed own standard within family read
  obtain ⟨descriptorSecond, declaredSecond, buildsSecond⟩ :=
    builds_of_get composedSecond ownSecond standardSecond withinSecond familySecond readSecond
  obtain ⟨environment, standing⟩ := ModelClass.exists_standing composedHere (.ofRow row)
  obtain ⟨environmentSecond, standingSecond⟩ := ModelClass.exists_standing composedThere (.ofRow row)
  rw [Expr.evaluate_eq, Expr.evaluate_eq, ← standing.hybrid declared builds,
    ← standingSecond.hybrid declaredSecond buildsSecond]
  exact restyles.environment_eq composedHere composedThere standing standingSecond declared
    declaredSecond builds buildsSecond

end Setting

end Hybrid

namespace Hybrid.Styles

def amountTwice : Descriptor :=
  ⟨⟨1⟩, "twice", .combine .add (.byName "amount") (.byName "amount")⟩

def rate : Descriptor :=
  ⟨⟨2⟩, "rate", .constant (.int 2)⟩

/-- Both siblings are read by name. -/
def byName : Descriptor :=
  ⟨⟨3⟩, "total", .combine .add (.byName "twice") (.combine .mul (.byName "rate") (.constant (.int 3)))⟩

/-- The rate is read by value, and folded with the constant. -/
def byValue : Descriptor :=
  ⟨⟨4⟩, "total", .combine .add (.byName "twice") (.combine .mul (.byValue "rate") (.constant (.int 3)))⟩

def named : ModelClass where
  id := ⟨1⟩
  name := "Named"
  attributes := [("amount", .field), ("twice", .hybrid amountTwice), ("rate", .hybrid rate),
    ("total", .hybrid byName)]
  registry := Store.sharedRegistry

def valued : ModelClass where
  id := ⟨2⟩
  name := "Valued"
  attributes := [("amount", .field), ("twice", .hybrid amountTwice), ("rate", .hybrid rate),
    ("total", .hybrid byValue)]
  registry := Store.sharedRegistry

private theorem hybrids_named :
    named.hybrids = [("twice", amountTwice), ("rate", rate), ("total", byName)] := rfl

private theorem hybrids_valued :
    valued.hybrids = [("twice", amountTwice), ("rate", rate), ("total", byValue)] := rfl

def setting : Setting where
  family modelClass := modelClass = named ∨ modelClass = valued
  directory := ⟨.empty, .empty, .empty⟩
  start := Store.initial
  listed _ _ found := nomatch found
  classes := by
    rintro _ _ (rfl | rfl) (rfl | rfl) same
    · rfl
    · cases same
    · cases same
    · rfl
  descriptors := by
    refine .ofList [amountTwice, rate, byName, byValue] ?_ (by simp [amountTwice, rate, byName, byValue])
    rintro _ (rfl | rfl)
    · simp [hybrids_named]
    · simp [hybrids_valued]
  blank := .ofEmpty rfl rfl rfl _

theorem composed : ∀ modelClass, setting.family modelClass →
    modelClass.IsComposedOf Body.IsBasic := by
  have whole {name : String} : Body.Composed (.byName name) := .leaf (.read (.byName name))
  have folded {name : String} : Body.Composed (.byValue name) := .leaf (.read (.byValue name))
  have number {value : Int64} : Body.Composed (.constant (.int value)) := .leaf (.read (.constant _))
  rintro _ (rfl | rfl)
  · refine .ofHybrids ?_
    rw [hybrids_named]
    simp only [List.forall_mem_cons, List.not_mem_nil, IsEmpty.forall_iff, implies_true, and_true]
    exact ⟨.combine _ whole whole, number, .combine _ whole (.combine _ whole number)⟩
  · refine .ofHybrids ?_
    rw [hybrids_valued]
    simp only [List.forall_mem_cons, List.not_mem_nil, IsEmpty.forall_iff, implies_true, and_true]
    exact ⟨.combine _ whole whole, number, .combine _ whole (.combine _ folded number)⟩

theorem ownNames : ∀ modelClass, setting.family modelClass → modelClass.OwnNames := by
  rintro _ (rfl | rfl)
  · refine .ofHybrids ?_
    simp [hybrids_named, amountTwice, rate, byName]
  · refine .ofHybrids ?_
    simp [hybrids_valued, amountTwice, rate, byValue]

theorem standard : ∀ modelClass, setting.family modelClass →
    setting.start.registry modelClass.registry = .standard := by
  rintro _ (rfl | rfl) <;> rfl

theorem restyles : named.Restyles valued := by
  have same {body : Body} (basic : Body.IsBasic body) :
      Body.Restyles (fun sibling => named.isHybrid sibling = true) body body := .same basic
  have name {name : String} : Body.IsBasic (.byName name) := .read (.byName name)
  have number {value : Int64} : Body.IsBasic (.constant (.int value)) := .read (.constant _)
  have totals : Body.Restyles (fun sibling => named.isHybrid sibling = true) byName.body byValue.body :=
    .combine _ (same name) (.combine _ (.byValue rfl) (same number))
  exact .ofAttributes (.cons ⟨rfl, .field⟩ (.cons ⟨rfl, .hybrid (.combine _ (same name) (same name))⟩
    (.cons ⟨rfl, .hybrid (same number)⟩ (.cons ⟨rfl, .hybrid totals⟩ .nil))))

/-- The total that refers to the rate. -/
def totalNamed : Wrapper :=
  .mk 3 (.symbolic (.combined .add (.field "twice")
      (.combined .mul (.field "rate") (.literal (.int 3))))) "total" ⟨1⟩ "Named"
    [("twice", .mk 1 (.symbolic (.combined .add (.field "amount") (.field "amount"))) "twice" ⟨1⟩
        "Named" []),
      ("rate", .mk 2 (.native (.int 2)) "rate" ⟨1⟩ "Named" [])]

/-- The total that was computed with the rate, once the other class was read. -/
def totalValued : Wrapper :=
  .mk 6 (.symbolic (.combined .add (.field "twice") (.literal (.int 6)))) "total" ⟨2⟩ "Valued"
    [("twice", .mk 5 (.symbolic (.combined .add (.field "amount") (.field "amount"))) "twice" ⟨2⟩
      "Valued" [])]

private theorem get_named : ((named.get setting.directory "total").run
    (setting.start.after setting.directory [])).1 = .ok totalNamed := by
  cbv

private theorem get_valued : ((valued.get setting.directory "total").run
    (setting.start.after setting.directory [.ofClass named "total", .reset rate])).1 =
      .ok totalValued := by
  cbv

/-- Both totals are sixteen where the amount is five. -/
theorem inline_totals :
    totalNamed.inline.toExpr.evaluate (fun _ => some (.int 5)) =
        totalValued.inline.toExpr.evaluate (fun _ => some (.int 5)) ∧
      totalValued.inline.toExpr.evaluate (fun _ => some (.int 5)) = .ok (some (.int 16)) := by
  have within : ∀ access ∈ [Access.ofClass named "total", .reset rate],
      access.Within setting.family := by
    simp [Access.Within, setting]
  refine ⟨?_, by cbv⟩
  exact Setting.inline_restyles composed composed ownNames ownNames standard standard (by simp) within
    (.inl rfl) (.inr rfl) restyles get_named get_valued _

end Hybrid.Styles
