import Mathlib.Data.List.Forall2
import Hybrid.Proofs.Body.Leaves

/-! # Programs composed of reads and operations

Most hybrid functions are composed of constants, reads of the scope and operations on terms, and
pass every error on. What such a program gives follows from what its leaves give: a verdict on
outcomes that the operations respect holds of the program if it holds of the leaves.
-/

namespace Hybrid.Body

/-- A program put together from certain leaves by operations on terms. -/
inductive ComposedOf (Leaf : Body → Prop) : Body → Prop
  | leaf {body : Body} : Leaf body → ComposedOf Leaf body
  | combine (operator : Operator) {lhs rhs : Body} :
    ComposedOf Leaf lhs → ComposedOf Leaf rhs → ComposedOf Leaf (.combine operator lhs rhs)
  | negate {operand : Body} : ComposedOf Leaf operand → ComposedOf Leaf (.negate operand)
  | call (name : String) {arguments : List Body} :
    (∀ argument ∈ arguments, ComposedOf Leaf argument) → ComposedOf Leaf (.call name arguments)

/-- A constant, or an attribute of the scope by name or by value. -/
inductive IsRead : Body → Prop
  | constant (value : Value) : IsRead (.constant value)
  | byName (name : String) : IsRead (.byName name)
  | byValue (name : String) : IsRead (.byValue name)

/-- As `IsRead`, or an expression or a named reference, which are the same on either side. -/
inductive IsBasic : Body → Prop
  | read {body : Body} : IsRead body → IsBasic body
  | expression (expr : Expr) : IsBasic (.expression expr)
  | reference (name : String) : IsBasic (.reference name)

/-- A program composed of constants, reads of the scope and operations on terms. -/
abbrev Composed : Body → Prop := ComposedOf IsBasic

/-- A program composed of values, reads of the scope by name or by value, and operations on terms:
one that says the same on either side. -/
abbrev Calculation : Body → Prop := ComposedOf IsRead

theorem ComposedOf.mono {Leaf Other : Body → Prop} (weaker : ∀ body, Leaf body → Other body)
    {body : Body} (composed : ComposedOf Leaf body) : ComposedOf Other body := by
  induction composed with
  | leaf isLeaf => exact .leaf (weaker _ isLeaf)
  | combine operator _ _ left right => exact .combine operator left right
  | negate _ operand => exact .negate operand
  | call name _ each => exact .call name each

/-- Every calculation is a composed program. -/
theorem ComposedOf.composed {body : Body} (calculation : Calculation body) : Composed body :=
  calculation.mono fun _ => .read

theorem leaves_of_isBasic {scope : Scope} {body : Body} (basic : IsBasic body) :
    body.leaves scope = [body] := by
  cases basic with
  | read isRead => cases isRead <;> simp only [leaves]
  | expression expr => simp only [leaves]
  | reference name => simp only [leaves]

theorem mem_leavesList {scope : Scope} {leaf : Body} {bodies : List Body} :
    leaf ∈ leavesList scope bodies ↔ ∃ body ∈ bodies, leaf ∈ body.leaves scope := by
  induction bodies with
  | nil => simp [leavesList]
  | cons body rest ih => simp [leavesList, ih]

/-- Every leaf that may run is one that the program is composed of. -/
theorem ComposedOf.of_leaf {Leaf : Body → Prop} (basic : ∀ body, Leaf body → IsBasic body)
    {scope : Scope} {body leaf : Body} (composed : ComposedOf Leaf body)
    (member : leaf ∈ body.leaves scope) : Leaf leaf := by
  induction composed with
  | leaf isLeaf =>
    rw [leaves_of_isBasic (basic _ isLeaf), List.mem_singleton] at member
    exact member ▸ isLeaf
  | combine operator _ _ left right =>
    rw [leaves, List.mem_append] at member
    exact member.elim left right
  | negate _ operand =>
    rw [leaves] at member
    exact operand member
  | call name _ each =>
    rw [leaves, mem_leavesList] at member
    obtain ⟨argument, present, member⟩ := member
    exact each argument present member

/-- The leaves that a program is composed of are among those that may run. -/
theorem ComposedOf.restrict {Leaf : Body → Prop} (basic : ∀ body, Leaf body → IsBasic body)
    (scope : Scope) {body : Body} (composed : ComposedOf Leaf body) :
    ComposedOf (fun leaf => Leaf leaf ∧ leaf ∈ body.leaves scope) body := by
  induction composed with
  | leaf isLeaf =>
    exact .leaf ⟨isLeaf, by rw [leaves_of_isBasic (basic _ isLeaf)]; exact List.mem_singleton_self _⟩
  | combine operator _ _ left right =>
    refine .combine operator (left.mono fun leaf present => ⟨present.1, ?_⟩)
      (right.mono fun leaf present => ⟨present.1, ?_⟩)
    · rw [leaves]
      exact List.mem_append_left _ present.2
    · rw [leaves]
      exact List.mem_append_right _ present.2
  | negate _ operand =>
    refine .negate (operand.mono fun leaf present => ⟨present.1, ?_⟩)
    rw [leaves]
    exact present.2
  | call name _ each =>
    refine .call name fun argument member =>
      (each argument member).mono fun leaf present => ⟨present.1, ?_⟩
    rw [leaves]
    exact mem_leavesList.mpr ⟨argument, member, present.2⟩

/-- Verdicts on the outcomes of programs that operations on terms respect. -/
structure Verdicts (verdict : Body → Except HybridError Term → Prop) : Prop where
  combine {operator : Operator} {lhs rhs : Body} {left right : Term} :
    verdict lhs (.ok left) → verdict rhs (.ok right) →
      verdict (.combine operator lhs rhs) (Action.arithmeticOutcome (left.combine operator right))
  combineLeft {operator : Operator} {lhs rhs : Body} {error : HybridError} :
    verdict lhs (.error error) → verdict (.combine operator lhs rhs) (.error error)
  combineRight {operator : Operator} {lhs rhs : Body} {left : Term} {error : HybridError} :
    verdict lhs (.ok left) → verdict rhs (.error error) →
      verdict (.combine operator lhs rhs) (.error error)
  negate {operand : Body} {term : Term} :
    verdict operand (.ok term) → verdict (.negate operand) (Action.arithmeticOutcome term.negate)
  negateError {operand : Body} {error : HybridError} :
    verdict operand (.error error) → verdict (.negate operand) (.error error)
  call {name : String} {arguments : List Body} {terms : List Term} :
    List.Forall₂ (fun argument term => verdict argument (.ok term)) arguments terms →
      verdict (.call name arguments) (Action.arithmeticOutcome (Term.call name terms))
  /-- The first argument that fails ends the call. -/
  callError {name : String} {before : List Body} {terms : List Term} {argument : Body}
    {rest : List Body} {error : HybridError} :
    List.Forall₂ (fun argument term => verdict argument (.ok term)) before terms →
      verdict argument (.error error) →
        verdict (.call name (before ++ argument :: rest)) (.error error)

/-- Verdicts may be passed under a condition. -/
theorem Verdicts.under {verdict : Body → Except HybridError Term → Prop} (verdicts : Verdicts verdict)
    (condition : Prop) : Verdicts fun body outcome => condition → verdict body outcome where
  combine left right holds := verdicts.combine (left holds) (right holds)
  combineLeft left holds := verdicts.combineLeft (left holds)
  combineRight left right holds := verdicts.combineRight (left holds) (right holds)
  negate operand holds := verdicts.negate (operand holds)
  negateError operand holds := verdicts.negateError (operand holds)
  call all holds := verdicts.call (all.imp fun _ _ each => each holds)
  callError all fails holds := verdicts.callError (all.imp fun _ _ each => each holds) (fails holds)

section Run

variable {reads : Reads} {directory : Directory} {scope : Scope}
variable {kept : Store → Prop} {verdict : Body → Except HybridError Term → Prop}

/-- The verdict on a program holds of its outcome, and the store is kept. -/
abbrev Passes (kept : Store → Prop) (verdict : Body → Except HybridError Term → Prop) (body : Body)
    (outcome : Except HybridError Term) (after : Store) : Prop :=
  verdict body outcome ∧ kept after

/-- What running arguments gives: all their terms, or the error of the first that fails. -/
private theorem runList_passes {arguments : List Body}
    (each : ∀ argument ∈ arguments, ∀ store, kept store →
      (argument.run reads directory scope).Ensures store (Passes kept verdict argument)) :
    ∀ store, kept store →
      (runList reads directory scope arguments).Ensures store fun outcome after =>
        kept after ∧
          match outcome with
          | .ok terms => List.Forall₂ (fun argument term => verdict argument (.ok term)) arguments terms
          | .error error => ∃ before argument rest terms, arguments = before ++ argument :: rest ∧
            List.Forall₂ (fun argument term => verdict argument (.ok term)) before terms ∧
              verdict argument (.error error) := by
  induction arguments with
  | nil =>
    intro store keeps
    rw [runList, Action.ensures_pure]
    exact ⟨keeps, .nil⟩
  | cons argument rest ih =>
    intro store keeps
    rw [runList, Action.ensures_bind]
    refine (each argument (List.mem_cons_self ..) store keeps).mono
      fun outcome after ⟨passes, keeps⟩ => ?_
    cases outcome with
    | error error => exact ⟨keeps, [], argument, rest, [], rfl, .nil, passes⟩
    | ok term =>
      refine Action.ensures_bind.mpr
        ((ih (fun other member => each other (List.mem_cons_of_mem _ member)) after keeps).mono
          fun outcome after ⟨keeps, others⟩ => ?_)
      cases outcome with
      | ok terms => exact ⟨keeps, .cons passes others⟩
      | error error =>
        obtain ⟨before, failing, rest, terms, rfl, all, fails⟩ := others
        exact ⟨keeps, argument :: before, failing, rest, term :: terms, rfl, .cons passes all, fails⟩

/-- A composed program passes the verdicts that its leaves pass. -/
theorem ComposedOf.run_passes {Leaf : Body → Prop} (verdicts : Verdicts verdict)
    (leaf : ∀ leaf, Leaf leaf → ∀ store, kept store →
      (leaf.run reads directory scope).Ensures store (Passes kept verdict leaf))
    {body : Body} (composed : ComposedOf Leaf body) :
    ∀ store, kept store →
      (body.run reads directory scope).Ensures store (Passes kept verdict body) := by
  induction composed with
  | leaf isLeaf => exact leaf _ isLeaf
  | combine operator _ _ left right =>
    intro store keeps
    rw [Body.run, Action.ensures_bind]
    refine (left store keeps).mono fun outcome after ⟨passesLeft, keeps⟩ => ?_
    cases outcome with
    | error error => exact ⟨verdicts.combineLeft passesLeft, keeps⟩
    | ok leftTerm =>
      refine Action.ensures_bind.mpr ((right after keeps).mono
        fun outcome after ⟨passesRight, keeps⟩ => ?_)
      cases outcome with
      | error error => exact ⟨verdicts.combineRight passesLeft passesRight, keeps⟩
      | ok rightTerm =>
        exact Action.ensures_ofArithmetic.mpr ⟨verdicts.combine passesLeft passesRight, keeps⟩
  | negate _ operand =>
    intro store keeps
    rw [Body.run, Action.ensures_bind]
    refine (operand store keeps).mono fun outcome after ⟨passes, keeps⟩ => ?_
    cases outcome with
    | error error => exact ⟨verdicts.negateError passes, keeps⟩
    | ok term => exact Action.ensures_ofArithmetic.mpr ⟨verdicts.negate passes, keeps⟩
  | call name _ each =>
    intro store keeps
    rw [Body.run, Action.ensures_bind]
    refine (runList_passes each store keeps).mono fun outcome after ⟨keeps, arguments⟩ => ?_
    cases outcome with
    | ok terms => exact Action.ensures_ofArithmetic.mpr ⟨verdicts.call arguments, keeps⟩
    | error error =>
      obtain ⟨before, argument, rest, terms, rfl, all, fails⟩ := arguments
      exact ⟨verdicts.callError all fails, keeps⟩

end Run

end Hybrid.Body
