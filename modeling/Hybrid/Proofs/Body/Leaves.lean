import Hybrid.Proofs.Action

/-! # What a program can do

A program is put together from leaves: constants, reads, errors of its own and effects. Whatever the
leaves that may run keep of the store, and whatever holds of their terms and errors, the program
keeps and holds too, as long as operations on terms respect it.
-/

namespace Hybrid

/-- A property of terms that operations on terms respect. -/
structure Term.Closed (holds : Term → Prop) : Prop where
  native (value : Value) : holds (.native value)
  combine {operator : Operator} {lhs rhs result : Term} :
    holds lhs → holds rhs → lhs.combine operator rhs = .ok result → holds result
  negate {operand result : Term} : holds operand → operand.negate = .ok result → holds result
  call {name : String} {arguments : List Term} {result : Term} :
    (∀ argument ∈ arguments, holds argument) → Term.call name arguments = .ok result → holds result

/-- What an outcome is like, given what results and errors are like. -/
def Outcome {α : Type} (result : α → Prop) (error : HybridError → Prop) :
    Except HybridError α → Prop
  | .ok value => result value
  | .error cause => error cause

/-- Operations respect what says nothing. -/
theorem Term.closed_true : Term.Closed fun _ => True :=
  ⟨fun _ => trivial, fun _ _ _ => trivial, fun _ _ => trivial, fun _ _ => trivial⟩

/-- Any outcome will do. -/
theorem Outcome.trivial {α : Type} (outcome : Except HybridError α) :
    Outcome (fun _ => True) (fun _ => True) outcome := by
  cases outcome <;> exact True.intro

/-- Less may be said of results and errors. -/
theorem Outcome.imp {α : Type} {result weaker : α → Prop} {error blame : HybridError → Prop}
    {outcome : Except HybridError α} (expected : Outcome result error outcome)
    (results : ∀ value, result value → weaker value) (errors : ∀ cause, error cause → blame cause) :
    Outcome weaker blame outcome := by
  cases outcome with
  | ok value => exact results value expected
  | error cause => exact errors cause expected

/-- The image of a result does not change an error. -/
theorem Outcome.map_iff {α β : Type} {image : α → β} {result : β → Prop} {error : HybridError → Prop}
    {outcome : Except HybridError α} :
    Outcome result error (outcome.map image) ↔
      Outcome (fun value => result (image value)) error outcome := by
  cases outcome <;> rfl

namespace Body

mutual

/-- The leaves of a program that may run against a scope. -/
def leaves (scope : Scope) : Body → List Body
  | .combine _ lhs rhs => leaves scope lhs ++ leaves scope rhs
  | .negate operand => leaves scope operand
  | .call _ arguments => leavesList scope arguments
  | .bySide onClass onInstance =>
    match scope with
    | .onClass _ => leaves scope onClass
    | .onInstance _ _ => leaves scope onInstance
  | .ifEqual lhs rhs same different =>
    leaves scope lhs ++ leaves scope rhs ++ leaves scope same ++ leaves scope different
  | .sequence bodies => leavesList scope bodies
  | .recover body fallback => leaves scope body ++ leaves scope fallback
  | .explain body => leaves scope body
  | leaf => [leaf]

/-- The leaves of several programs. -/
def leavesList (scope : Scope) : List Body → List Body
  | [] => []
  | body :: rest => leaves scope body ++ leavesList scope rest

end

/-- Whether a program is a leaf. -/
def IsLeaf : Body → Prop
  | .combine _ _ _ | .negate _ | .call _ _ | .bySide _ _ | .ifEqual _ _ _ _ | .sequence _
  | .recover _ _ | .explain _ => False
  | _ => True

section Rule

variable {reads : Reads} {directory : Directory} {scope : Scope}
variable {kept : Store → Prop} {result : Term → Prop} {error : HybridError → Prop}

/-- The store is kept and the outcome is as expected. -/
abbrev Keeps (kept : Store → Prop) {α : Type} (result : α → Prop) (error : HybridError → Prop)
    (outcome : Except HybridError α) (after : Store) : Prop :=
  Outcome result error outcome ∧ kept after

private theorem ofArithmetic_keeps {operation : Except ArithmeticError Term} {store : Store}
    (arithmetic : ∀ cause, error (.arithmetic cause)) (keeps : kept store)
    (holds : ∀ term, operation = .ok term → result term) :
    (Action.ofArithmetic operation).Ensures store (Keeps kept result error) := by
  rw [Action.ensures_ofArithmetic]
  cases operation with
  | ok term => exact ⟨holds term rfl, keeps⟩
  | error cause => exact ⟨arithmetic cause, keeps⟩

/-- Runs one program after another: what an error of the first is, is an error of both. -/
private theorem bind_keeps {α β : Type} {first : Action α} {next : α → Action β} {store : Store}
    {middle : α → Prop} {final : β → Prop}
    (start : first.Ensures store (Keeps kept middle error))
    (continues : ∀ value after, middle value → kept after →
      (next value).Ensures after (Keeps kept final error)) :
    (first >>= next).Ensures store (Keeps kept final error) := by
  rw [Action.ensures_bind]
  refine start.mono fun outcome after ⟨expected, keeps⟩ => ?_
  cases outcome with
  | ok value => exact continues value after expected keeps
  | error cause => exact ⟨expected, keeps⟩

/-- A choice by side is one of its two programs. -/
private theorem bySide_eq (reads : Reads) (directory : Directory) (scope : Scope)
    (onClass onInstance : Body) :
    ((bySide onClass onInstance).run reads directory scope = onClass.run reads directory scope ∧
      (bySide onClass onInstance).leaves scope = onClass.leaves scope) ∨
    ((bySide onClass onInstance).run reads directory scope = onInstance.run reads directory scope ∧
      (bySide onClass onInstance).leaves scope = onInstance.leaves scope) := by
  cases scope with
  | onClass modelClass => exact .inl ⟨by rw [Body.run], by rw [leaves]⟩
  | onInstance modelClass key => exact .inr ⟨by rw [Body.run], by rw [leaves]⟩

mutual

/-- A program keeps what its leaves keep. -/
theorem run_keeps (terms : Term.Closed result) (arithmetic : ∀ cause, error (.arithmetic cause)) :
    ∀ body : Body,
      (∀ leaf ∈ body.leaves scope, leaf.IsLeaf → ∀ store, kept store →
        (leaf.run reads directory scope).Ensures store (Keeps kept result error)) →
      ∀ store, kept store →
        (body.run reads directory scope).Ensures store (Keeps kept result error)
  | .combine operator lhs rhs, leaf, store, keeps => by
    simp only [leaves, List.mem_append] at leaf
    rw [Body.run]
    refine bind_keeps (run_keeps terms arithmetic lhs (fun other h => leaf other (.inl h)) store keeps)
      fun left after holdsLeft keeps => ?_
    refine bind_keeps (run_keeps terms arithmetic rhs (fun other h => leaf other (.inr h)) after keeps)
      fun right after holdsRight keeps => ?_
    exact ofArithmetic_keeps arithmetic keeps fun term => terms.combine holdsLeft holdsRight
  | .negate operand, leaf, store, keeps => by
    simp only [leaves] at leaf
    rw [Body.run]
    refine bind_keeps (run_keeps terms arithmetic operand leaf store keeps)
      fun term after holds keeps => ?_
    exact ofArithmetic_keeps arithmetic keeps fun term => terms.negate holds
  | .call name arguments, leaf, store, keeps => by
    simp only [leaves] at leaf
    rw [Body.run]
    refine bind_keeps (runList_keeps terms arithmetic arguments leaf store keeps)
      fun values after hold keeps => ?_
    exact ofArithmetic_keeps arithmetic keeps fun term => terms.call hold
  | .bySide onClass onInstance, leaf, store, keeps => by
    rcases bySide_eq reads directory scope onClass onInstance with
      ⟨runs, reaches⟩ | ⟨runs, reaches⟩
    · rw [runs]
      exact run_keeps terms arithmetic onClass (reaches ▸ leaf) store keeps
    · rw [runs]
      exact run_keeps terms arithmetic onInstance (reaches ▸ leaf) store keeps
  | .ifEqual lhs rhs same different, leaf, store, keeps => by
    simp only [leaves, List.mem_append] at leaf
    rw [Body.run]
    refine bind_keeps
      (run_keeps terms arithmetic lhs (fun other h => leaf other (.inl (.inl (.inl h)))) store keeps)
      fun left after _ keeps => ?_
    refine bind_keeps
      (run_keeps terms arithmetic rhs (fun other h => leaf other (.inl (.inl (.inr h)))) after keeps)
      fun right after _ keeps => ?_
    split
    · exact run_keeps terms arithmetic same (fun other h => leaf other (.inl (.inr h))) after keeps
    · exact run_keeps terms arithmetic different (fun other h => leaf other (.inr h)) after keeps
  | .sequence bodies, leaf, store, keeps => by
    simp only [leaves] at leaf
    rw [Body.run]
    refine bind_keeps (runList_keeps terms arithmetic bodies leaf store keeps)
      fun values after hold keeps => ?_
    rw [Action.ensures_pure]
    refine ⟨?_, keeps⟩
    cases last : values.getLast? with
    | none => exact terms.native .null
    | some value => exact hold value (List.mem_of_getLast? last)
  | .recover body fallback, leaf, store, keeps => by
    simp only [leaves, List.mem_append] at leaf
    rw [Body.run, Action.ensures_tryCatch]
    refine (run_keeps terms arithmetic body (fun other h => leaf other (.inl h)) store keeps).mono
      fun outcome after ⟨expected, keeps⟩ => ?_
    cases outcome with
    | ok value => exact ⟨expected, keeps⟩
    | error cause =>
      exact run_keeps terms arithmetic fallback (fun other h => leaf other (.inr h)) after keeps
  | .explain body, leaf, store, keeps => by
    simp only [leaves] at leaf
    rw [Body.run, Action.ensures_tryCatch]
    refine (run_keeps terms arithmetic body leaf store keeps).mono
      fun outcome after ⟨expected, keeps⟩ => ?_
    cases outcome with
    | ok value => exact ⟨expected, keeps⟩
    | error cause => exact ⟨terms.native _, keeps⟩
  | .constant _, leaf, store, keeps =>
    leaf (.constant _) (by simp [leaves]) trivial store keeps
  | .expression _, leaf, store, keeps =>
    leaf (.expression _) (by simp [leaves]) trivial store keeps
  | .byName _, leaf, store, keeps =>
    leaf (.byName _) (by simp [leaves]) trivial store keeps
  | .byValue _, leaf, store, keeps =>
    leaf (.byValue _) (by simp [leaves]) trivial store keeps
  | .reference _, leaf, store, keeps =>
    leaf (.reference _) (by simp [leaves]) trivial store keeps
  | .fail _, leaf, store, keeps =>
    leaf (.fail _) (by simp [leaves]) trivial store keeps
  | .count _, leaf, store, keeps =>
    leaf (.count _) (by simp [leaves]) trivial store keeps
  | .isInstance, leaf, store, keeps => leaf .isInstance (by simp [leaves]) trivial store keeps
  | .className, leaf, store, keeps => leaf .className (by simp [leaves]) trivial store keeps
  | .describeScope, leaf, store, keeps => leaf .describeScope (by simp [leaves]) trivial store keeps
  | .reset _, leaf, store, keeps =>
    leaf (.reset _) (by simp [leaves]) trivial store keeps
  | .ofClass _ _, leaf, store, keeps =>
    leaf (.ofClass _ _) (by simp [leaves]) trivial store keeps
  | .ofInstance _ _ _, leaf, store, keeps =>
    leaf (.ofInstance _ _ _) (by simp [leaves]) trivial store keeps

/-- Programs run one after the other keep what their leaves keep. -/
theorem runList_keeps (terms : Term.Closed result)
    (arithmetic : ∀ cause, error (.arithmetic cause)) :
    ∀ bodies : List Body,
      (∀ leaf ∈ leavesList scope bodies, leaf.IsLeaf → ∀ store, kept store →
        (leaf.run reads directory scope).Ensures store (Keeps kept result error)) →
      ∀ store, kept store →
        (runList reads directory scope bodies).Ensures store
          (Keeps kept (fun values => ∀ value ∈ values, result value) error)
  | [], _, store, keeps => by
    rw [runList, Action.ensures_pure]
    exact ⟨fun value member => (List.not_mem_nil member).elim, keeps⟩
  | body :: rest, leaf, store, keeps => by
    simp only [leavesList, List.mem_append] at leaf
    rw [runList]
    refine bind_keeps (run_keeps terms arithmetic body (fun other h => leaf other (.inl h)) store keeps)
      fun value after holds keeps => ?_
    refine bind_keeps
      (runList_keeps terms arithmetic rest (fun other h => leaf other (.inr h)) after keeps)
      fun values after hold keeps => ?_
    rw [Action.ensures_pure]
    exact ⟨List.forall_mem_cons.mpr ⟨holds, hold⟩, keeps⟩

end

/-- A program keeps of the store what its leaves keep, whatever they give. -/
theorem run_preserves {body : Body}
    (leaf : ∀ leaf ∈ body.leaves scope, leaf.IsLeaf → ∀ store, kept store →
      (leaf.run reads directory scope).Ensures store fun _ after => kept after) :
    ∀ store, kept store → (body.run reads directory scope).Ensures store fun _ after => kept after := by
  intro store keeps
  have ensured : (body.run reads directory scope).Ensures store
      (Keeps kept (fun _ => True) fun _ => True) := by
    refine run_keeps Term.closed_true (fun _ => trivial) body ?_ store keeps
    intro other member isLeaf store keeps
    exact (leaf other member isLeaf store keeps).mono fun _ _ ended => ⟨.trivial _, ended⟩
  exact ensured.mono fun _ _ ended => ended.2

end Rule

end Body

end Hybrid
