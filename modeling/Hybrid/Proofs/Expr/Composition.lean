import Hybrid.Proofs.Expr.Replacement

/-! # Composition of substitutions

Two substitutions one after the other are one: it puts in what the first one does, searched by the
second, and what the second one does for the names that the first leaves alone. The neutral
substitutions are those that put in nothing but the references that were there. The fields that an
expression refers to after a substitution are determined by those that it referred to before, in
their order, wherever and how often each of them occurs.
-/

namespace Hybrid

/-- What is put in the place of the references to a field; references to other fields are left. -/
abbrev Replacement := String → Option Expr

namespace Replacement

/-- The replacement that acts as `first`, and then as `second` on all that is there. -/
def andThen (first second : Replacement) : Replacement := fun name =>
  match first name with
  | some replacement => some (replacement.substitute second)
  | none => second name

/-- Puts in no other expression than the reference itself. -/
def Neutral (replace : Replacement) : Prop :=
  ∀ name, replace name = none ∨ replace name = some (.field name)

end Replacement

namespace Expr

variable {replace first second : Replacement}

/-- One substitution after another is a single one. -/
theorem substitute_substitute (expr : Expr) :
    (expr.substitute first).substitute second = expr.substitute (first.andThen second) := by
  induction expr with
  | field name =>
    rw [substitute_field, substitute_field, Replacement.andThen]
    cases first name with
    | none => exact substitute_field second name
    | some replacement => rfl
  | literal value => simp only [substitute_literal]
  | combined operator lhs rhs left right => simp only [substitute_combined, left, right]
  | negated operand ih => simp only [substitute_negated, ih]
  | call name arguments each =>
    rw [substitute_call, substitute_call, substitute_call, List.map_map]
    congr 1
    exact List.map_congr_left each

theorem substitute_of_neutral (neutral : replace.Neutral) (expr : Expr) :
    expr.substitute replace = expr := by
  induction expr with
  | field name =>
    rw [substitute_field]
    obtain left | same := neutral name
    · rw [left, Option.getD_none]
    · rw [same, Option.getD_some]
  | literal value => rw [substitute_literal]
  | combined operator lhs rhs left right => rw [substitute_combined, left, right]
  | negated operand ih => rw [substitute_negated, ih]
  | call name arguments each => rw [substitute_call, List.map_congr_left each, List.map_id']

/-- Substitutions compose, and the neutral ones give back the expression. -/
theorem substitute_lawful (expr : Expr) :
    (∀ first second : Replacement,
        (expr.substitute first).substitute second = expr.substitute (first.andThen second)) ∧
      ∀ replace : Replacement, replace.Neutral → expr.substitute replace = expr :=
  ⟨fun _ _ => substitute_substitute expr, fun _ neutral => substitute_of_neutral neutral expr⟩

/-- The field references after a substitution: those of what is put in the place of the field
references before, one after the other, the first occurrence of each. -/
theorem fieldReferences_substitute (expr : Expr) (replace : Replacement) :
    (expr.substitute replace).fieldReferences =
      (expr.fieldReferences.flatMap fun name =>
        match replace name with
        | some replacement => replacement.fieldReferences
        | none => [name]).eraseDups := by
  have put (name : String) :
      (match replace name with
        | some replacement => replacement.fieldReferences
        | none => [name]) = distinct ((replace name).getD (.field name)).occurrences := by
    cases replace name with
    | none => rfl
    | some replacement => exact fieldReferences_eq replacement
  calc
    (expr.substitute replace).fieldReferences
      = distinct (expr.occurrences.flatMap fun name =>
          ((replace name).getD (.field name)).occurrences) := by
        rw [fieldReferences_eq, occurrences_substitute]
    _ = distinct ((distinct expr.occurrences).flatMap fun name =>
          distinct ((replace name).getD (.field name)).occurrences) := by
        rw [distinct_flatMap_each, distinct_flatMap_distinct]
    _ = _ := by
        rw [distinct_eq_eraseDups, ← fieldReferences_eq]
        simp only [put]

end Expr

/-! ## An exchange

Two fields that are put in the place of each other, in an expression that refers to both.
-/

namespace Exchange

open Hybrid.Expr

/-- Puts each of two fields in the place of the other. -/
def exchange : Replacement
  | "from" => some (.field "to")
  | "to" => some (.field "from")
  | _ => none

/-- The way between two readings, or the one that was noted. -/
def distance : Expr :=
  .call "COALESCE" [.combined .sub (.field "to") (.field "from"), .field "noted"]

private theorem neutral_twice : (exchange.andThen exchange).Neutral := by
  intro name
  by_cases here : name = "from"
  · exact .inr (by simp [Replacement.andThen, exchange, here])
  by_cases there : name = "to"
  · exact .inr (by simp [Replacement.andThen, exchange, there])
  · exact .inl (by simp [Replacement.andThen, exchange])

/-- Exchanging twice is exchanging nothing. -/
theorem substitute_exchange_twice :
    (exchange.andThen exchange).Neutral ∧
      distance.substitute exchange =
        .call "COALESCE" [.combined .sub (.field "from") (.field "to"), .field "noted"] ∧
      (distance.substitute exchange).substitute exchange = distance := by
  refine ⟨neutral_twice, by simp [distance, exchange], ?_⟩
  have laws := substitute_lawful distance
  rw [laws.1]
  exact laws.2 _ neutral_twice

end Exchange

end Hybrid
