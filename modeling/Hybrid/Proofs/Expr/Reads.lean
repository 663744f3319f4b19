import Hybrid.Proofs.Expr.Environment

/-! # What evaluation asks a row for

`Evaluation.Asks` says of a computation on rows that it asks for some of certain names, in their
order, and that nothing but the answers decides how it goes on and how it ends. There is one rule
for each way to build a computation, so evaluating an expression asks for some of its occurrences of
fields. If it ends with a value it has asked for all of them, as both operands and all arguments are
evaluated then, and each was answered with a value: `Evaluation.Answered`.
-/

namespace Hybrid

namespace Evaluation

variable {α β : Type} {row : Row} {names more : List String}

section Bind

variable {first : Evaluation α} {second : α → Evaluation β}

theorem bind_of_error {error : ArithmeticError} (ended : first.outcome = .error error) :
    first >>= second = ⟨first.asked, .error error⟩ := by
  rw [bind_eq_andThen, andThen, ended]

theorem bind_of_ok {result : α} (ended : first.outcome = .ok result) :
    first >>= second = ⟨first.asked ++ (second result).asked, (second result).outcome⟩ := by
  rw [bind_eq_andThen, andThen, ended]

theorem asked_bind_of_silent (silent : ∀ result, (second result).asked = []) :
    (first >>= second).asked = first.asked := by
  cases ended : first.outcome with
  | error error => rw [bind_of_error ended]
  | ok result => rw [bind_of_ok ended, silent, List.append_nil]

end Bind

/-- The names asked for are some of `names`, in the same order, and a row that gives the same answers
to them leads to the same evaluation. -/
structure Asks (names : List String) (program : Row → Evaluation α) : Prop where
  sublist : ∀ row, (program row).asked.Sublist names
  decided : ∀ row other, (∀ name ∈ (program row).asked, row name = other name) →
    program row = program other

namespace Asks

theorem ask (name : String) : Asks [name] (Evaluation.ask · name) where
  sublist _ := .refl _
  decided row other same := by
    rw [Evaluation.ask, Evaluation.ask, same name (List.mem_singleton_self name)]

theorem silent {evaluation : Evaluation α} (nothing : evaluation.asked = []) :
    Asks names fun _ => evaluation where
  sublist _ := by rw [nothing]; exact List.nil_sublist names
  decided _ _ _ := rfl

/-- What the second computation asks for comes behind what the first one does. -/
theorem bind {first : Row → Evaluation α} {second : α → Row → Evaluation β}
    (before : Asks names first) (behind : ∀ result, Asks more (second result)) :
    Asks (names ++ more) fun row => first row >>= fun result => second result row where
  sublist row := by
    cases ended : (first row).outcome with
    | error error =>
      rw [bind_of_error ended]
      exact (before.sublist row).trans (List.sublist_append_left ..)
    | ok result =>
      rw [bind_of_ok ended]
      exact (before.sublist row).append ((behind result).sublist row)
  decided row other same := by
    -- The first computation is the same on both rows, so it leads to the same second one, if any.
    cases ended : (first row).outcome with
    | error error =>
      rw [bind_of_error ended] at same
      rw [before.decided row other same] at ended ⊢
      rw [bind_of_error ended, bind_of_error ended]
    | ok result =>
      rw [bind_of_ok ended, List.forall_mem_append] at same
      rw [before.decided row other same.1] at ended ⊢
      rw [bind_of_ok ended, bind_of_ok ended, (behind result).decided row other same.2]

theorem bindSilent {first : Row → Evaluation α} {second : α → Evaluation β}
    (before : Asks names first) (silent : ∀ result, (second result).asked = []) :
    Asks names fun row => first row >>= second := by
  have behind (result : α) : Asks [] fun _ => second result := .silent (silent result)
  have both := before.bind behind
  rwa [List.append_nil] at both

end Asks

/-- All of `names` were asked for, in order, and the row answered each of them with a value. -/
structure Answered (row : Row) (names : List String) (evaluation : Evaluation α) : Prop where
  asked : evaluation.asked = names
  answers : ∀ name ∈ names, ∃ value, row name = some value

namespace Answered

theorem silent {evaluation : Evaluation α} (nothing : evaluation.asked = []) :
    Answered row [] evaluation where
  asked := nothing
  answers := nofun

theorem bind {first : Evaluation α} {second : α → Evaluation β} {result : α}
    (before : Answered row names first) (ended : first.outcome = .ok result)
    (behind : Answered row more (second result)) : Answered row (names ++ more) (first >>= second) where
  asked := by rw [bind_of_ok ended, before.asked, behind.asked]
  answers := List.forall_mem_append.mpr ⟨before.answers, behind.answers⟩

theorem bindSilent {first : Evaluation α} {second : α → Evaluation β}
    (before : Answered row names first) (silent : ∀ result, (second result).asked = []) :
    Answered row names (first >>= second) where
  asked := by rw [asked_bind_of_silent silent, before.asked]
  answers := before.answers

end Answered

end Evaluation

namespace Expr

open Evaluation (Asks Answered)

variable {row : Row}

/-- Where the operands or arguments are known, nothing more is asked. -/
private theorem asked_combination {operator : Operator} (a? b? : Option Value) :
    (match a?, b? with
      | some a, some b => Evaluation.lift ((a.apply operator b).map some)
      | _, _ => pure none : Evaluation (Option Value)).asked = [] := by
  cases a? <;> cases b? <;> rfl

private theorem asks_evaluationList {exprs : List Expr}
    (each : ∀ expr ∈ exprs, Asks expr.occurrences (evaluation · expr)) :
    Asks (occurrencesList exprs) (evaluationList · exprs) := by
  induction exprs with
  | nil => exact .silent rfl
  | cons expr rest ih =>
    have others := ih fun later member => each later (List.mem_cons_of_mem _ member)
    simp only [evaluationList, occurrencesList]
    refine (each expr (List.mem_cons_self ..)).bind fun value? => ?_
    -- Without a value the names behind are not asked for, which is a part of them as well.
    cases value? with
    | none => exact .silent rfl
    | some value => exact others.bindSilent fun _ => rfl

/-- Evaluation asks for occurrences of fields from left to right. -/
theorem asks_evaluation (expr : Expr) : Asks expr.occurrences (evaluation · expr) := by
  induction expr with
  | field name => exact .ask name
  | literal value => exact .silent rfl
  | combined operator lhs rhs left right =>
    simp only [evaluation, occurrences]
    exact left.bind fun a? => right.bindSilent fun b? => asked_combination a? b?
  | negated operand ih =>
    simp only [evaluation, occurrences]
    exact ih.bindSilent fun value? => by cases value? <;> rfl
  | call name arguments each =>
    simp only [evaluation, occurrences]
    exact (asks_evaluationList each).bindSilent fun values? => by cases values? <;> rfl

private theorem answered_evaluationList {exprs : List Expr} {values : List Value}
    (each : ∀ expr ∈ exprs, ∀ value, expr.evaluate row = .ok (some value) →
      Answered row expr.occurrences (expr.evaluation row))
    (present : List.Forall₂ (fun expr value => expr.evaluate row = .ok (some value)) exprs values) :
    Answered row (occurrencesList exprs) (evaluationList row exprs) := by
  induction present with
  | nil => exact .silent rfl
  | @cons expr value rest values first _ ih =>
    have others := ih fun later member => each later (List.mem_cons_of_mem _ member)
    have here := each expr (List.mem_cons_self ..) value first
    rw [evaluationList, occurrencesList]
    exact here.bind first (others.bindSilent fun _ => rfl)

/-- A value needs the answers to all occurrences. -/
theorem answered_evaluation {expr : Expr} {value : Value}
    (evaluated : expr.evaluate row = .ok (some value)) :
    Answered row expr.occurrences (expr.evaluation row) := by
  induction expr generalizing value with
  | field name =>
    have found : row name = some value := Except.ok.inj evaluated
    exact ⟨rfl, List.forall_mem_singleton.mpr ⟨value, found⟩⟩
  | literal value => exact .silent rfl
  | combined operator lhs rhs left right =>
    rw [evaluate_combined] at evaluated
    obtain ⟨a, b, first, second, -⟩ := Evaluated.of_combine_eq_some evaluated
    rw [evaluation, occurrences]
    exact (left first).bind first ((right second).bindSilent fun b? => asked_combination _ b?)
  | negated operand ih =>
    rw [evaluate_negated] at evaluated
    obtain ⟨a, present, -⟩ := Evaluated.of_negate_eq_some evaluated
    rw [evaluation, occurrences]
    exact (ih present).bindSilent fun value? => by cases value? <;> rfl
  | call name arguments each =>
    rw [evaluate_call] at evaluated
    obtain ⟨values, present, -⟩ := Evaluated.of_call_eq_some evaluated
    rw [List.forall₂_map_left_iff] at present
    rw [evaluation, occurrences]
    exact (answered_evaluationList (fun argument member _ => each argument member) present).bindSilent
      fun values? => by cases values? <;> rfl

/-- Evaluation asks for a subsequence of the occurrences of fields; for all of them, each answered
with a value, if it ends with a value; and it is the same, in its reads and in its result, on all
rows that agree on the field references. -/
theorem reads_fieldReferences (expr : Expr) (row : Row) :
    (expr.reads row).Sublist expr.occurrences ∧
      (∀ value, expr.evaluate row = .ok (some value) →
        expr.reads row = expr.occurrences ∧
          ∀ name ∈ expr.occurrences, ∃ answer, row name = some answer) ∧
      ∀ other : Row, (∀ name ∈ expr.fieldReferences, row name = other name) →
        expr.evaluate row = expr.evaluate other ∧ expr.reads row = expr.reads other := by
  refine ⟨(asks_evaluation expr).sublist row, ?_, ?_⟩
  · intro value evaluated
    have answered := answered_evaluation evaluated
    exact ⟨answered.asked, answered.answers⟩
  · intro other same
    have asked : ∀ name ∈ expr.reads row, row name = other name := fun name member =>
      same name (mem_fieldReferences.mpr (((asks_evaluation expr).sublist row).subset member))
    have evaluation := (asks_evaluation expr).decided row other asked
    exact ⟨congrArg Evaluation.outcome evaluation, congrArg Evaluation.asked evaluation⟩

end Expr

/-! ## Unit prices

The price of one piece, from an offer if there is one. A row without the offer ends the call before
the price is asked for, but not the division.
-/

namespace UnitPrice

open Hybrid.Expr

def unitPrice : Expr :=
  .combined .div (.call "COALESCE" [.field "offer", .field "price"]) (.field "count")

/-- The row with this offer and this note. -/
def row (offer note : Option Value) : Row
  | "offer" => offer
  | "price" => some (.int 12)
  | "count" => some (.int 4)
  | "note" => note
  | _ => none

def plain : Row := row (some .null) none

def noted : Row := row (some .null) (some (.text "fragile"))

private theorem same (name : String) (member : name ∈ unitPrice.fieldReferences) :
    plain name = noted name := by
  have occurs : name ∈ ["offer", "price", "count"] := mem_fieldReferences.mp member
  simp only [List.mem_cons, List.not_mem_nil, or_false] at occurs
  rcases occurs with rfl | rfl | rfl <;> rfl

/-- Three names are read for a price, with or without a note; without the offer two of them are. -/
theorem reads_unitPrice :
    unitPrice.evaluate plain = .ok (some (.int 3)) ∧
      unitPrice.reads plain = ["offer", "price", "count"] ∧
      (∀ name ∈ unitPrice.fieldReferences, plain name = noted name) ∧
      unitPrice.reads noted = ["offer", "price", "count"] ∧
      unitPrice.reads (row none none) = ["offer", "count"] ∧
      ["offer", "count"].Sublist unitPrice.occurrences := by
  obtain ⟨-, whole, agree⟩ := reads_fieldReferences unitPrice plain
  obtain ⟨part, -, -⟩ := reads_fieldReferences unitPrice (row none none)
  have all : unitPrice.reads plain = ["offer", "price", "count"] := (whole (.int 3) rfl).1
  have read : unitPrice.reads noted = ["offer", "price", "count"] := (agree noted same).2 ▸ all
  exact ⟨rfl, all, same, read, rfl, part⟩

end UnitPrice

end Hybrid
