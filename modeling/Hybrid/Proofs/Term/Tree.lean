import Hybrid.Proofs.Term.Folding

/-! # Trees of operations on terms

A hybrid function puts terms together by operations. `Tree.run` carries them out from the inside, so
that parts without an expression are computed on the way; `Tree.unfolded` is the expression in which
nothing is computed beforehand. On every row both give the same. Where carrying them out fails, no
row gives the unfolded expression a value.
-/

namespace Hybrid.Term

/-- Terms that are put together by operations. -/
inductive Tree where
  | leaf (term : Term)
  | combined (operator : Operator) (lhs rhs : Tree)
  | negated (operand : Tree)
  | call (name : String) (arguments : List Tree)

namespace Tree

/-- Induction on the structure of a tree, argument by argument. -/
@[elab_as_elim, induction_eliminator]
theorem induction {motive : Tree → Prop}
    (leaf : ∀ term, motive (.leaf term))
    (combined : ∀ operator lhs rhs, motive lhs → motive rhs → motive (.combined operator lhs rhs))
    (negated : ∀ operand, motive operand → motive (.negated operand))
    (call : ∀ name arguments, (∀ argument ∈ arguments, motive argument) →
      motive (.call name arguments))
    (tree : Tree) : motive tree :=
  Tree.rec (motive_1 := motive) (motive_2 := fun arguments => ∀ argument ∈ arguments, motive argument)
    leaf combined negated call
    (fun _ member => nomatch member)
    (fun _ _ first rest => List.forall_mem_cons.mpr ⟨first, rest⟩)
    tree

mutual

/-- Carries out the operations from the inside, operands from left to right. -/
def run : Tree → Except ArithmeticError Term
  | .leaf term => .ok term
  | .combined operator lhs rhs => do (← run lhs).combine operator (← run rhs)
  | .negated operand => do (← run operand).negate
  | .call name arguments => do Term.call name (← runList arguments)

/-- The terms of several trees, from left to right. -/
def runList : List Tree → Except ArithmeticError (List Term)
  | [] => .ok []
  | tree :: rest => do return (← run tree) :: (← runList rest)

end

mutual

/-- The same operations on expressions, none of which is carried out. -/
def unfolded : Tree → Expr
  | .leaf term => term.toExpr
  | .combined operator lhs rhs => .combined operator (unfolded lhs) (unfolded rhs)
  | .negated operand => .negated (unfolded operand)
  | .call name arguments => .function name (unfoldedList arguments)

/-- The expressions of several trees. -/
def unfoldedList : List Tree → List Expr
  | [] => []
  | tree :: rest => unfolded tree :: unfoldedList rest

end

theorem unfoldedList_eq (trees : List Tree) : unfoldedList trees = trees.map unfolded := by
  induction trees with
  | nil => rfl
  | cons tree rest ih => rw [unfoldedList, ih, List.map_cons]

/-- What carrying out operations says about the value of the unfolded expression: it is the value of
the term that comes out, and where nothing comes out there is none. -/
def Agrees (environment : Environment) : Except ArithmeticError Term → Evaluated → Prop
  | .ok term, evaluated => term.toExpr.valueIn environment = evaluated
  | .error _, evaluated => ∀ value, evaluated ≠ .ok (some value)

/-- The same for several expressions: the values of all terms, or one that has none. -/
def AgreesList (environment : Environment) :
    Except ArithmeticError (List Term) → List Evaluated → Prop
  | .ok terms, evaluated => terms.map (·.toExpr.valueIn environment) = evaluated
  | .error _, evaluated => ∃ outcome ∈ evaluated, ∀ value, outcome ≠ .ok (some value)

namespace Agrees

variable {environment : Environment} {left right operand : Except ArithmeticError Term}
variable {operator : Operator} {first second inside : Evaluated} {name : String}

theorem combine (lhs : Agrees environment left first) (rhs : Agrees environment right second) :
    Agrees environment (do (← left).combine operator (← right))
      (.combine operator first second) := by
  cases left with
  | error error =>
    intro value whole
    obtain ⟨a, -, present, -⟩ := Evaluated.of_combine_eq_some whole
    exact lhs a present
  | ok leftTerm =>
    cases right with
    | error error =>
      intro value whole
      obtain ⟨-, b, -, present, -⟩ := Evaluated.of_combine_eq_some whole
      exact rhs b present
    | ok rightTerm =>
      obtain rfl := lhs
      obtain rfl := rhs
      change Agrees environment (leftTerm.combine operator rightTerm) _
      cases combined : leftTerm.combine operator rightTerm with
      | ok result => exact valueIn_combine combined
      | error error =>
        intro value whole
        rw [valueIn_combine_error combined] at whole
        cases whole

theorem negate (agrees : Agrees environment operand inside) :
    Agrees environment (do (← operand).negate) (.negate inside) := by
  cases operand with
  | error error =>
    intro value whole
    obtain ⟨a, present, -⟩ := Evaluated.of_negate_eq_some whole
    exact agrees a present
  | ok term =>
    obtain rfl := agrees
    change Agrees environment term.negate _
    cases negated : term.negate with
    | ok result => exact valueIn_negate negated
    | error error =>
      intro value whole
      rw [valueIn_negate_error negated] at whole
      cases whole

theorem call {arguments : Except ArithmeticError (List Term)} {outcomes : List Evaluated}
    (agrees : AgreesList environment arguments outcomes) :
    Agrees environment (do Term.call name (← arguments)) (.call (calledName name) outcomes) := by
  cases arguments with
  | error error =>
    intro value whole
    obtain ⟨values, each, -⟩ := Evaluated.of_call_eq_some whole
    obtain ⟨outcome, member, absent⟩ := agrees
    obtain ⟨part, present⟩ := Evaluated.exists_value_of_mem each member
    exact absent part present
  | ok terms =>
    obtain rfl := agrees
    obtain ⟨result, called⟩ := exists_call name terms
    change Agrees environment (Term.call name terms) _
    rw [called]
    exact valueIn_call called

end Agrees

variable {environment : Environment}

theorem agreesList {trees : List Tree}
    (each : ∀ tree ∈ trees, Agrees environment tree.run (tree.unfolded.valueIn environment)) :
    AgreesList environment (runList trees) (trees.map (·.unfolded.valueIn environment)) := by
  induction trees with
  | nil => rfl
  | cons tree rest ih =>
    obtain ⟨here, others⟩ := List.forall_mem_cons.mp each
    rw [runList, List.map_cons]
    cases first : tree.run with
    | error error =>
      rw [first] at here
      exact ⟨_, List.mem_cons_self .., here⟩
    | ok term =>
      rw [first] at here
      have behind := ih others
      cases second : runList rest with
      | error error =>
        rw [second] at behind
        obtain ⟨outcome, member, absent⟩ := behind
        exact ⟨outcome, List.mem_cons_of_mem _ member, absent⟩
      | ok terms =>
        rw [second] at behind
        exact congrArg₂ List.cons here behind

theorem agrees_run (tree : Tree) :
    Agrees environment tree.run (tree.unfolded.valueIn environment) := by
  induction tree with
  | leaf term => rfl
  | combined operator lhs rhs left right => exact .combine left right
  | negated operand ih => exact .negate ih
  | call name arguments each =>
    rw [run, unfolded, Expr.function, unfoldedList_eq, Expr.valueIn, Expr.valuesIn_eq, List.map_map]
    exact .call (agreesList each)

/-- Operations that are carried out as far as they can be give an expression with the outcome of the
unfolded one on every row. Where they fail, no row gives the unfolded one a value. -/
theorem evaluate_run (tree : Tree) (row : Row) :
    (∀ term, tree.run = .ok term → term.toExpr.evaluate row = tree.unfolded.evaluate row) ∧
      (∀ error, tree.run = .error error →
        ∀ value, tree.unfolded.evaluate row ≠ .ok (some value)) := by
  have agrees : Agrees (.ofRow row) tree.run (tree.unfolded.valueIn (.ofRow row)) := tree.agrees_run
  rw [Expr.evaluate_eq]
  constructor
  · intro term ran
    rw [ran] at agrees
    rw [Expr.evaluate_eq]
    exact agrees
  · intro error ran
    rw [ran] at agrees
    exact agrees

end Tree

/-! ## Prices

A price has its rate from the row; the rest is known and computed beforehand.
-/

namespace Tree.Price

/-- A rate times the sum of two and the absolute value of minus three. -/
def price : Tree :=
  .combined .mul (.leaf (.symbolic (.field "rate")))
    (.combined .add (.leaf (.native (.int 2))) (.call "abs" [.negated (.leaf (.native (.int 3)))]))

/-- The rate times five. -/
def folded : Expr :=
  .combined .mul (.field "rate") (.literal (.int 5))

def row : Row
  | "rate" => some (.int 4)
  | _ => none

/-- With a rate of four the price is twenty, folded and unfolded. -/
theorem evaluate_price :
    price.run = .ok (.symbolic folded) ∧ folded.evaluate row = price.unfolded.evaluate row ∧
      folded.evaluate row = .ok (some (.int 20)) :=
  ⟨rfl, (evaluate_run price row).1 (.symbolic folded) rfl, rfl⟩

end Tree.Price

end Hybrid.Term
