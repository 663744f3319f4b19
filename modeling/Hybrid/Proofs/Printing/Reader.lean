import Mathlib.Logic.Function.Iterate
import Hybrid.Proofs.Printing.Tokens

/-! # Reading expressions from their tokens

The grammar of the printer, read from left to right: `F ( identifier )` is a field, a function before
a parenthesised list is a call, and parentheses group. A sign binds tightest, then `*`, `/` and `%`,
then `+` and `-`, then `||`, and operators of one strength associate to the left. How literals are
read is left open.
-/

namespace Hybrid

/-- The operator of that sign. -/
def Operator.ofSymbol? (symbol : String) : Option Operator :=
  Operator.all.find? (·.symbol = symbol)

theorem Operator.ofSymbol?_symbol (operator : Operator) :
    ofSymbol? operator.symbol = some operator := by
  cases operator <;> rfl

namespace Reader

/-- A combination as far as it was read. What stands on its right end may still become an operand of
an operator that binds tighter. -/
inductive Chain where
  | operand (expr : Expr)
  | combined (operator : Operator) (lhs rhs : Chain)

namespace Chain

/-- Puts an operator and an operand behind a combination: the operator takes from its right end
what is not held by an operator that binds as tight. -/
def extend (operator : Operator) (operand : Expr) : Chain → Chain
  | .operand expr => .combined operator (.operand expr) (.operand operand)
  | .combined other lhs rhs =>
    if other.precedence < operator.precedence then
      .combined other lhs (extend operator operand rhs)
    else .combined operator (.combined other lhs rhs) (.operand operand)

/-- Puts operators and operands behind a combination, one after the other. -/
def extendAll (chain : Chain) (rest : List (Operator × Expr)) : Chain :=
  rest.foldl (fun chain next => chain.extend next.1 next.2) chain

def toExpr : Chain → Expr
  | .operand expr => expr
  | .combined operator lhs rhs => .combined operator lhs.toExpr rhs.toExpr

end Chain

/-- The place of an operand: the combination and the operator before it, and the signs in front. -/
structure Place where
  before? : Option (Chain × Operator)
  signs : Nat

namespace Place

/-- The place of a first operand. -/
def start : Place := ⟨none, 0⟩

/-- The combination as it is with the operand in place. -/
def fill (place : Place) (operand : Expr) : Chain :=
  let signed := Nat.iterate .negated place.signs operand
  match place.before? with
  | none => .operand signed
  | some (chain, operator) => chain.extend operator signed

end Place

/-- What an open parenthesis belongs to: a group, or a call with the arguments before it. -/
inductive Opening where
  | group
  | call (name : String) (arguments : List Expr)

/-- What was read last. -/
inductive Point where
  /-- An operand is to follow. -/
  | wanting (place : Place)
  /-- A combination is complete so far. -/
  | having (chain : Chain)
  /-- A function, whose parenthesis is to follow. -/
  | naming (place : Place) (name : String)
  /-- A function and its parenthesis. -/
  | opened (place : Place) (name : String)
  /-- A reference to a field, but for its last parenthesis. -/
  | referring (place : Place) (field : String)

/-- What is read so far: the parentheses that are open, the innermost first, each with the place
that it stands in. -/
structure State where
  outer : List (Place × Opening)
  point : Point

section Step

variable (literal : String → Option Value) (outer : List (Place × Opening))

/-- Reads a token where an operand is to follow. -/
def want (place : Place) : Token → Option State
  | (.operator, mark) =>
    if mark = "-" then some ⟨outer, .wanting { place with signs := place.signs + 1 }⟩ else none
  | (.literal, text) =>
    (literal text).map fun value => ⟨outer, .having (place.fill (.literal value))⟩
  | (.parenthesis _, mark) =>
    if mark = "(" then some ⟨(place, .group) :: outer, .wanting .start⟩ else none
  | (.function, name) => some ⟨outer, .naming place name⟩
  | (.punctuation, _) | (.identifier, _) => none

/-- Closes the innermost parenthesis behind a combination. -/
def close (chain : Chain) : Option State :=
  match outer with
  | [] => none
  | (place, .group) :: outer => some ⟨outer, .having (place.fill chain.toExpr)⟩
  | (place, .call name arguments) :: outer =>
    some ⟨outer, .having (place.fill (.call name (arguments ++ [chain.toExpr])))⟩

/-- Goes on to the next argument of a call. -/
def separate (chain : Chain) : Option State :=
  match outer with
  | (place, .call name arguments) :: outer =>
    some ⟨(place, .call name (arguments ++ [chain.toExpr])) :: outer, .wanting .start⟩
  | _ => none

/-- Reads a token behind a combination. -/
def goOn (chain : Chain) : Token → Option State
  | (.operator, mark) =>
    (Operator.ofSymbol? mark).map fun operator => ⟨outer, .wanting ⟨some (chain, operator), 0⟩⟩
  | (.punctuation, mark) => if mark = "," then separate outer chain else none
  | (.parenthesis _, mark) => if mark = ")" then close outer chain else none
  | (.function, _) | (.identifier, _) | (.literal, _) => none

/-- Reads a token behind a function and its parenthesis. -/
def enter (place : Place) (name : String) : Token → Option State
  | (.identifier, field) => if name = "F" then some ⟨outer, .referring place field⟩ else none
  | (.parenthesis depth, mark) =>
    if mark = ")" then some ⟨outer, .having (place.fill (.call name []))⟩
    else want literal ((place, .call name []) :: outer) .start (.parenthesis depth, mark)
  | token => want literal ((place, .call name []) :: outer) .start token

/-- Reads a token. -/
def step (state : State) (token : Token) : Option State :=
  match state.point with
  | .wanting place => want literal state.outer place token
  | .having chain => goOn state.outer chain token
  | .naming place name =>
    match token with
    | (.parenthesis _, "(") => some ⟨state.outer, .opened place name⟩
    | _ => none
  | .opened place name => enter literal state.outer place name token
  | .referring place field =>
    match token with
    | (.parenthesis _, ")") => some ⟨state.outer, .having (place.fill (.field field))⟩
    | _ => none

/-- Reads tokens one after the other. -/
def run (state : State) (tokens : List Token) : Option State :=
  tokens.foldlM (step literal) state

/-- The expression that tokens stand for, if they are a whole one. -/
def read (tokens : List Token) : Option Expr :=
  match run literal ⟨[], .wanting .start⟩ tokens with
  | some ⟨[], .having chain⟩ => some chain.toExpr
  | _ => none

end Step

section Run

variable {literal : String → Option Value} {state : State}

@[simp] theorem run_nil : run literal state [] = some state := rfl

@[simp] theorem run_cons (token : Token) (rest : List Token) :
    run literal state (token :: rest) =
      (step literal state token).bind fun state => run literal state rest := by
  unfold run
  rw [List.foldlM_cons]
  rfl

@[simp] theorem run_append (first second : List Token) :
    run literal state (first ++ second) =
      (run literal state first).bind fun state => run literal state second := by
  unfold run
  rw [List.foldlM_append]
  rfl

end Run

end Reader

end Hybrid
