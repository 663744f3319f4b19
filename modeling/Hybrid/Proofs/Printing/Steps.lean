import Hybrid.Proofs.Printing.Reader

/-! # What a token does to the reader

The reader as a relation: each constructor of `Steps` is one thing that a token can do, with the state
before and after it. A step of the reader is exactly that (`step_eq_some_iff`), so what holds of all
its steps is shown by cases.
-/

namespace Hybrid.Reader

/-- An operand may follow, at `place` and inside the parentheses `outer`. Behind a function and its
parenthesis this is the first argument. -/
inductive Wants : State → List (Place × Opening) → Place → Prop
  | operand {outer : List (Place × Opening)} {place : Place} :
    Wants ⟨outer, .wanting place⟩ outer place
  | argument {outer : List (Place × Opening)} {place : Place} {name : String} :
    Wants ⟨outer, .opened place name⟩ ((place, .call name []) :: outer) .start

/-- The reader goes from one state to the next with a token. -/
inductive Steps (literal : String → Option Value) : State → Token → State → Prop
  | sign {state : State} {outer : List (Place × Opening)} {place : Place} :
    Wants state outer place →
    Steps literal state (.operator, "-") ⟨outer, .wanting { place with signs := place.signs + 1 }⟩
  | value {state : State} {outer : List (Place × Opening)} {place : Place} {text : String}
    {value : Value} : Wants state outer place → literal text = some value →
    Steps literal state (.literal, text) ⟨outer, .having (place.fill (.literal value))⟩
  | group {state : State} {outer : List (Place × Opening)} {place : Place} {depth : UInt8} :
    Wants state outer place →
    Steps literal state (.parenthesis depth, "(") ⟨(place, .group) :: outer, .wanting .start⟩
  | function {state : State} {outer : List (Place × Opening)} {place : Place} {name : String} :
    Wants state outer place →
    Steps literal state (.function, name) ⟨outer, .naming place name⟩
  | call {outer : List (Place × Opening)} {place : Place} {name : String} {depth : UInt8} :
    Steps literal ⟨outer, .naming place name⟩ (.parenthesis depth, "(") ⟨outer, .opened place name⟩
  | field {outer : List (Place × Opening)} {place : Place} {field : String} :
    Steps literal ⟨outer, .opened place "F"⟩ (.identifier, field) ⟨outer, .referring place field⟩
  | operator {outer : List (Place × Opening)} {chain : Chain} {mark : String} {operator : Operator} :
    Operator.ofSymbol? mark = some operator →
    Steps literal ⟨outer, .having chain⟩ (.operator, mark)
      ⟨outer, .wanting ⟨some (chain, operator), 0⟩⟩
  | comma {outer : List (Place × Opening)} {place : Place} {name : String} {arguments : List Expr}
    {chain : Chain} :
    Steps literal ⟨(place, .call name arguments) :: outer, .having chain⟩ (.punctuation, ",")
      ⟨(place, .call name (arguments ++ [chain.toExpr])) :: outer, .wanting .start⟩
  | endGroup {outer : List (Place × Opening)} {place : Place} {chain : Chain} {depth : UInt8} :
    Steps literal ⟨(place, .group) :: outer, .having chain⟩ (.parenthesis depth, ")")
      ⟨outer, .having (place.fill chain.toExpr)⟩
  | endCall {outer : List (Place × Opening)} {place : Place} {name : String} {arguments : List Expr}
    {chain : Chain} {depth : UInt8} :
    Steps literal ⟨(place, .call name arguments) :: outer, .having chain⟩ (.parenthesis depth, ")")
      ⟨outer, .having (place.fill (.call name (arguments ++ [chain.toExpr])))⟩
  | endEmptyCall {outer : List (Place × Opening)} {place : Place} {name : String} {depth : UInt8} :
    Steps literal ⟨outer, .opened place name⟩ (.parenthesis depth, ")")
      ⟨outer, .having (place.fill (.call name []))⟩
  | endField {outer : List (Place × Opening)} {place : Place} {field : String} {depth : UInt8} :
    Steps literal ⟨outer, .referring place field⟩ (.parenthesis depth, ")")
      ⟨outer, .having (place.fill (.field field))⟩

section Step

variable {literal : String → Option Value} {outer : List (Place × Opening)} {place : Place}
  {chain : Chain} {token : Token} {state next : State}

private theorem steps_of_want (wants : Wants state outer place)
    (taken : want literal outer place token = some next) : Steps literal state token next := by
  obtain ⟨style, mark⟩ := token
  cases style with
  | operator =>
    simp only [want, Option.ite_none_right_eq_some, Option.some.injEq] at taken
    obtain ⟨rfl, rfl⟩ := taken
    exact .sign wants
  | literal =>
    simp only [want, Option.map_eq_some_iff] at taken
    obtain ⟨value, read, rfl⟩ := taken
    exact .value wants read
  | parenthesis depth =>
    simp only [want, Option.ite_none_right_eq_some, Option.some.injEq] at taken
    obtain ⟨rfl, rfl⟩ := taken
    exact .group wants
  | function =>
    obtain rfl := Option.some.inj taken
    exact .function wants
  | punctuation => cases taken
  | identifier => cases taken

private theorem steps_of_goOn (taken : goOn outer chain token = some next) :
    Steps literal ⟨outer, .having chain⟩ token next := by
  obtain ⟨style, mark⟩ := token
  cases style with
  | operator =>
    simp only [goOn, Option.map_eq_some_iff] at taken
    obtain ⟨operator, symbol, rfl⟩ := taken
    exact .operator symbol
  | punctuation =>
    simp only [goOn, Option.ite_none_right_eq_some] at taken
    obtain ⟨rfl, taken⟩ := taken
    obtain _ | ⟨⟨place, _ | ⟨name, arguments⟩⟩, outer⟩ := outer
    · cases taken
    · cases taken
    · obtain rfl := Option.some.inj taken
      exact .comma
  | parenthesis depth =>
    simp only [goOn, Option.ite_none_right_eq_some] at taken
    obtain ⟨rfl, taken⟩ := taken
    obtain _ | ⟨⟨place, _ | ⟨name, arguments⟩⟩, outer⟩ := outer
    · cases taken
    · obtain rfl := Option.some.inj taken
      exact .endGroup
    · obtain rfl := Option.some.inj taken
      exact .endCall
  | function => cases taken
  | identifier => cases taken
  | literal => cases taken

private theorem steps_of_enter {name : String}
    (taken : enter literal outer place name token = some next) :
    Steps literal ⟨outer, .opened place name⟩ token next := by
  obtain ⟨style, mark⟩ := token
  cases style with
  | identifier =>
    simp only [enter, Option.ite_none_right_eq_some, Option.some.injEq] at taken
    obtain ⟨rfl, rfl⟩ := taken
    exact .field
  | parenthesis depth =>
    simp only [enter] at taken
    split at taken
    · next closed =>
      obtain rfl := Option.some.inj taken
      subst closed
      exact .endEmptyCall
    · exact steps_of_want .argument taken
  | _ => exact steps_of_want .argument taken

/-- The reader takes a token as one of its steps. -/
theorem step_eq_some_iff : step literal state token = some next ↔ Steps literal state token next := by
  constructor
  · intro taken
    obtain ⟨outer, point⟩ := state
    cases point with
    | wanting place => exact steps_of_want .operand taken
    | having chain => exact steps_of_goOn taken
    | opened place name => exact steps_of_enter taken
    | naming place name =>
      simp only [step] at taken
      split at taken
      · obtain rfl := Option.some.inj taken
        exact .call
      · cases taken
    | referring place field =>
      simp only [step] at taken
      split at taken
      · obtain rfl := Option.some.inj taken
        exact .endField
      · cases taken
  · intro steps
    cases steps with
    | sign wants => cases wants <;> rfl
    | value wants read => cases wants <;> simp [step, enter, want, read]
    | group wants => cases wants <;> rfl
    | function wants => cases wants <;> rfl
    | operator symbol => simp [step, goOn, symbol]
    | _ => rfl

end Step

section Run

variable {literal : String → Option Value} {state next : State}

theorem run_cons_eq_some_iff {token : Token} {rest : List Token} :
    run literal state (token :: rest) = some next ↔
      ∃ middle, Steps literal state token middle ∧ run literal middle rest = some next := by
  simp only [run_cons, Option.bind_eq_some_iff, step_eq_some_iff]

theorem run_append_eq_some_iff {first second : List Token} :
    run literal state (first ++ second) = some next ↔
      ∃ middle, run literal state first = some middle ∧ run literal middle second = some next := by
  rw [run_append, Option.bind_eq_some_iff]

theorem run_singleton_eq_some_iff {token : Token} :
    run literal state [token] = some next ↔ Steps literal state token next := by
  simp [← step_eq_some_iff]

/-- A text is read as an expression if it leads to a combination and no parenthesis is open. -/
theorem read_eq_some_iff {tokens : List Token} {expr : Expr} :
    read literal tokens = some expr ↔
      ∃ chain, run literal ⟨[], .wanting .start⟩ tokens = some ⟨[], .having chain⟩ ∧
        chain.toExpr = expr := by
  unfold read
  split
  · next chain taken => simp [taken]
  · next other =>
    simp only [reduceCtorEq, false_iff]
    rintro ⟨chain, taken, -⟩
    exact other chain taken

end Run

end Hybrid.Reader
