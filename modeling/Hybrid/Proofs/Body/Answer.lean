import Hybrid.Proofs.Body.Composed

/-! # Answers of composed programs

What a composed program gives, from what the attributes that it reads by name and by value give,
with no store and no scope. Only the attributes that are read matter.
-/

namespace Hybrid.Body

/-- What attributes give by name. -/
abbrev Attributes := String → Except HybridError Term

mutual

/-- The answer of a composed program; the others have none. -/
def answer (named valued : Attributes) : Body → Except HybridError Term
  | .constant value => .ok (.native value)
  | .expression expr => .ok (.symbolic expr)
  | .byName name => named name
  | .byValue name => valued name
  | .reference name => .ok (.symbolic (.field name))
  | .combine operator lhs rhs => do
    let left ← answer named valued lhs
    let right ← answer named valued rhs
    Action.arithmeticOutcome (left.combine operator right)
  | .negate operand => do
    let term ← answer named valued operand
    Action.arithmeticOutcome term.negate
  | .call name arguments => do
    let terms ← answers named valued arguments
    Action.arithmeticOutcome (Term.call name terms)
  | _ => .error .exhausted

/-- The answers of programs, as far as the first error. -/
def answers (named valued : Attributes) : List Body → Except HybridError (List Term)
  | [] => .ok []
  | body :: rest => do
    let term ← answer named valued body
    return term :: (← answers named valued rest)

end

variable {named valued : Attributes}

section Outcomes

theorem bind_eq_ok {α β : Type} {first : Except HybridError α} {next : α → Except HybridError β}
    {result : β} :
    first >>= next = .ok result ↔ ∃ middle, first = .ok middle ∧ next middle = .ok result := by
  cases first with
  | error error => exact ⟨nofun, fun ⟨_, absurd, _⟩ => nomatch absurd⟩
  | ok middle =>
    constructor
    · exact fun ended => ⟨middle, rfl, ended⟩
    · rintro ⟨_, same, ended⟩
      exact Except.ok.inj same ▸ ended

theorem arithmeticOutcome_eq_ok {α : Type} {outcome : Except ArithmeticError α} {result : α} :
    Action.arithmeticOutcome outcome = .ok result ↔ outcome = .ok result := by
  cases outcome with
  | error error => exact ⟨nofun, nofun⟩
  | ok value =>
    constructor
    · exact fun same => congrArg _ (Except.ok.inj same)
    · exact fun same => congrArg _ (Except.ok.inj same)

theorem answer_combine_eq_ok {operator : Operator} {lhs rhs : Body} {result : Term} :
    (combine operator lhs rhs).answer named valued = .ok result ↔
      ∃ left right, lhs.answer named valued = .ok left ∧ rhs.answer named valued = .ok right ∧
        left.combine operator right = .ok result := by
  rw [answer, bind_eq_ok]
  simp only [bind_eq_ok, arithmeticOutcome_eq_ok]
  constructor
  · rintro ⟨left, leftAnswer, right, rightAnswer, combined⟩
    exact ⟨left, right, leftAnswer, rightAnswer, combined⟩
  · rintro ⟨left, right, leftAnswer, rightAnswer, combined⟩
    exact ⟨left, leftAnswer, right, rightAnswer, combined⟩

theorem answer_negate_eq_ok {operand : Body} {result : Term} :
    (negate operand).answer named valued = .ok result ↔
      ∃ term, operand.answer named valued = .ok term ∧ term.negate = .ok result := by
  rw [answer, bind_eq_ok]
  simp only [arithmeticOutcome_eq_ok]

theorem answers_eq_ok {bodies : List Body} {terms : List Term} :
    answers named valued bodies = .ok terms ↔
      List.Forall₂ (fun body term => body.answer named valued = .ok term) bodies terms := by
  induction bodies generalizing terms with
  | nil =>
    rw [answers, List.forall₂_nil_left_iff]
    exact ⟨fun same => (Except.ok.inj same).symm, fun same => same ▸ rfl⟩
  | cons body rest ih =>
    rw [answers, bind_eq_ok, List.forall₂_cons_left_iff]
    simp only [bind_eq_ok, ih]
    constructor
    · rintro ⟨term, first, others, all, same⟩
      exact ⟨term, others, first, all, (Except.ok.inj same).symm⟩
    · rintro ⟨term, others, first, all, rfl⟩
      exact ⟨term, first, others, all, rfl⟩

/-- Each of the programs has its answer among the terms. -/
theorem exists_answer {bodies : List Body} {terms : List Term} {body : Body}
    (answers : List.Forall₂ (fun body term => body.answer named valued = .ok term) bodies terms)
    (member : body ∈ bodies) : ∃ term ∈ terms, body.answer named valued = .ok term := by
  induction answers with
  | nil => cases member
  | @cons first term _ _ answer _ ih =>
    rcases List.mem_cons.mp member with rfl | member
    · exact ⟨term, List.mem_cons_self .., answer⟩
    · obtain ⟨other, present, answer⟩ := ih member
      exact ⟨other, List.mem_cons_of_mem _ present, answer⟩

theorem answer_call_eq_ok {name : String} {arguments : List Body} {result : Term} :
    (call name arguments).answer named valued = .ok result ↔
      ∃ terms, List.Forall₂ (fun argument term => argument.answer named valued = .ok term)
        arguments terms ∧ Term.call name terms = .ok result := by
  rw [answer, bind_eq_ok]
  simp only [answers_eq_ok, arithmeticOutcome_eq_ok]

end Outcomes

variable {named' valued' : Attributes}

private theorem answers_congr {bodies : List Body}
    (each : ∀ body ∈ bodies, body.answer named valued = body.answer named' valued') :
    answers named valued bodies = answers named' valued' bodies := by
  induction bodies with
  | nil => rfl
  | cons body rest ih =>
    rw [answers, answers, each body (List.mem_cons_self ..),
      ih fun other member => each other (List.mem_cons_of_mem _ member)]

/-- The answer is the same where the attributes that are read give the same. -/
theorem answer_congr (scope : Scope) {body : Body}
    (composed : Composed body)
    (names : ∀ name, .byName name ∈ body.leaves scope → named name = named' name)
    (values : ∀ name, .byValue name ∈ body.leaves scope → valued name = valued' name) :
    body.answer named valued = body.answer named' valued' := by
  induction composed with
  | leaf isLeaf =>
    rw [leaves_of_isBasic isLeaf] at names values
    cases isLeaf with
    | expression expr => rfl
    | reference name => rfl
    | read isRead =>
      cases isRead with
      | constant value => rfl
      | byName name => exact names name (List.mem_singleton_self _)
      | byValue name => exact values name (List.mem_singleton_self _)
  | combine operator _ _ left right =>
    simp only [leaves, List.mem_append] at names values
    rw [answer, answer,
      left (fun name read => names name (.inl read)) (fun name read => values name (.inl read)),
      right (fun name read => names name (.inr read)) fun name read => values name (.inr read)]
  | negate _ operand =>
    simp only [leaves] at names values
    rw [answer, answer, operand names values]
  | call name _ each =>
    simp only [leaves, mem_leavesList] at names values
    rw [answer, answer]
    congr 1
    exact answers_congr fun argument member => each argument member
      (fun name read => names name ⟨argument, member, read⟩)
      fun name read => values name ⟨argument, member, read⟩

/-- A program that answers goes on to do so when its leaves do. -/
theorem answer_mono (scope : Scope) {body : Body} (composed : Composed body)
    (leaf : ∀ leaf ∈ body.leaves scope, ∀ term, leaf.answer named valued = .ok term →
      leaf.answer named' valued' = .ok term) {term : Term}
    (answered : body.answer named valued = .ok term) : body.answer named' valued' = .ok term := by
  induction composed generalizing term with
  | leaf isLeaf =>
    rw [leaves_of_isBasic isLeaf] at leaf
    exact leaf _ (List.mem_singleton_self _) term answered
  | combine operator _ _ left right =>
    simp only [leaves, List.forall_mem_append] at leaf
    obtain ⟨first, second, answerFirst, answerSecond, combined⟩ := answer_combine_eq_ok.mp answered
    exact answer_combine_eq_ok.mpr
      ⟨first, second, left leaf.1 answerFirst, right leaf.2 answerSecond, combined⟩
  | negate _ operand =>
    simp only [leaves] at leaf
    obtain ⟨inner, answerInner, negated⟩ := answer_negate_eq_ok.mp answered
    exact answer_negate_eq_ok.mpr ⟨inner, operand leaf answerInner, negated⟩
  | call name _ each =>
    simp only [leaves, mem_leavesList] at leaf
    obtain ⟨terms, answers, called⟩ := answer_call_eq_ok.mp answered
    refine answer_call_eq_ok.mpr ⟨terms, ?_, called⟩
    have all := (List.forall₂_and_left _ _).mpr ⟨fun _ member => member, answers⟩
    refine all.imp fun argument term ⟨member, answer⟩ => ?_
    exact each argument member (fun other read => leaf other ⟨argument, member, read⟩) answer

/-- A program that answers goes on to do so when what it reads by value gives the same. -/
theorem answer_mono_values (scope : Scope) {body : Body} (composed : Composed body) {term : Term}
    (values : ∀ field part, .byValue field ∈ body.leaves scope → valued field = .ok part →
      valued' field = .ok part)
    (answered : body.answer named valued = .ok term) : body.answer named valued' = .ok term := by
  refine answer_mono scope composed (fun leaf member part answer => ?_) answered
  cases composed.of_leaf (fun _ basic => basic) member with
  | expression expr => exact answer
  | reference field => exact answer
  | read isRead =>
    cases isRead with
    | constant value => exact answer
    | byName field => exact answer
    | byValue field => exact values field part member answer

/-- All leaves of a program that answers do so. -/
theorem exists_answer_of_leaf {scope : Scope} {body leaf : Body} (composed : Composed body)
    (member : leaf ∈ body.leaves scope) {term : Term} (answered : body.answer named valued = .ok term) :
    ∃ term, leaf.answer named valued = .ok term := by
  induction composed generalizing term with
  | leaf isLeaf =>
    rw [leaves_of_isBasic isLeaf, List.mem_singleton] at member
    exact ⟨term, member ▸ answered⟩
  | combine operator _ _ left right =>
    obtain ⟨first, second, answerFirst, answerSecond, -⟩ := answer_combine_eq_ok.mp answered
    rw [leaves, List.mem_append] at member
    exact member.elim (left · answerFirst) (right · answerSecond)
  | negate _ operand =>
    obtain ⟨inner, answerInner, -⟩ := answer_negate_eq_ok.mp answered
    rw [leaves] at member
    exact operand member answerInner
  | call name _ each =>
    obtain ⟨terms, answers, -⟩ := answer_call_eq_ok.mp answered
    rw [leaves, mem_leavesList] at member
    obtain ⟨argument, present, member⟩ := member
    obtain ⟨inner, -, answerInner⟩ := exists_answer answers present
    exact each argument present member answerInner

/-- That a program answers what it gives is a verdict that operations respect. -/
theorem answer_verdicts (named valued : Attributes) :
    Verdicts fun body outcome => body.answer named valued = outcome where
  combine left right := by rw [answer, left, right]; rfl
  combineLeft left := by rw [answer, left]; rfl
  combineRight left right := by rw [answer, left, right]; rfl
  negate operand := by rw [answer, operand]; rfl
  negateError operand := by rw [answer, operand]; rfl
  call all := by rw [answer, answers_eq_ok.mpr all]; rfl
  callError {name before terms argument rest error} all fails := by
    have failed : answers named valued (before ++ argument :: rest) = .error error := by
      induction all with
      | nil => rw [List.nil_append, answers, fails]; rfl
      | cons first _ ih => rw [List.cons_append, answers, first, ih]; rfl
    rw [answer, failed]
    rfl

end Hybrid.Body
