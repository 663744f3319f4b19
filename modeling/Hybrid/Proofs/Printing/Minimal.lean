import Hybrid.Proofs.Printing.Colours
import Hybrid.Proofs.Printing.Groupings

/-! # No group can be left out

A text from which the two parentheses of a group are taken can still be read: the reader goes through
the inside of the group as before and finds itself where the group would have ended. But it reads
another expression, because the text has a group less than the printed expression needs.

That the reader goes on alike is a matter of which parentheses are open, `State.brackets`, and of what
sort of token was read last, `Point.Alike`; the combinations read so far do not count.
-/

namespace Hybrid

namespace Pair

/-- The text without the two parentheses. -/
def deleted (pair : Pair) : List Token :=
  pair.before ++ pair.inside ++ pair.after

/-- The pair stands around an operand: its first parenthesis follows no function. -/
def Groups (pair : Pair) : Prop :=
  ∀ name, pair.before.getLast? ≠ some (.function, name)

end Pair

namespace Reader

def Opening.isCall : Opening → Bool
  | .group => false
  | .call _ _ => true

/-- For each open parenthesis whether it is one of a call, the innermost first. -/
def State.brackets (state : State) : List Bool :=
  match state.point with
  | .opened _ _ | .referring _ _ => true :: state.outer.map (·.2.isCall)
  | .wanting _ | .having _ | .naming _ _ => state.outer.map (·.2.isCall)

/-- The same sort of token was read last. -/
inductive Point.Alike : Point → Point → Prop
  | wanting {place other : Place} : Alike (.wanting place) (.wanting other)
  | having {chain other : Chain} : Alike (.having chain) (.having other)
  | naming {place other : Place} {name : String} : Alike (.naming place name) (.naming other name)
  | opened {place other : Place} {name : String} : Alike (.opened place name) (.opened other name)
  | referring {place other : Place} {field field' : String} :
    Alike (.referring place field) (.referring other field')

section Step

variable {literal : String → Option Value} {outer outer' : List (Place × Opening)}
  {place place' : Place} {state other next : State} {token : Token} {depth : UInt8}

theorem Wants.brackets (wants : Wants state outer place) :
    outer.map (·.2.isCall) = state.brackets := by
  cases wants <;> rfl

/-- Where an operand may follow, it may also follow in a state alike. -/
theorem Wants.exists_of_alike (wants : Wants state outer place)
    (alike : state.point.Alike other.point) : ∃ outer' place', Wants other outer' place' := by
  obtain ⟨outer', point⟩ := other
  cases wants with
  | operand =>
    cases alike
    exact ⟨_, _, .operand⟩
  | argument =>
    cases alike
    exact ⟨_, _, .argument⟩

/-- The reader goes on from another state as it does to `next`, and `brackets` are open then. -/
def Follows (literal : String → Option Value) (other : State) (token : Token) (next : State)
    (brackets : List Bool) : Prop :=
  ∃ behind, Steps literal other token behind ∧ next.point.Alike behind.point ∧
    behind.brackets = brackets

/-- A token that is no parenthesis leaves open what is open. A comma is read inside a call only. -/
theorem Steps.plain (steps : Steps literal state token next) (plain : ¬ Token.IsParenthesis token)
    (alike : state.point.Alike other.point)
    (commas : state.brackets.head? = some true → other.brackets.head? = some true) :
    next.brackets = state.brackets ∧ Follows literal other token next other.brackets := by
  cases steps with
  | sign wants =>
    obtain ⟨outer', place', wants'⟩ := wants.exists_of_alike alike
    exact ⟨wants.brackets, _, .sign wants', .wanting, wants'.brackets⟩
  | value wants read =>
    obtain ⟨outer', place', wants'⟩ := wants.exists_of_alike alike
    exact ⟨wants.brackets, _, .value wants' read, .having, wants'.brackets⟩
  | function wants =>
    obtain ⟨outer', place', wants'⟩ := wants.exists_of_alike alike
    exact ⟨wants.brackets, _, .function wants', .naming, wants'.brackets⟩
  | field =>
    obtain ⟨outer', point⟩ := other
    cases alike
    exact ⟨rfl, _, .field, .referring, rfl⟩
  | operator symbol =>
    obtain ⟨outer', point⟩ := other
    cases alike
    exact ⟨rfl, _, .operator symbol, .wanting, rfl⟩
  | comma =>
    obtain ⟨outer', point⟩ := other
    cases alike
    have inCall := commas rfl
    obtain _ | ⟨⟨place', _ | ⟨name, arguments⟩⟩, outer'⟩ := outer'
    · cases inCall
    · cases inCall
    · exact ⟨rfl, _, .comma, .wanting, rfl⟩
  | _ => exact absurd ⟨_, rfl⟩ plain

/-- An opening parenthesis is one more that is open. -/
theorem Steps.opening (steps : Steps literal state token next) (opens : Token.opens token = true)
    (alike : state.point.Alike other.point) :
    ∃ ofCall, next.brackets = ofCall :: state.brackets ∧
      Follows literal other token next (ofCall :: other.brackets) := by
  cases steps with
  | group wants =>
    obtain ⟨outer', place', wants'⟩ := wants.exists_of_alike alike
    exact ⟨false, congrArg _ wants.brackets, _, .group wants', .wanting, congrArg _ wants'.brackets⟩
  | call =>
    obtain ⟨outer', point⟩ := other
    cases alike
    exact ⟨true, rfl, _, .call, .opened, rfl⟩
  | _ => simp [Token.opens] at opens

/-- Behind a combination the innermost parenthesis is closed, whatever it belongs to. -/
private theorem follows_end {chain whole : Chain} {ofOther : Bool} {brackets : List Bool}
    (opens : State.brackets ⟨outer', .having chain⟩ = ofOther :: brackets) :
    Follows literal ⟨outer', .having chain⟩ (.parenthesis depth, ")") ⟨outer, .having whole⟩
      brackets := by
  obtain _ | ⟨⟨place', _ | ⟨name, arguments⟩⟩, outer'⟩ := outer'
  · cases opens
  · exact ⟨_, .endGroup, .having, (List.cons.inj opens).2⟩
  · exact ⟨_, .endCall, .having, (List.cons.inj opens).2⟩

/-- A closing parenthesis takes the innermost one from what is open. -/
theorem Steps.closing (steps : Steps literal state token next) (closes : Token.closes token = true)
    (alike : state.point.Alike other.point) :
    ∃ ofCall, state.brackets = ofCall :: next.brackets ∧
      ∀ ofOther brackets, other.brackets = ofOther :: brackets →
        Follows literal other token next brackets := by
  obtain ⟨outer', point⟩ := other
  cases steps with
  | endGroup =>
    cases alike
    exact ⟨false, rfl, fun ofOther brackets => follows_end⟩
  | endCall =>
    cases alike
    exact ⟨true, rfl, fun ofOther brackets => follows_end⟩
  | endEmptyCall =>
    cases alike
    exact ⟨true, rfl, fun ofOther brackets opens =>
      ⟨_, .endEmptyCall, .having, (List.cons.inj opens).2⟩⟩
  | endField =>
    cases alike
    exact ⟨true, rfl, fun ofOther brackets opens =>
      ⟨_, .endField, .having, (List.cons.inj opens).2⟩⟩
  | _ => simp [Token.closes] at closes

/-- A token that is read as a parenthesis opens one or closes one. -/
theorem Steps.opens_or_closes (steps : Steps literal state token next)
    (parenthesis : Token.IsParenthesis token) :
    Token.opens token = true ∨ Token.closes token = true := by
  cases steps with
  | group => exact .inl rfl
  | call => exact .inl rfl
  | endGroup => exact .inr rfl
  | endCall => exact .inr rfl
  | endEmptyCall => exact .inr rfl
  | endField => exact .inr rfl
  | _ => simp [Token.IsParenthesis] at parenthesis

/-- The reader goes through tokens in which parentheses match without looking at what is open before,
but for commas. -/
theorem run_balanced {tokens : List Token} (balanced : Balanced tokens)
    (alike : state.point.Alike other.point)
    (commas : state.brackets.head? = some true → other.brackets.head? = some true)
    (taken : run literal state tokens = some next) :
    next.brackets = state.brackets ∧ ∃ behind, run literal other tokens = some behind ∧
      next.point.Alike behind.point ∧ behind.brackets = other.brackets := by
  induction balanced generalizing state other next with
  | nil =>
    obtain rfl := Option.some.inj taken
    exact ⟨rfl, other, rfl, alike, rfl⟩
  | @plain token rest plain _ ih =>
    obtain ⟨middle, first, taken⟩ := run_cons_eq_some_iff.mp taken
    obtain ⟨opens, middle', first', alike', opens'⟩ := first.plain plain alike commas
    obtain ⟨same, behind, taken', last, same'⟩ := ih alike' (by rwa [opens, opens']) taken
    exact ⟨same.trans opens, behind, run_cons_eq_some_iff.mpr ⟨middle', first', taken'⟩, last,
      same'.trans opens'⟩
  | @pair opening closing inside rest _ _ ihInside ihRest =>
    obtain ⟨entered, first, taken⟩ := run_cons_eq_some_iff.mp taken
    obtain ⟨ending, within, taken⟩ := run_append_eq_some_iff.mp taken
    obtain ⟨left, last, taken⟩ := run_cons_eq_some_iff.mp taken
    obtain ⟨ofCall, opens, entered', first', alikeInside, opens'⟩ := first.opening rfl alike
    obtain ⟨same, ending', within', alikeEnding, same'⟩ :=
      ihInside alikeInside (by rw [opens, opens']; exact id) within
    obtain ⟨ofPair, closes, closed⟩ := last.closing rfl alikeEnding
    obtain ⟨left', last', alikeOutside, closes'⟩ := closed ofCall other.brackets (same'.trans opens')
    have outside : left.brackets = state.brackets :=
      (List.cons.inj (closes.symm.trans (same.trans opens))).2
    obtain ⟨kept, behind, taken', alikeBehind, kept'⟩ :=
      ihRest alikeOutside (by rwa [outside, closes']) taken
    refine ⟨kept.trans outside, behind, ?_, alikeBehind, kept'.trans closes'⟩
    have closed' : run literal ending' ((.parenthesis closing, ")") :: rest) = some behind :=
      run_cons_eq_some_iff.mpr ⟨left', last', taken'⟩
    exact run_cons_eq_some_iff.mpr
      ⟨entered', first', run_append_eq_some_iff.mpr ⟨ending', within', closed'⟩⟩

/-- Where the same parentheses are open, a token does the same to states alike. -/
theorem Steps.follows (steps : Steps literal state token next) (alike : state.point.Alike other.point)
    (same : other.brackets = state.brackets) : Follows literal other token next next.brackets := by
  by_cases parenthesis : Token.IsParenthesis token
  · rcases steps.opens_or_closes parenthesis with opens | closes
    · obtain ⟨ofCall, brackets, follows⟩ := steps.opening opens alike
      rwa [brackets, ← same]
    · obtain ⟨ofCall, brackets, follows⟩ := steps.closing closes alike
      exact follows ofCall _ (same.trans brackets)
  · obtain ⟨kept, follows⟩ := steps.plain parenthesis alike (by rw [same]; exact id)
    rwa [kept, ← same]

/-- Where the same parentheses are open, the reader goes on alike. -/
theorem run_alike {tokens : List Token} (alike : state.point.Alike other.point)
    (same : other.brackets = state.brackets) (taken : run literal state tokens = some next) :
    ∃ behind, run literal other tokens = some behind ∧ next.point.Alike behind.point ∧
      behind.brackets = next.brackets := by
  induction tokens generalizing state other with
  | nil =>
    obtain rfl := Option.some.inj taken
    exact ⟨other, rfl, alike, same⟩
  | cons token rest ih =>
    obtain ⟨middle, first, taken⟩ := run_cons_eq_some_iff.mp taken
    obtain ⟨middle', first', alike', same'⟩ := first.follows alike same
    obtain ⟨behind, taken', last⟩ := ih alike' same' taken
    exact ⟨behind, run_cons_eq_some_iff.mpr ⟨middle', first', taken'⟩, last⟩

/-- Where the last token is no function, no parenthesis is owed. -/
theorem point_ne_naming {tokens : List Token} {name : String}
    (groups : ∀ name, tokens.getLast? ≠ some (.function, name))
    (taken : run literal ⟨[], .wanting .start⟩ tokens = some state) :
    state.point ≠ .naming place name := by
  rcases List.eq_nil_or_concat tokens with rfl | ⟨before, token, rfl⟩
  · obtain rfl := Option.some.inj taken
    exact nofun
  · rw [List.concat_eq_append] at taken
    obtain ⟨middle, -, last⟩ := run_append_eq_some_iff.mp taken
    cases run_singleton_eq_some_iff.mp last with
    | @function _ _ _ name => exact absurd (by simp) (groups name)
    | _ => exact nofun

private theorem begins_of_wanting (steps : Steps literal ⟨outer, .wanting place⟩ token next) :
    Begins token := by
  cases steps with
  | group => simp [Begins]
  | _ => trivial

/-- Only a combination is followed by the end of a group. -/
private theorem having_of_closing (steps : Steps literal state token next)
    (closes : Token.closes token = true) (group : state.brackets.head? = some false) :
    (∃ chain, state.point = .having chain) ∧ ∃ chain, next.point = .having chain := by
  cases steps with
  | endGroup => exact ⟨⟨_, rfl⟩, _, rfl⟩
  | endCall => exact ⟨⟨_, rfl⟩, _, rfl⟩
  | endEmptyCall => cases group
  | endField => cases group
  | _ => simp [Token.closes] at closes

/-- What a group holds can be read without the group. -/
private theorem run_within {inside : List Token} {closing : UInt8} (balanced : Balanced inside)
    (taken : run literal ⟨(place', .group) :: outer, .wanting .start⟩
      (inside ++ [(.parenthesis closing, ")")]) = some next) :
    ∃ behind, run literal ⟨outer, .wanting place⟩ inside = some behind ∧
      next.point.Alike behind.point ∧ behind.brackets = next.brackets := by
  obtain ⟨ending, within, last⟩ := run_append_eq_some_iff.mp taken
  have last := run_singleton_eq_some_iff.mp last
  obtain ⟨opens, behind, within', alike, opens'⟩ :
      ending.brackets = false :: outer.map (·.2.isCall) ∧
        ∃ behind, run literal ⟨outer, .wanting place⟩ inside = some behind ∧
          ending.point.Alike behind.point ∧ behind.brackets = outer.map (·.2.isCall) :=
    run_balanced balanced .wanting (by simp [State.brackets, Opening.isCall]) within
  obtain ⟨⟨chain, having⟩, chain', closed⟩ := having_of_closing last rfl (by simp [opens])
  obtain ⟨ofCall, closes, -⟩ := last.closing rfl alike
  refine ⟨behind, within', ?_, ?_⟩
  · obtain ⟨outer', point⟩ := behind
    rw [having] at alike
    rw [closed]
    cases alike
    exact .having
  · rw [opens']
    exact (List.cons.inj (closes.symm.trans opens)).2.symm

/-- The reader goes on behind the inside of a group as it does behind the group. -/
theorem run_group {inside : List Token} {opening closing : UInt8} (balanced : Balanced inside)
    (free : ∀ place name, state.point ≠ .naming place name)
    (taken : run literal state
      ((.parenthesis opening, "(") :: (inside ++ [(.parenthesis closing, ")")])) = some next) :
    ∃ behind, run literal state inside = some behind ∧
      next.point.Alike behind.point ∧ behind.brackets = next.brackets := by
  obtain ⟨entered, first, taken⟩ := run_cons_eq_some_iff.mp taken
  generalize parenthesis : ((.parenthesis opening, "(") : Token) = token at first
  cases first with
  | group wants =>
    cases wants with
    | operand => exact run_within balanced taken
    | @argument outer place name =>
      -- the group begins the first argument of a call, and so does its inside
      obtain ⟨behind, within, same⟩ : ∃ behind,
          run literal ⟨(place, .call name []) :: outer, .wanting .start⟩ inside = some behind ∧
            next.point.Alike behind.point ∧ behind.brackets = next.brackets :=
        run_within balanced taken
      refine ⟨behind, ?_, same⟩
      cases inside with
      | nil => cases taken
      | cons token rest =>
        obtain ⟨middle, begins, -⟩ := run_cons_eq_some_iff.mp taken
        rw [run_opened (begins_of_wanting begins), within]
  | @call outer place name => exact absurd rfl (free place name)
  | _ => simp at parenthesis

end Step

/-- A text can still be read without the parentheses of a group. -/
theorem exists_read_deleted {literal : String → Option Value} {pair : Pair} {whole : Expr}
    (groups : pair.Groups) (balanced : Balanced pair.inside)
    (readable : read literal pair.text = some whole) :
    ∃ other, read literal pair.deleted = some other := by
  obtain ⟨chain, taken, -⟩ := read_eq_some_iff.mp readable
  have regroup : pair.text = pair.before ++
      ((.parenthesis pair.opening, "(") :: (pair.inside ++ [(.parenthesis pair.closing, ")")]) ++
        pair.after) := by
    simp [Pair.text]
  rw [regroup] at taken
  obtain ⟨state, before, taken⟩ := run_append_eq_some_iff.mp taken
  obtain ⟨next, group, after⟩ := run_append_eq_some_iff.mp taken
  obtain ⟨behind, inside, alike, same⟩ :=
    run_group balanced (fun place name => point_ne_naming groups before) group
  obtain ⟨⟨outer, point⟩, after', having, brackets⟩ := run_alike alike same after
  obtain ⟨other, rfl⟩ : ∃ other, point = .having other := by
    cases having
    exact ⟨_, rfl⟩
  obtain rfl : outer = [] := List.map_eq_nil_iff.mp brackets
  have taken' : run literal ⟨[], .wanting .start⟩ pair.deleted = some ⟨[], .having other⟩ := by
    rw [Pair.deleted, List.append_assoc, run_append_eq_some_iff]
    exact ⟨state, before, run_append_eq_some_iff.mpr ⟨behind, inside, after'⟩⟩
  exact ⟨other.toExpr, read_eq_some_iff.mpr ⟨other, taken', rfl⟩⟩

end Reader

namespace Pair

variable {pair : Pair}

@[simp] theorem countP_names_deleted :
    pair.deleted.countP Token.names = pair.text.countP Token.names := by
  simp [deleted, text, Token.names]

@[simp] theorem countP_opens_text :
    pair.text.countP Token.opens = pair.deleted.countP Token.opens + 1 := by
  simp [deleted, text, Token.opens]
  omega

end Pair

namespace Expr

open Layout (Segment)

/-- Parentheses are minimal. Where all names have characters, the text of an expression is read as
another expression when the two parentheses of any group are taken from it, at every width and
whatever the texts of literals stand for. -/
theorem parentheses_minimal {expr : Expr} (named : expr.Named) (meaning : String → Value)
    (width : Nat) {pair : Pair} (of : pair.Of ((expr.segments width).filterMap Segment.styled?))
    (groups : pair.Groups) :
    ∃ whole other, Reader.read (fun text => some (meaning text)) pair.text = some whole ∧
      Reader.read (fun text => some (meaning text)) pair.deleted = some other ∧ other ≠ whole := by
  have means : expr.Everywhere
      (Means (fun text => some (meaning text)) fun value => meaning value.display) := by
    refine named.mono fun inside _ => ?_
    cases inside <;> trivial
  have written : pair.text = expr.tokens 0 := of.text.trans (named.segments_styled width)
  have readable := Reader.read_tokens_of_means means 0
  rw [← written] at readable
  obtain ⟨other, legible⟩ := Reader.exists_read_deleted groups of.inside readable
  refine ⟨_, other, readable, legible, ?_⟩
  rintro rfl
  -- the text has as many groups as the expression needs, and the other one a group less
  have needed := Reader.groupings_le_of_read legible
  have printed := expr.opensGroups_tokens (fun value => meaning value.display) 0
  rw [← written, OpensGroups, Pair.countP_opens_text] at printed
  rw [Pair.countP_names_deleted] at needed
  omega

/-- The inner group of `(F(a) - (F(b) - F(c))) * F(d)`, in the whole text. -/
def innerGroup : Pair where
  before := (.parenthesis 0, "(") :: subtrahend.before
  opening := subtrahend.opening
  inside := subtrahend.inside
  closing := subtrahend.closing
  after := subtrahend.after ++ (.parenthesis 0, ")") :: difference.after

theorem innerGroup_of (width : Nat) :
    innerGroup.Of ((differences.segments width).filterMap Segment.styled?) := by
  refine ⟨?_, subtrahend_of.inside⟩
  rw [← (difference_of width).text, Pair.text, Pair.text, ← subtrahend_of.text, Pair.text]
  simp [innerGroup, difference]

theorem read_innerGroup_deleted :
    differences.Named ∧ innerGroup.Of ((differences.segments 20).filterMap Segment.styled?) ∧
      innerGroup.Groups ∧
        ∃ whole other, Reader.read (fun text => some (.text text)) innerGroup.text = some whole ∧
          Reader.read (fun text => some (.text text)) innerGroup.deleted = some other ∧
            other ≠ whole := by
  have groups : innerGroup.Groups := by
    intro name
    simp [innerGroup, subtrahend, List.getLast?_cons]
  exact ⟨differences_named, innerGroup_of 20, groups,
    parentheses_minimal differences_named .text 20 (innerGroup_of 20) groups⟩

end Expr

end Hybrid
