import Hybrid.Proofs.Printing.Tokens

/-! # Matching parentheses

The parentheses among the tokens of an expression are balanced, and the style of each says how many
pairs stand around it. `Styled` holds of tokens that are nested so, by recursion on their pairs;
`Opens` goes through tokens from left to right and counts the pairs that are open, so a text may be
cut anywhere.
-/

namespace Hybrid

/-- An opening parenthesis. -/
def Token.opens : Token → Bool
  | (.parenthesis _, mark) => mark = "("
  | _ => false

/-- A closing parenthesis. -/
def Token.closes : Token → Bool
  | (.parenthesis _, mark) => mark = ")"
  | _ => false

/-- The token has the style of a parenthesis. -/
def Token.IsParenthesis (token : Token) : Prop :=
  ∃ depth, token.1 = .parenthesis depth

/-- Tokens whose parentheses match, whatever their styles. -/
inductive Balanced : List Token → Prop
  | nil : Balanced []
  | plain {token : Token} {rest : List Token} : ¬ Token.IsParenthesis token → Balanced rest →
    Balanced (token :: rest)
  | pair {opening closing : UInt8} {inside rest : List Token} : Balanced inside → Balanced rest →
    Balanced ((.parenthesis opening, "(") :: (inside ++ (.parenthesis closing, ")") :: rest))

/-- A pair of parentheses with the tokens before, inside and after it. -/
structure Pair where
  before : List Token
  opening : UInt8
  inside : List Token
  closing : UInt8
  after : List Token

namespace Pair

/-- The whole text that the pair stands in. -/
def text (pair : Pair) : List Token :=
  pair.before ++ (.parenthesis pair.opening, "(") ::
    (pair.inside ++ (.parenthesis pair.closing, ")") :: pair.after)

/-- The pair stands in some tokens, and its two parentheses match. -/
structure Of (pair : Pair) (tokens : List Token) : Prop where
  text : pair.text = tokens
  inside : Balanced pair.inside

end Pair

/-- Tokens inside `count` pairs whose parentheses match, each with the number of pairs around it as
its depth. -/
inductive Styled : Nat → List Token → Prop
  | nil {count : Nat} : Styled count []
  | plain {count : Nat} {token : Token} {rest : List Token} : ¬ Token.IsParenthesis token →
    Styled count rest → Styled count (token :: rest)
  | pair {count : Nat} {inside rest : List Token} : Styled (count + 1) inside → Styled count rest →
    Styled count ((.parenthesis (.ofNat count), "(") ::
      (inside ++ (.parenthesis (.ofNat count), ")") :: rest))

/-- Tokens that lead from `count` open pairs to `final` ones, where each parenthesis has the number
of pairs around it as its depth. -/
inductive Opens : Nat → List Token → Nat → Prop
  | nil {count : Nat} : Opens count [] count
  | plain {count final : Nat} {token : Token} {rest : List Token} : ¬ Token.IsParenthesis token →
    Opens count rest final → Opens count (token :: rest) final
  | opening {count final : Nat} {rest : List Token} : Opens (count + 1) rest final →
    Opens count ((.parenthesis (.ofNat count), "(") :: rest) final
  | closing {count final : Nat} {rest : List Token} : Opens count rest final →
    Opens (count + 1) ((.parenthesis (.ofNat count), ")") :: rest) final

section Counts

variable {token : Token}

theorem Token.opens_of_plain (plain : ¬ IsParenthesis token) : opens token = false := by
  obtain ⟨style, mark⟩ := token
  cases style with
  | parenthesis depth => exact absurd ⟨depth, rfl⟩ plain
  | _ => rfl

theorem Token.closes_of_plain (plain : ¬ IsParenthesis token) : closes token = false := by
  obtain ⟨style, mark⟩ := token
  cases style with
  | parenthesis depth => exact absurd ⟨depth, rfl⟩ plain
  | _ => rfl

end Counts

namespace Styled

variable {count : Nat} {tokens others : List Token}

theorem append (first : Styled count tokens) (second : Styled count others) :
    Styled count (tokens ++ others) := by
  induction first with
  | nil => exact second
  | plain plain _ ih => exact .plain plain (ih second)
  | pair inside _ _ ih =>
    simp only [List.cons_append, List.append_assoc]
    exact .pair inside (ih second)

theorem balanced (styled : Styled count tokens) : Balanced tokens := by
  induction styled with
  | nil => exact .nil
  | plain plain _ ih => exact .plain plain ih
  | pair _ _ inside rest => exact .pair inside rest

/-- Tokens without a text may be left out. -/
theorem filter_nonempty (styled : Styled count tokens) :
    Styled count (tokens.filter fun token => !token.2.isEmpty) := by
  induction styled with
  | nil => exact .nil
  | @plain count token rest plain _ ih =>
    rw [List.filter_cons]
    split
    · exact .plain plain ih
    · exact ih
  | pair _ _ inside rest =>
    simp only [List.filter_cons, List.filter_append]
    exact .pair inside rest

end Styled

namespace Opens

variable {count middle final : Nat} {tokens others : List Token}

theorem append (first : Opens count tokens middle) (second : Opens middle others final) :
    Opens count (tokens ++ others) final := by
  induction first with
  | nil => exact second
  | plain plain _ ih => exact .plain plain (ih second)
  | opening _ ih => exact .opening (ih second)
  | closing _ ih => exact .closing (ih second)

/-- A text may be cut anywhere. -/
theorem split (opens : Opens count (tokens ++ others) final) :
    ∃ middle, Opens count tokens middle ∧ Opens middle others final := by
  induction tokens generalizing count with
  | nil => exact ⟨count, .nil, opens⟩
  | cons token rest ih =>
    cases opens with
    | plain plain opens =>
      obtain ⟨middle, first, second⟩ := ih opens
      exact ⟨middle, .plain plain first, second⟩
    | opening opens =>
      obtain ⟨middle, first, second⟩ := ih opens
      exact ⟨middle, .opening first, second⟩
    | closing opens =>
      obtain ⟨middle, first, second⟩ := ih opens
      exact ⟨middle, .closing first, second⟩

theorem of_styled (styled : Styled count tokens) : Opens count tokens count := by
  induction styled with
  | nil => exact .nil
  | plain plain _ ih => exact .plain plain ih
  | pair _ _ inside rest => exact .opening (inside.append (.closing rest))

/-- An opening parenthesis has the number of open pairs as its depth. -/
theorem of_opening {depth : UInt8} (opens : Opens count ((.parenthesis depth, "(") :: tokens) final) :
    depth = .ofNat count ∧ Opens (count + 1) tokens final := by
  generalize whole : ((.parenthesis depth, "(") :: tokens : List Token) = all at opens
  cases opens with
  | nil => cases whole
  | plain plain _ =>
    obtain ⟨rfl, -⟩ := List.cons.inj whole
    exact absurd ⟨depth, rfl⟩ plain
  | opening opens =>
    obtain ⟨same, rfl⟩ := List.cons.inj whole
    exact ⟨by simpa using same, opens⟩
  | closing opens => simp at whole

/-- A closing parenthesis has the depth of the pair that it closes. -/
theorem of_closing {depth : UInt8}
    (opens : Opens (count + 1) ((.parenthesis depth, ")") :: tokens) final) :
    depth = .ofNat count ∧ Opens count tokens final := by
  generalize whole : ((.parenthesis depth, ")") :: tokens : List Token) = all at opens
  generalize inner : count + 1 = more at opens
  cases opens with
  | nil => cases whole
  | plain plain _ =>
    obtain ⟨rfl, -⟩ := List.cons.inj whole
    exact absurd ⟨depth, rfl⟩ plain
  | opening opens => simp at whole
  | closing opens =>
    obtain ⟨same, rfl⟩ := List.cons.inj whole
    obtain rfl := Nat.succ.inj inner
    exact ⟨by simpa using same, opens⟩

/-- As many pairs are open behind tokens in which parentheses match as before them. -/
theorem eq_of_balanced (balanced : Balanced tokens) (opens : Opens count tokens final) :
    final = count := by
  induction balanced generalizing count final with
  | nil => cases opens; rfl
  | plain plain _ ih =>
    cases opens with
    | plain _ opens => exact ih opens
    | opening opens => exact absurd ⟨_, rfl⟩ plain
    | closing opens => exact absurd ⟨_, rfl⟩ plain
  | pair _ _ inside rest =>
    obtain ⟨-, opens⟩ := opens.of_opening
    obtain ⟨middle, within, behind⟩ := opens.split
    obtain rfl := inside within
    exact rest behind.of_closing.2

/-- The open pairs are those that were opened and not closed. -/
theorem count_eq (opens : Opens count tokens final) :
    count + tokens.countP Token.opens = final + tokens.countP Token.closes := by
  induction opens with
  | nil => rfl
  | plain plain _ ih =>
    simpa [Token.opens_of_plain plain, Token.closes_of_plain plain] using ih
  | opening _ ih =>
    simp only [List.countP_cons, Token.opens, Token.closes] at ih ⊢
    simp
    omega
  | closing _ ih =>
    simp only [List.countP_cons, Token.opens, Token.closes] at ih ⊢
    simp
    omega

end Opens

/-- A pair inside `count` other ones has them as the depth of both parentheses, and `count + 1` pairs
are open inside it. -/
theorem Styled.pair_depths {count : Nat} {tokens : List Token} {pair : Pair}
    (styled : Styled count tokens) (of : pair.Of tokens) :
    ∃ enclosing, Opens count pair.before enclosing ∧ pair.opening = .ofNat enclosing ∧
      pair.closing = .ofNat enclosing ∧ Opens (enclosing + 1) pair.inside (enclosing + 1) := by
  have opens := Opens.of_styled styled
  rw [← of.text, Pair.text] at opens
  obtain ⟨enclosing, before, opens⟩ := opens.split
  obtain ⟨opening, opens⟩ := opens.of_opening
  obtain ⟨middle, inside, opens⟩ := opens.split
  obtain rfl := inside.eq_of_balanced of.inside
  exact ⟨enclosing, before, opening, opens.of_closing.1, inside⟩

end Hybrid
