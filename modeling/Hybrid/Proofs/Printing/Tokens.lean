import Hybrid.Expr.Printer
import Hybrid.Proofs.Expr.Occurrences
import Hybrid.Proofs.Value.Text

/-! # The tokens of a rendering

A document holds its styled texts in a fixed order. The layout decides where lines end, and nothing
that it adds has a style. So the styled segments of an expression are the tokens of its document at
every width.
-/

namespace Hybrid.Layout

variable {σ : Type}

/-- The styled texts of a document, in order. -/
def Doc.styled : Doc σ → List (σ × String)
  | .text (some style) content => [(style, content)]
  | .text none _ | .line | .softLine => []
  | .append first second => first.styled ++ second.styled
  | .nest _ doc => doc.styled
  | .group doc => doc.styled

@[simp] theorem Doc.styled_append (first second : Doc σ) :
    (first ++ second).styled = first.styled ++ second.styled := rfl

def Piece.styled? (piece : Piece σ) : Option (σ × String) :=
  piece.style?.map fun style => (style, piece.content)

def Segment.styled? (segment : Segment σ) : Option (σ × String) :=
  segment.style?.map fun style => (style, segment.content)

/-- The layout puts out the styled texts of a stack in order. -/
theorem layout_styled (width column : Nat) (stack : List (Item σ)) :
    (layout width column stack).filterMap Piece.styled? = stack.flatMap (·.doc.styled) := by
  fun_induction layout width column stack with
  | case1 => rfl
  | case2 column indent mode stack style content ih =>
    cases style <;>
      simp [List.filterMap_cons, Piece.styled?, Piece.style?, Piece.content, Doc.styled, ih]
  | case3 column indent stack ih =>
    simp [List.filterMap_cons, Piece.styled?, Piece.style?, Doc.styled, ih]
  | case4 column indent stack ih =>
    simp [List.filterMap_cons, Piece.styled?, Piece.style?, Doc.styled, ih]
  | case5 column indent stack ih =>
    simp [List.filterMap_cons, Piece.styled?, Piece.style?, Doc.styled, ih]
  | case6 column indent stack ih =>
    simp [List.filterMap_cons, Piece.styled?, Piece.style?, Doc.styled, ih]
  | case7 column indent mode stack first second ih => simp [Doc.styled, ih]
  | case8 column indent mode stack more doc ih => simp [Doc.styled, ih]
  | case9 column indent mode stack doc ih => simp [Doc.styled, ih]

/-- Putting a piece before segments puts its text before theirs, unless it is empty. -/
private theorem styled_prepend (piece : Piece σ) (segments : List (Segment σ)) :
    (piece.prepend segments).filterMap Segment.styled? =
      (piece.styled?.toList.filter fun text => !text.2.isEmpty) ++
        segments.filterMap Segment.styled? := by
  unfold Piece.prepend Piece.styled?
  split
  · next empty => cases piece.style? <;> simp [empty]
  · next full =>
    have written : piece.content.isEmpty = false := by simpa using full
    cases style : piece.style? with
    | some style => simp [Segment.styled?, written]
    | none =>
      cases segments with
      | nil => rfl
      | cons first rest =>
        obtain ⟨_ | style, content⟩ := first
        · simp [List.filterMap_cons, Segment.styled?]
        · simp [List.filterMap_cons, Segment.styled?]

/-- The styled segments of a document are its styled texts, without the empty ones, at every
width. -/
theorem Doc.segments_styled (doc : Doc σ) (width : Nat) :
    (doc.segments width).filterMap Segment.styled? =
      doc.styled.filter fun text => !text.2.isEmpty := by
  have pieces (list : List (Piece σ)) :
      (list.foldr Piece.prepend []).filterMap Segment.styled? =
        (list.filterMap Piece.styled?).filter fun text => !text.2.isEmpty := by
    induction list with
    | nil => rfl
    | cons piece rest ih =>
      rw [List.foldr_cons, styled_prepend, ih, List.filterMap_cons]
      cases piece.styled? with
      | none => rfl
      | some text => exact (List.filter_append [text] _).symm
  unfold Doc.segments Doc.pieces
  rw [pieces, layout_styled]
  simp

end Hybrid.Layout

namespace Hybrid

/-- A styled text of an expression. -/
abbrev Token := TokenStyle × String

namespace Expr

/-- A field or a call has a name with at least one character. -/
def HasName : Expr → Prop
  | .field name => name ≠ ""
  | .call name _ => name ≠ ""
  | .literal _ | .combined _ _ _ | .negated _ => True

/-- All names in an expression have characters. -/
abbrev Named : Expr → Prop := Everywhere HasName

/-- The tokens of an expression inside `depth` parentheses. -/
def tokens (expr : Expr) (depth : UInt8) : List Token :=
  (expr.doc depth).styled

/-- The tokens of arguments with commas between them. -/
def argumentTokens (arguments : List Expr) (depth : UInt8) : List Token :=
  match argumentsDoc? arguments depth with
  | none => []
  | some doc => doc.styled

/-- The tokens of an operand, in parentheses if need be. -/
def operandTokens (wrapped : Bool) (depth : UInt8) (operand : Expr) : List Token :=
  if wrapped then
    (.parenthesis depth, "(") :: (operand.tokens (depth + 1) ++ [(.parenthesis depth, ")")])
  else operand.tokens depth

variable {depth : UInt8}

private theorem styled_operandDoc (wrapped : Bool) (operand : Expr) :
    (operandDoc wrapped depth (doc operand)).styled = operandTokens wrapped depth operand := by
  cases wrapped
  · rfl
  · simp [operandDoc, operandTokens, tokens, openParenthesis, closeParenthesis, token,
      Layout.Doc.styled]

theorem tokens_field (name : String) :
    (field name).tokens depth = [(.function, "F"), (.parenthesis depth, "("), (.identifier, name),
      (.parenthesis depth, ")")] := by
  unfold tokens doc
  rfl

theorem tokens_literal (value : Value) :
    (literal value).tokens depth = [(.literal, value.display)] := by
  unfold tokens doc
  rfl

theorem tokens_combined (operator : Operator) (lhs rhs : Expr) :
    (combined operator lhs rhs).tokens depth =
      operandTokens (needsParentheses lhs operator false) depth lhs ++
        (.operator, operator.symbol) ::
          operandTokens (needsParentheses rhs operator true) depth rhs := by
  unfold tokens doc combinedDoc
  simp [Layout.Doc.styled, styled_operandDoc, token]

theorem tokens_negated (operand : Expr) :
    (negated operand).tokens depth =
      (.operator, "-") :: operandTokens (needsParenthesesNegated operand) depth operand := by
  unfold tokens doc
  simp [Layout.Doc.styled, styled_operandDoc, token]

theorem tokens_call (name : String) (arguments : List Expr) :
    (call name arguments).tokens depth = (.function, name) :: (.parenthesis depth, "(") ::
      (argumentTokens arguments (depth + 1) ++ [(.parenthesis depth, ")")]) := by
  unfold tokens doc callDoc argumentTokens
  cases argumentsDoc? arguments (depth + 1) <;>
    simp [Layout.Doc.styled, openParenthesis, closeParenthesis, token]

@[simp] theorem argumentTokens_nil : argumentTokens [] depth = [] := by
  unfold argumentTokens argumentsDoc?
  rfl

@[simp] theorem argumentTokens_singleton (argument : Expr) :
    argumentTokens [argument] depth = argument.tokens depth := by
  unfold argumentTokens argumentsDoc? argumentsDoc?
  rfl

theorem argumentTokens_cons (argument next : Expr) (rest : List Expr) :
    argumentTokens (argument :: next :: rest) depth =
      argument.tokens depth ++ (.punctuation, ",") :: argumentTokens (next :: rest) depth := by
  have others : ∃ doc, argumentsDoc? (next :: rest) depth = some doc := by
    unfold argumentsDoc?
    split
    · exact ⟨_, rfl⟩
    · exact ⟨_, rfl⟩
  obtain ⟨doc, others⟩ := others
  unfold argumentTokens
  rw [argumentsDoc?, others]
  simp [Layout.Doc.styled, token, tokens]

/-- A token of an operand is a parenthesis around it or a token of the operand. -/
theorem mem_operandTokens {wrapped : Bool} {operand : Expr} {token : Token}
    (member : token ∈ operandTokens wrapped depth operand) :
    token.2 ≠ "" ∨ ∃ depth, token ∈ operand.tokens depth := by
  cases wrapped with
  | false => exact .inr ⟨depth, member⟩
  | true =>
    simp only [operandTokens, if_true, List.mem_cons, List.mem_append, List.not_mem_nil,
      or_false] at member
    rcases member with rfl | inside | rfl
    · exact .inl (by simp)
    · exact .inr ⟨depth + 1, inside⟩
    · exact .inl (by simp)

theorem mem_argumentTokens {arguments : List Expr} {token : Token}
    (member : token ∈ argumentTokens arguments depth) :
    token.2 ≠ "" ∨ ∃ argument ∈ arguments, token ∈ argument.tokens depth := by
  induction arguments with
  | nil => simp at member
  | cons argument rest ih =>
    cases rest with
    | nil => exact .inr ⟨argument, List.mem_cons_self .., by simpa using member⟩
    | cons next rest =>
      rw [argumentTokens_cons, List.mem_append, List.mem_cons] at member
      rcases member with inside | rfl | others
      · exact .inr ⟨argument, List.mem_cons_self .., inside⟩
      · exact .inl (by decide)
      · rcases ih others with full | ⟨other, present, inside⟩
        · exact .inl full
        · exact .inr ⟨other, List.mem_cons_of_mem _ present, inside⟩

/-- An expression in which all names have characters has no empty token. -/
theorem Named.token_ne_empty {expr : Expr} (named : expr.Named) {token : Token}
    (member : token ∈ expr.tokens depth) : token.2 ≠ "" := by
  induction expr generalizing depth with
  | field name =>
    have full : name ≠ "" := named.here
    simp only [tokens_field, List.mem_cons, List.not_mem_nil, or_false] at member
    rcases member with rfl | rfl | rfl | rfl
    · decide
    · simp
    · exact full
    · simp
  | literal value =>
    rw [tokens_literal, List.mem_singleton] at member
    subst member
    exact value.display_ne_empty
  | combined operator lhs rhs left right =>
    rw [tokens_combined, List.mem_append, List.mem_cons] at member
    rcases member with inside | rfl | inside
    · rcases mem_operandTokens inside with full | ⟨depth, inside⟩
      · exact full
      · exact left (named.child (by simp [children])) inside
    · cases operator <;> decide
    · rcases mem_operandTokens inside with full | ⟨depth, inside⟩
      · exact full
      · exact right (named.child (by simp [children])) inside
  | negated operand ih =>
    rw [tokens_negated, List.mem_cons] at member
    rcases member with rfl | inside
    · decide
    · rcases mem_operandTokens inside with full | ⟨depth, inside⟩
      · exact full
      · exact ih (named.child (by simp [children])) inside
  | call name arguments ih =>
    have full : name ≠ "" := named.here
    simp only [tokens_call, List.mem_cons, List.mem_append, List.not_mem_nil, or_false] at member
    rcases member with rfl | rfl | inside | rfl
    · exact full
    · simp
    · rcases mem_argumentTokens inside with full | ⟨argument, present, inside⟩
      · exact full
      · exact ih argument present (named.child present) inside
    · simp

/-- The styled segments of a rendering are the tokens of the expression. -/
theorem Named.segments_styled {expr : Expr} (named : expr.Named) (width : Nat) :
    (expr.segments width).filterMap Layout.Segment.styled? = expr.tokens 0 := by
  unfold segments
  rw [Layout.Doc.segments_styled]
  apply List.filter_eq_self.mpr
  intro token member
  simpa using named.token_ne_empty member

end Expr

end Hybrid
