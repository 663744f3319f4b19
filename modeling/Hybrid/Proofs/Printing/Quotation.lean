import Hybrid.Proofs.Printing.Literal
import Hybrid.Proofs.Printing.Spacing

/-! # Literals in a rendering

A quoted literal ends at the first quote that no second quote follows, so it is read back wherever no
quote stands right behind it. The flat layout of a document decides whether one may: another layout
has a newline in the place of a space or of nothing. In a document of an expression a literal is
followed by a line end, a comma or a parenthesis, or by nothing.
-/

namespace Hybrid

namespace Text.Quoted

/-- A quote behind a literal does not end it: it is read as one that is written twice. -/
theorem read_encode_quote (text rest : List Char) :
    read (encode text ++ '\'' :: '\'' :: rest) =
      (read rest).map fun (inside, rest) => (text ++ '\'' :: inside, rest) := by
  induction text with
  | nil => rfl
  | cons c text ih =>
    by_cases quote : c = '\''
    · subst quote
      simp [encode, read, ih, Function.comp_def]
    · simp [encode, read, quote, ih, Function.comp_def]

/-- A literal is read as far as its end exactly if no quote follows it. -/
theorem read_encode_iff {text rest : List Char} :
    read (encode text ++ '\'' :: rest) = some (text, rest) ↔ rest.head? ≠ some '\'' := by
  refine ⟨fun whole follows => ?_, read_encode text⟩
  obtain ⟨more, rfl⟩ : ∃ more, rest = '\'' :: more := List.head?_eq_some_iff.mp follows
  rw [read_encode_quote] at whole
  obtain ⟨⟨inside, behind⟩, -, same⟩ := Option.map_eq_some_iff.mp whole
  have longer : text ++ '\'' :: inside = text := congrArg Prod.fst same
  simp at longer

/-- Reads the literal that a text begins with: what it stands for, and what follows. -/
def readLiteral? (text : String) : Option (String × String) :=
  match text.toList with
  | '\'' :: inside =>
    (read inside).map fun (content, rest) => (String.ofList content, String.ofList rest)
  | _ => none

theorem readLiteral?_literal {content rest : String} :
    readLiteral? (literal content ++ rest) = some (content, rest) ↔
      rest.toList.head? ≠ some '\'' := by
  have letters : (literal content ++ rest).toList =
      '\'' :: (encode content.toList ++ '\'' :: rest.toList) := by
    simp [literal]
  rw [← @read_encode_iff content.toList, readLiteral?, letters]
  simp only [Option.map_eq_some_iff, Prod.exists, Prod.mk.injEq]
  constructor
  · rintro ⟨inside, behind, whole, rfl, rfl⟩
    simpa using whole
  · exact fun whole => ⟨_, _, whole, String.ofList_toList, String.ofList_toList⟩

end Text.Quoted

/-! ## What the layouts of a document have in common -/

namespace Layout

variable {σ : Type}

/-- A piece of the flat layout, and what stands in its place in some layout. -/
inductive Piece.Becomes : Piece σ → Piece σ → Prop
  | same (piece : Piece σ) : Becomes piece piece
  | newline (content : String) (indent : Nat) : Becomes (.flatEnd content) (.newline indent)

/-- The pieces of a document that is laid out flat, by recursion on its structure. -/
def Doc.leaves : Doc σ → List (Piece σ)
  | .text style content => [.text style content]
  | .line => [.flatEnd " "]
  | .softLine => [.flatEnd ""]
  | .append first second => first.leaves ++ second.leaves
  | .nest _ doc => doc.leaves
  | .group doc => doc.leaves

@[simp] theorem Doc.leaves_append (first second : Doc σ) :
    (first ++ second).leaves = first.leaves ++ second.leaves := rfl

/-- Every layout of a stack has the pieces of the flat one, but for newlines. -/
theorem layout_becomes (width column : Nat) (stack : List (Item σ)) :
    List.Forall₂ Piece.Becomes (stack.flatMap (·.doc.leaves)) (layout width column stack) := by
  fun_induction layout width column stack with
  | case1 => exact .nil
  | case2 column indent mode stack style content ih => exact .cons (.same _) ih
  | case3 column indent stack ih => exact .cons (.same _) ih
  | case4 column indent stack ih => exact .cons (.newline _ _) ih
  | case5 column indent stack ih => exact .cons (.same _) ih
  | case6 column indent stack ih => exact .cons (.newline _ _) ih
  | case7 column indent mode stack first second ih => simpa [Doc.leaves] using ih
  | case8 column indent mode stack more doc ih => exact ih
  | case9 column indent mode stack doc ih => exact ih

/-- The text of pieces begins with the character. -/
def Begins (c : Char) (pieces : List (Piece σ)) : Prop :=
  (String.join (pieces.map Piece.content)).toList.head? = some c

section Begins

variable {c : Char} {piece : Piece σ} {pieces flat laid : List (Piece σ)}

theorem begins_cons :
    Begins c (piece :: pieces) ↔
      piece.content.toList.head? = some c ∨ piece.content = "" ∧ Begins c pieces := by
  unfold Begins
  rw [List.map_cons, String.join_cons, String.toList_append, List.head?_append]
  cases written : piece.content.toList with
  | nil => simp_all
  | cons first rest =>
    have full : piece.content ≠ "" := by
      rintro empty
      simp [empty] at written
    simp [full]

theorem not_begins_cons (first : Char) (head : piece.content.toList.head? = some first)
    (other : first ≠ c) : ¬ Begins c (piece :: pieces) := by
  rw [begins_cons, head]
  rintro (same | ⟨empty, -⟩)
  · exact other (Option.some.inj same)
  · simp [empty] at head

theorem begins_append (begins : Begins c (flat ++ pieces)) : Begins c flat ∨ Begins c pieces := by
  induction flat with
  | nil => exact .inr begins
  | cons piece rest ih =>
    rw [List.cons_append, begins_cons] at begins
    rw [begins_cons]
    rcases begins with here | ⟨empty, behind⟩
    · exact .inl (.inl here)
    · exact (ih behind).imp_left fun there => .inr ⟨empty, there⟩

/-- What does not begin the flat layout begins no other, newlines aside. -/
theorem begins_of_becomes (becomes : List.Forall₂ Piece.Becomes flat laid) (inline : c ≠ '\n')
    (begins : Begins c laid) : Begins c flat := by
  induction becomes with
  | nil => exact begins
  | cons first rest ih =>
    rw [begins_cons] at begins ⊢
    cases first with
    | same piece => exact begins.imp_right fun ⟨empty, behind⟩ => ⟨empty, ih behind⟩
    | newline content indent => simp [Piece.content, Ne.symm inline] at begins

end Begins

/-- No piece in this style has the character right behind it. -/
def Guards (style : σ) (c : Char) : List (Piece σ) → Prop
  | [] => True
  | piece :: rest => (piece.style? = some style → ¬ Begins c rest) ∧ Guards style c rest

section Guards

variable {style : σ} {c : Char} {first second flat laid pieces : List (Piece σ)}

theorem Guards.append (before : Guards style c first) (begins : ¬ Begins c second)
    (after : Guards style c second) : Guards style c (first ++ second) := by
  induction first with
  | nil => exact after
  | cons piece rest ih =>
    exact ⟨fun styled follows => (begins_append follows).elim (before.1 styled) begins, ih before.2⟩

theorem Guards.becomes (guards : Guards style c flat) (inline : c ≠ '\n')
    (becomes : List.Forall₂ Piece.Becomes flat laid) : Guards style c laid := by
  induction becomes with
  | nil => trivial
  | cons first rest ih =>
    refine ⟨fun styled begins => ?_, ih guards.2⟩
    cases first with
    | same piece => exact guards.1 styled (begins_of_becomes rest inline begins)
    | newline content indent => cases styled

/-- What pieces keep apart is apart in the segments that they are joined to. -/
theorem Guards.segments (guards : Guards style c pieces) {content : String}
    {after : List (Segment σ)}
    (suffix : ⟨some style, content⟩ :: after <:+ pieces.foldr Piece.prepend []) :
    (String.join (after.map Segment.content)).toList.head? ≠ some c := by
  induction pieces with
  | nil => cases List.suffix_nil.mp suffix
  | cons piece rest ih =>
    have later := ih guards.2
    have joined := Piece.join_segments rest
    rw [List.foldr_cons] at suffix
    generalize rest.foldr Piece.prepend [] = segments at suffix later joined
    unfold Piece.prepend at suffix
    split at suffix
    · exact later suffix
    · split at suffix
      · rcases List.suffix_cons_iff.mp suffix with here | behind
        · cases here
        · exact later (behind.trans (List.suffix_cons ..))
      · rcases List.suffix_cons_iff.mp suffix with here | behind
        · obtain ⟨segment, rfl⟩ := List.cons.inj here
          rw [joined]
          exact guards.1 (congrArg Segment.style? segment).symm
        · exact later behind

end Guards

end Layout

namespace Expr

open Layout (Doc Piece Segment Guards Begins begins_cons not_begins_cons)

mutual

/-- The literals of an expression, left to right. -/
def literals : Expr → List Value
  | .field _ => []
  | .literal value => [value]
  | .combined _ lhs rhs => literals lhs ++ literals rhs
  | .negated operand => literals operand
  | .call _ arguments => literalsList arguments

/-- The literals of several expressions, one after the other. -/
def literalsList : List Expr → List Value
  | [] => []
  | expr :: rest => literals expr ++ literalsList rest

end

/-- The text of a token that is a literal. -/
def literalText? : Token → Option String
  | (.literal, text) => some text
  | _ => none

theorem literals_operandTokens {operand : Expr} {wrapped : Bool} {depth : UInt8}
    (each : ∀ depth, (operand.tokens depth).filterMap literalText? =
      operand.literals.map Value.display) :
    (operandTokens wrapped depth operand).filterMap literalText? =
      operand.literals.map Value.display := by
  cases wrapped <;> simp [operandTokens, each, literalText?, List.filterMap_cons]

theorem literals_argumentTokens {arguments : List Expr} {depth : UInt8}
    (each : ∀ argument ∈ arguments, ∀ depth, (argument.tokens depth).filterMap literalText? =
      argument.literals.map Value.display) :
    (argumentTokens arguments depth).filterMap literalText? =
      (literalsList arguments).map Value.display := by
  induction arguments with
  | nil => simp [literalsList]
  | cons argument rest ih =>
    obtain ⟨here, others⟩ := List.forall_mem_cons.mp each
    cases rest with
    | nil => simp [literalsList, here]
    | cons next rest =>
      simp only [argumentTokens_cons, List.filterMap_append, here, List.filterMap_cons, literalText?,
        ih others, literalsList, List.map_append]

/-- The tokens that are literals stand for the literals of the expression, in order. -/
theorem literals_tokens (expr : Expr) (depth : UInt8) :
    (expr.tokens depth).filterMap literalText? = expr.literals.map Value.display := by
  induction expr generalizing depth with
  | field name => simp [tokens_field, literals, literalText?, List.filterMap_cons]
  | literal value => simp [tokens_literal, literals, literalText?]
  | combined operator lhs rhs left right =>
    simp [tokens_combined, literals, literalText?, List.filterMap_cons, literals_operandTokens left,
      literals_operandTokens right]
  | negated operand ih =>
    simp [tokens_negated, literals, literalText?, List.filterMap_cons, literals_operandTokens ih]
  | call name arguments each =>
    simp [tokens_call, literals, literalText?, List.filterMap_cons, literals_argumentTokens each]

/-- No literal in the flat layout has a quote right behind it. -/
private abbrev Closed (doc : Doc TokenStyle) : Prop :=
  Guards .literal '\'' doc.leaves

private theorem closed_operandDoc {wrapped : Bool} {depth : UInt8} {doc : UInt8 → Doc TokenStyle}
    (closed : ∀ depth, Closed (doc depth)) : Closed (operandDoc wrapped depth doc) := by
  cases wrapped with
  | false => exact closed depth
  | true =>
    have written : (operandDoc true depth doc).leaves =
        .text (some (.parenthesis depth)) "(" ::
          ((doc (depth + 1)).leaves ++ [.text (some (.parenthesis depth)) ")"]) := rfl
    have inside : Guards .literal '\''
        ((doc (depth + 1)).leaves ++ [.text (some (.parenthesis depth)) ")"]) :=
      (closed _).append (not_begins_cons ')' (by simp [Piece.content]) (by decide))
        (by simp [Guards, Piece.style?])
    rw [Closed, written]
    simpa [Guards, Piece.style?] using inside

private theorem closed_combinedDoc {operator : Operator} {lhs rhs : Doc TokenStyle}
    (left : Closed lhs) (right : Closed rhs) : Closed (combinedDoc operator lhs rhs) := by
  have written : (combinedDoc operator lhs rhs).leaves =
      lhs.leaves ++ .flatEnd " " :: .text (some .operator) operator.symbol :: .text none " " ::
        rhs.leaves := by
    simp [combinedDoc, token, Doc.leaves]
  rw [Closed, written]
  refine left.append (not_begins_cons ' ' (by simp [Piece.content]) (by decide)) ?_
  simpa [Guards, Piece.style?] using right

private theorem closed_argumentsDoc? {arguments : List Expr}
    (each : ∀ argument ∈ arguments, ∀ depth, Closed (argument.doc depth)) (depth : UInt8) :
    ∀ doc ∈ argumentsDoc? arguments depth, Closed doc := by
  induction arguments with
  | nil => simp [argumentsDoc?]
  | cons argument rest ih =>
    obtain ⟨here, others⟩ := List.forall_mem_cons.mp each
    rw [argumentsDoc?]
    cases following : argumentsDoc? rest depth with
    | none => simpa using here depth
    | some doc =>
      rintro _ ⟨⟩
      have written : (argument.doc depth ++ (token .punctuation "," ++ .line) ++ doc).leaves =
          (argument.doc depth).leaves ++ .text (some .punctuation) "," :: .flatEnd " " ::
            doc.leaves := by
        simp [token, Doc.leaves]
      rw [Closed, written]
      refine (here depth).append (not_begins_cons ',' (by simp [Piece.content]) (by decide)) ?_
      simpa [Guards, Piece.style?] using ih others doc following

private theorem closed_callDoc {name : String} {depth : UInt8} {arguments? : Option (Doc TokenStyle)}
    (each : ∀ arguments ∈ arguments?, Closed arguments) : Closed (callDoc name depth arguments?) := by
  cases arguments? with
  | none =>
    have written : (callDoc name depth none).leaves =
        [.text (some .function) name, .text (some (.parenthesis depth)) "(", .flatEnd "",
          .flatEnd "", .text (some (.parenthesis depth)) ")"] := by
      simp [callDoc, openParenthesis, closeParenthesis, token, Doc.leaves]
    rw [Closed, written]
    simp [Guards, Piece.style?]
  | some arguments =>
    have written : (callDoc name depth (some arguments)).leaves =
        .text (some .function) name :: .text (some (.parenthesis depth)) "(" :: .flatEnd "" ::
          (arguments.leaves ++ [.flatEnd "", .text (some (.parenthesis depth)) ")"]) := by
      simp [callDoc, openParenthesis, closeParenthesis, token, Doc.leaves]
    have bracket : ¬ Begins '\''
        [.flatEnd "", Piece.text (some (TokenStyle.parenthesis depth)) ")"] := by
      rw [begins_cons]
      rintro (first | ⟨-, behind⟩)
      · cases first
      · exact not_begins_cons ')' (by simp [Piece.content]) (by decide) behind
    have inside : Guards .literal '\''
        (arguments.leaves ++ [.flatEnd "", .text (some (.parenthesis depth)) ")"]) :=
      (each arguments rfl).append bracket (by simp [Guards, Piece.style?])
    rw [Closed, written]
    simpa [Guards, Piece.style?] using inside

/-- A line end, a comma or a parenthesis follows a literal, or nothing does. -/
private theorem closed_doc (expr : Expr) (depth : UInt8) : Closed (expr.doc depth) := by
  induction expr generalizing depth with
  | field name =>
    rw [doc, Closed]
    simp [token, openParenthesis, closeParenthesis, Doc.leaves, Guards, Piece.style?]
  | literal value =>
    rw [doc, Closed]
    simp [token, Doc.leaves, Guards, Begins]
  | combined operator lhs rhs left right =>
    rw [doc]
    exact closed_combinedDoc (closed_operandDoc left) (closed_operandDoc right)
  | negated operand ih =>
    rw [doc, Closed]
    have inside : Closed (operandDoc (needsParenthesesNegated operand) depth operand.doc) :=
      closed_operandDoc ih
    simpa [token, Doc.leaves, Guards, Piece.style?] using inside
  | call name arguments each =>
    rw [doc]
    exact closed_callDoc (closed_argumentsDoc? each (depth + 1))

/-- The text of a segment that is a literal. -/
def literalSegment? (segment : Segment TokenStyle) : Option String :=
  segment.styled?.bind literalText?

/-- The literal segments of a rendering are the literals of the expression, in order. -/
theorem literals_segments (expr : Expr) (width : Nat) :
    (expr.segments width).filterMap literalSegment? = expr.literals.map Value.display := by
  have written {token : Token} (member : token ∈ expr.tokens 0) {text : String}
      (literal : literalText? token = some text) : text ≠ "" := by
    have listed : text ∈ (expr.tokens 0).filterMap literalText? :=
      List.mem_filterMap.mpr ⟨token, member, literal⟩
    rw [literals_tokens] at listed
    obtain ⟨value, -, rfl⟩ := List.mem_map.mp listed
    exact value.display_ne_empty
  have styled : (expr.segments width).filterMap literalSegment? =
      ((expr.segments width).filterMap Segment.styled?).filterMap literalText? := by
    rw [List.filterMap_filterMap]
    rfl
  rw [styled, segments, Doc.segments_styled, List.filterMap_filter, ← literals_tokens expr 0]
  refine List.filterMap_congr fun token member => ?_
  cases literal : literalText? token with
  | none => simp
  | some text =>
    have same : token.2 = text := by
      obtain ⟨style, content⟩ := token
      cases style <;> simp_all [literalText?]
    have full : token.2 ≠ "" := same ▸ written member literal
    simp [full]

/-- The text of segments, one after the other. -/
def textOf (segments : List (Segment TokenStyle)) : String :=
  String.join (segments.map Segment.content)

theorem literalSegment?_eq_some {segment : Segment TokenStyle} {text : String}
    (literal : literalSegment? segment = some text) : segment = ⟨some .literal, text⟩ := by
  obtain ⟨_ | style, content⟩ := segment
  · cases literal
  · cases style <;> simp_all [literalSegment?, Segment.styled?, literalText?]

/-- A literal of an expression stands in its rendering behind those to its left. -/
theorem exists_segments {expr : Expr} {first last : List Value} {value : Value}
    (listed : expr.literals = first ++ value :: last) (width : Nat) :
    ∃ before after : List (Segment TokenStyle),
      expr.segments width = before ++ ⟨some .literal, value.display⟩ :: after ∧
        before.filterMap literalSegment? = first.map Value.display := by
  have whole := expr.literals_segments width
  rw [listed, List.map_append, List.map_cons, List.filterMap_eq_append_iff] at whole
  obtain ⟨left, right, split, inLeft, inRight⟩ := whole
  obtain ⟨between, segment, after, rfl, none, here, -⟩ := List.filterMap_eq_cons_iff.mp inRight
  obtain rfl := literalSegment?_eq_some here
  have skipped : between.filterMap literalSegment? = [] := List.filterMap_eq_nil_iff.mpr none
  refine ⟨left ++ between, after, by rw [split, List.append_assoc], ?_⟩
  rw [List.filterMap_append, inLeft, skipped, List.append_nil]

/-- No quote stands right behind a literal in a rendering. -/
theorem unquoted_segments {expr : Expr} {width : Nat} {before after : List (Segment TokenStyle)}
    {content : String} (split : expr.segments width = before ++ ⟨some .literal, content⟩ :: after) :
    (textOf after).toList.head? ≠ some '\'' := by
  have laid := Layout.layout_becomes width 0 [⟨0, .broken, expr.doc 0⟩]
  rw [List.flatMap_singleton] at laid
  have guards := (expr.closed_doc 0).becomes (by decide) laid
  exact guards.segments ⟨before, split.symm⟩

/-- A text literal is read exactly if no quote follows it, and in a rendering none does: at every width,
each text of an expression stands behind the literals to its left, and reading there gives that text
and all that follows it. -/
theorem text_literals_read_back :
    (∀ content rest : String,
        Text.Quoted.readLiteral? ((Value.text content).display ++ rest) = some (content, rest) ↔
          rest.toList.head? ≠ some '\'') ∧
      ∀ (expr : Expr) (width : Nat) (first last : List Value) (content : String),
        expr.literals = first ++ .text content :: last →
        ∃ before after : List (Segment TokenStyle),
          expr.segments width =
              before ++ ⟨some .literal, (Value.text content).display⟩ :: after ∧
            before.filterMap literalSegment? = first.map Value.display ∧
            expr.render width = textOf before ++ ((Value.text content).display ++ textOf after) ∧
            (textOf after).toList.head? ≠ some '\'' ∧
            Text.Quoted.readLiteral? ((Value.text content).display ++ textOf after) =
              some (content, textOf after) := by
  refine ⟨fun content rest => Text.Quoted.readLiteral?_literal, ?_⟩
  intro expr width first last content listed
  obtain ⟨before, after, split, place⟩ := exists_segments listed width
  have unquoted := unquoted_segments split
  have rendered : expr.render width =
      textOf before ++ ((Value.text content).display ++ textOf after) := by
    have whole : textOf (expr.segments width) = expr.render width :=
      (expr.doc 0).join_segments width
    rw [← whole, split]
    simp [textOf]
  exact ⟨before, after, split, place, rendered, unquoted,
    Text.Quoted.readLiteral?_literal.mpr unquoted⟩

/-- The text `CONCAT(1, '''it''''s''') || ''`, whose every line end becomes a newline at width zero. -/
def quotation : Expr :=
  .combined .concat (.call "CONCAT" [.literal (.int 1), .literal (.text "'it''s'")])
    (.literal (.text ""))

theorem quotation_reads_back :
    quotation.literals = [.int 1] ++ .text "'it''s'" :: [.text ""] ∧
      ∃ before after : List (Segment TokenStyle),
        quotation.segments 0 = before ++ ⟨some .literal, "'''it''''s'''"⟩ :: after ∧
          Text.Quoted.readLiteral? ("'''it''''s'''" ++ textOf after) =
            some ("'it''s'", textOf after) := by
  have listed : quotation.literals = [.int 1] ++ .text "'it''s'" :: [.text ""] := rfl
  have written : (Value.text "'it''s'").display = "'''it''''s'''" := by decide
  obtain ⟨before, after, split, -, -, -, read⟩ := text_literals_read_back.2 quotation 0 _ _ _ listed
  rw [written] at split read
  exact ⟨listed, before, after, split, read⟩

end Expr

end Hybrid
