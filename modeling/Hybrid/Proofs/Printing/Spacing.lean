import Hybrid.Proofs.Printing.Tokens

/-! # What a width changes

The layout has two choices at each line end, and all that it puts there is spaces and newlines. The
tokens are the same at every width, the texts between them are blank, and the plain text is what the
styled one shows without its styles.
-/

namespace Hybrid.Layout

variable {σ : Type}

/-- A text of spaces and newlines only. -/
def IsBlank (text : String) : Prop :=
  ∀ char ∈ text.toList, char = ' ' ∨ char = '\n'

theorem isBlank_empty : IsBlank "" :=
  fun _ member => nomatch member

theorem isBlank_space : IsBlank " " := by
  intro char member
  exact .inl (by simpa using member)

theorem IsBlank.append {first second : String} (before : IsBlank first) (after : IsBlank second) :
    IsBlank (first ++ second) := by
  intro char member
  rw [String.toList_append, List.mem_append] at member
  exact member.elim (before char) (after char)

theorem isBlank_newline (indent : Nat) : IsBlank (Piece.newline (σ := σ) indent).content := by
  refine IsBlank.append (fun char member => ?_) fun char member => ?_
  · exact .inr (by simpa using member)
  · rw [String.toList_ofList] at member
    exact .inl (List.eq_of_mem_replicate member)

/-- The texts of a document that have no style are blank. -/
def Doc.Spaced : Doc σ → Prop
  | .text none content => IsBlank content
  | .text (some _) _ | .line | .softLine => True
  | .append first second => first.Spaced ∧ second.Spaced
  | .nest _ doc => doc.Spaced
  | .group doc => doc.Spaced

@[simp] theorem Doc.spaced_append (first second : Doc σ) :
    (first ++ second).Spaced ↔ first.Spaced ∧ second.Spaced := Iff.rfl

/-- A piece has a style, or it is blank. -/
def Piece.Spaced (piece : Piece σ) : Prop :=
  piece.style? = none → IsBlank piece.content

/-- A segment has a style, or it is blank. -/
def Segment.Spaced (segment : Segment σ) : Prop :=
  segment.style? = none → IsBlank segment.content

/-- The layout of documents puts nothing but spaces and newlines between their styled texts. -/
theorem layout_spaced (width column : Nat) (stack : List (Item σ))
    (spaced : ∀ item ∈ stack, item.doc.Spaced) :
    ∀ piece ∈ layout width column stack, piece.Spaced := by
  fun_induction layout width column stack with
  | case1 => exact List.forall_mem_nil _
  | case2 column indent mode stack style content ih =>
    obtain ⟨here, rest⟩ := List.forall_mem_cons.mp spaced
    refine List.forall_mem_cons.mpr ⟨fun unstyled => ?_, ih rest⟩
    cases style with
    | none => exact here
    | some style => cases unstyled
  | case3 column indent stack ih =>
    obtain ⟨-, rest⟩ := List.forall_mem_cons.mp spaced
    exact List.forall_mem_cons.mpr ⟨fun _ => isBlank_space, ih rest⟩
  | case4 column indent stack ih =>
    obtain ⟨-, rest⟩ := List.forall_mem_cons.mp spaced
    exact List.forall_mem_cons.mpr ⟨fun _ => isBlank_newline _, ih rest⟩
  | case5 column indent stack ih =>
    obtain ⟨-, rest⟩ := List.forall_mem_cons.mp spaced
    exact List.forall_mem_cons.mpr ⟨fun _ => isBlank_empty, ih rest⟩
  | case6 column indent stack ih =>
    obtain ⟨-, rest⟩ := List.forall_mem_cons.mp spaced
    exact List.forall_mem_cons.mpr ⟨fun _ => isBlank_newline _, ih rest⟩
  | case7 column indent mode stack first second ih =>
    obtain ⟨⟨before, after⟩, rest⟩ := List.forall_mem_cons.mp spaced
    exact ih (List.forall_mem_cons.mpr ⟨before, List.forall_mem_cons.mpr ⟨after, rest⟩⟩)
  | case8 column indent mode stack more doc ih =>
    exact ih (List.forall_mem_cons.mpr (List.forall_mem_cons.mp spaced))
  | case9 column indent mode stack doc ih =>
    exact ih (List.forall_mem_cons.mpr (List.forall_mem_cons.mp spaced))

/-- Blank pieces are joined to one another, never to a styled one. -/
theorem Piece.Spaced.prepend {piece : Piece σ} (here : piece.Spaced) {segments : List (Segment σ)}
    (spaced : ∀ segment ∈ segments, segment.Spaced) :
    ∀ segment ∈ piece.prepend segments, segment.Spaced := by
  unfold Piece.prepend
  split
  · exact spaced
  · split
    · next unstyled =>
      obtain ⟨next, rest⟩ := List.forall_mem_cons.mp spaced
      exact List.forall_mem_cons.mpr ⟨fun _ => (here unstyled).append (next rfl), rest⟩
    · exact List.forall_mem_cons.mpr ⟨here, spaced⟩

/-- The segments of a document between its styled ones are blank. -/
theorem Doc.Spaced.segments {doc : Doc σ} (spaced : doc.Spaced) (width : Nat) :
    ∀ segment ∈ doc.segments width, segment.Spaced := by
  have pieces (list : List (Piece σ)) (each : ∀ piece ∈ list, piece.Spaced) :
      ∀ segment ∈ list.foldr Piece.prepend [], segment.Spaced := by
    induction list with
    | nil => exact List.forall_mem_nil _
    | cons piece rest ih =>
      obtain ⟨here, others⟩ := List.forall_mem_cons.mp each
      exact here.prepend (ih others)
  exact pieces _ (layout_spaced width 0 _ (by simpa using spaced))

/-- Putting a piece before segments puts its text before theirs. -/
theorem Piece.join_prepend (piece : Piece σ) (segments : List (Segment σ)) :
    String.join ((piece.prepend segments).map Segment.content) =
      piece.content ++ String.join (segments.map Segment.content) := by
  unfold Piece.prepend
  split
  · next empty => rw [String.isEmpty_iff.mp empty, String.empty_append]
  · split
    · simp [String.append_assoc]
    · simp

theorem Piece.join_segments (pieces : List (Piece σ)) :
    String.join ((pieces.foldr Piece.prepend []).map Segment.content) =
      String.join (pieces.map Piece.content) := by
  induction pieces with
  | nil => rfl
  | cons piece rest ih => rw [List.foldr_cons, Piece.join_prepend, ih, List.map_cons, String.join_cons]

/-- The text of a document is that of its segments, one after the other. -/
theorem Doc.join_segments (doc : Doc σ) (width : Nat) :
    String.join ((doc.segments width).map Segment.content) = doc.render width :=
  Piece.join_segments _

end Hybrid.Layout

namespace Hybrid.Expr

open Layout (Doc Segment)

theorem spaced_operandDoc {wrapped : Bool} {depth : UInt8} {doc : UInt8 → Doc TokenStyle}
    (spaced : ∀ depth, (doc depth).Spaced) : (operandDoc wrapped depth doc).Spaced := by
  cases wrapped with
  | false => exact spaced depth
  | true => exact ⟨⟨trivial, spaced (depth + 1)⟩, trivial⟩

theorem spaced_argumentsDoc? {arguments : List Expr}
    (each : ∀ argument ∈ arguments, ∀ depth, (argument.doc depth).Spaced) (depth : UInt8) :
    ∀ doc ∈ argumentsDoc? arguments depth, doc.Spaced := by
  induction arguments with
  | nil => simp [argumentsDoc?]
  | cons argument rest ih =>
    obtain ⟨here, others⟩ := List.forall_mem_cons.mp each
    rw [argumentsDoc?]
    cases following : argumentsDoc? rest depth with
    | none => simpa using here depth
    | some doc =>
      rintro _ ⟨⟩
      exact ⟨⟨here depth, trivial, trivial⟩, ih others doc following⟩

/-- The only text of an expression without a style is the space after an operator. -/
theorem doc_spaced (expr : Expr) (depth : UInt8) : (expr.doc depth).Spaced := by
  induction expr generalizing depth with
  | field name =>
    rw [doc]
    exact ⟨⟨⟨trivial, trivial⟩, trivial⟩, trivial⟩
  | literal value =>
    rw [doc]
    trivial
  | combined operator lhs rhs left right =>
    rw [doc]
    exact ⟨⟨⟨⟨spaced_operandDoc left, trivial⟩, trivial⟩, Layout.isBlank_space⟩,
      spaced_operandDoc right⟩
  | negated operand ih =>
    rw [doc]
    exact ⟨trivial, spaced_operandDoc ih⟩
  | call name arguments each =>
    have inside := spaced_argumentsDoc? each (depth + 1)
    rw [doc]
    cases written : argumentsDoc? arguments (depth + 1) with
    | none => exact ⟨⟨⟨⟨trivial, trivial⟩, trivial⟩, trivial⟩, trivial⟩
    | some doc => exact ⟨⟨⟨⟨trivial, trivial⟩, trivial, inside doc written⟩, trivial⟩, trivial⟩

/-- A width changes nothing but blanks: the styled segments are the tokens of the expression at
every width, what stands between them is spaces and newlines, and the plain text is made of the
segments of the styled one. -/
theorem widths_change_blanks (expr : Expr) (width other : Nat) :
    (expr.segments width).filterMap Segment.styled? =
        (expr.segments other).filterMap Segment.styled? ∧
      (expr.segments width).filterMap Segment.styled? =
        (expr.tokens 0).filter (fun token => !token.2.isEmpty) ∧
      (∀ segment ∈ expr.segments width, segment.style? = none → Layout.IsBlank segment.content) ∧
      expr.render width = String.join ((expr.segments width).map Segment.content) := by
  have tokens (width : Nat) :
      (expr.segments width).filterMap Segment.styled? =
        (expr.tokens 0).filter fun token => !token.2.isEmpty :=
    (expr.doc 0).segments_styled width
  refine ⟨(tokens width).trans (tokens other).symm, tokens width, ?_, ?_⟩
  · exact (expr.doc_spaced 0).segments width
  · exact ((expr.doc 0).join_segments width).symm

end Hybrid.Expr
