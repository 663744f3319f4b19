import Hybrid.Text.Columns

/-! # Documents and their layout

A document is a text with places where a line may end. Groups decide: a group is laid out flat,
each of its line ends a space or nothing, if it and what follows it up to the next possible line
end fit into the width; else its own line ends become newlines and the groups inside it decide for
themselves.

The layout keeps a stack of items, each a document with its indentation and mode. A newline is
indented as the next item on the stack, not as the line end itself, so a line that ends right
before a closing bracket is not indented first.
-/

namespace Hybrid.Layout

variable {σ : Type}

/-- A document with texts styled by `σ`. -/
inductive Doc (σ : Type) where
  | text (style : Option σ) (content : String)
  /-- A newline, or a space where the document is flat. -/
  | line
  /-- A newline, or nothing where the document is flat. -/
  | softLine
  | append (first second : Doc σ)
  | nest (indent : Nat) (doc : Doc σ)
  | group (doc : Doc σ)

instance : Append (Doc σ) := ⟨.append⟩

/-- Whether line ends become newlines. -/
inductive Mode where
  | flat
  | broken
  deriving DecidableEq

/-- A document on the stack. -/
structure Item (σ : Type) where
  indent : Nat
  mode : Mode
  doc : Doc σ

/-- A piece of output. -/
inductive Piece (σ : Type) where
  | text (style : Option σ) (content : String)
  /-- A line end that was laid out flat, as a space or as nothing. -/
  | flatEnd (content : String)
  /-- A newline, with the indentation of the new line. -/
  | newline (indent : Nat)

/-- The number of constructors of a document. -/
def Doc.size : Doc σ → Nat
  | .text _ _ | .line | .softLine => 1
  | .append first second => 1 + first.size + second.size
  | .nest _ doc => 1 + doc.size
  | .group doc => 1 + doc.size

/-- The size of the documents of a stack. -/
def stackSize : List (Item σ) → Nat
  | [] => 0
  | item :: stack => item.doc.size + stackSize stack

theorem Doc.size_pos (doc : Doc σ) : 0 < doc.size := by
  cases doc <;> simp only [Doc.size] <;> omega

@[simp] theorem stackSize_nil : stackSize ([] : List (Item σ)) = 0 := rfl

@[simp] theorem stackSize_cons (item : Item σ) (stack : List (Item σ)) :
    stackSize (item :: stack) = item.doc.size + stackSize stack := rfl

/-- Whether the stack `now` and then, in broken mode, the stack `rest` stay within `width` from
`column` on, as far as the first newline. -/
def fits (width column : Nat) : (now rest : List (Item σ)) → Bool
  | [], [] => true
  | [], item :: rest => fits width column [{ item with mode := .broken }] rest
  | ⟨indent, mode, doc⟩ :: now, rest =>
    match doc with
    | .text _ content =>
      if width < column + Text.columns content then false
      else fits width (column + Text.columns content) now rest
    | .line =>
      match mode with
      | .flat => if width < column + 1 then false else fits width (column + 1) now rest
      | .broken => true
    | .softLine =>
      match mode with
      | .flat => fits width column now rest
      | .broken => true
    | .append first second =>
      fits width column (⟨indent, mode, first⟩ :: ⟨indent, mode, second⟩ :: now) rest
    | .nest _ doc => fits width column (⟨indent, mode, doc⟩ :: now) rest
    | .group doc => fits width column (⟨indent, mode, doc⟩ :: now) rest
termination_by now rest => (stackSize now + stackSize rest, rest.length)
decreasing_by
  all_goals simp_wf
  · apply Prod.Lex.right'
    · simp
    · simp
  all_goals (apply Prod.Lex.left; simp only [Doc.size]; omega)

/-- The indentation after a newline: that of the next item, or its own if there is none. -/
def nextIndent (own : Nat) : List (Item σ) → Nat
  | [] => own
  | item :: _ => item.indent

/-- The mode in which a group met at `column` is laid out. -/
def groupMode (width column indent : Nat) (mode : Mode) (doc : Doc σ) (stack : List (Item σ)) :
    Mode :=
  match mode with
  | .flat => .flat
  | .broken => if fits width column [⟨indent, .flat, doc⟩] stack then .flat else .broken

/-- Lays out a stack from `column` on. -/
def layout (width column : Nat) : List (Item σ) → List (Piece σ)
  | [] => []
  | ⟨indent, mode, doc⟩ :: stack =>
    match doc with
    | .text style content =>
      .text style content :: layout width (column + Text.columns content) stack
    | .line =>
      match mode with
      | .flat => .flatEnd " " :: layout width (column + 1) stack
      | .broken =>
        .newline (nextIndent indent stack) :: layout width (nextIndent indent stack) stack
    | .softLine =>
      match mode with
      | .flat => .flatEnd "" :: layout width column stack
      | .broken =>
        .newline (nextIndent indent stack) :: layout width (nextIndent indent stack) stack
    | .append first second =>
      layout width column (⟨indent, mode, first⟩ :: ⟨indent, mode, second⟩ :: stack)
    | .nest more doc => layout width column (⟨indent + more, mode, doc⟩ :: stack)
    | .group doc =>
      layout width column (⟨indent, groupMode width column indent mode doc stack, doc⟩ :: stack)
termination_by stack => stackSize stack
decreasing_by all_goals simp only [stackSize_cons, Doc.size]; omega

/-- The pieces of a document laid out to a width. -/
def Doc.pieces (width : Nat) (doc : Doc σ) : List (Piece σ) :=
  layout width 0 [⟨0, .broken, doc⟩]

/-- The text of a piece. -/
def Piece.content : Piece σ → String
  | .text _ content => content
  | .flatEnd content => content
  | .newline indent => "\n" ++ String.ofList (List.replicate indent ' ')

/-- The style of a piece; line ends have none. -/
def Piece.style? : Piece σ → Option σ
  | .text style _ => style
  | .flatEnd _ | .newline _ => none

/-- The plain text of a document laid out to a width. -/
def Doc.render (width : Nat) (doc : Doc σ) : String :=
  String.join ((doc.pieces width).map Piece.content)

/-- A run of text in one style. -/
structure Segment (σ : Type) where
  style? : Option σ
  content : String

/-- Puts a piece before segments: nothing for an empty piece, and one segment for neighbours
without a style. -/
def Piece.prepend (piece : Piece σ) (segments : List (Segment σ)) : List (Segment σ) :=
  if piece.content.isEmpty then segments
  else
    match piece.style?, segments with
    | none, ⟨none, content⟩ :: rest => ⟨none, piece.content ++ content⟩ :: rest
    | style?, segments => ⟨style?, piece.content⟩ :: segments

/-- The styled segments of a document laid out to a width. -/
def Doc.segments (width : Nat) (doc : Doc σ) : List (Segment σ) :=
  (doc.pieces width).foldr Piece.prepend []

end Hybrid.Layout
