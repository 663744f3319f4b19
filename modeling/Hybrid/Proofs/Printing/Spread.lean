import Hybrid.Proofs.Printing.Lookahead

/-! # The groups of a layout

The pieces of a layout do not show the groups that they were laid out for. `Doc.spread` lays out a
document without taking it apart: the result has the shape of the document, its groups are those of the
document with the mode that was decided for each, and its pieces are those of the layout
(`pieces_spread`). So a group of the document can be followed from one width to another, and found
again in the output.
-/

namespace Hybrid.Layout

variable {σ : Type}

/-- The column behind a piece that begins at `column`. -/
def Piece.columnBehind (column : Nat) : Piece σ → Nat
  | .text _ content | .flatEnd content => column + Text.columns content
  | .newline indent => indent

/-- The column behind pieces that begin at `column`. -/
def columnBehind (column : Nat) (pieces : List (Piece σ)) : Nat :=
  pieces.foldl Piece.columnBehind column

@[simp] theorem columnBehind_nil {column : Nat} : columnBehind column ([] : List (Piece σ)) = column :=
  rfl

@[simp] theorem columnBehind_cons {column : Nat} {piece : Piece σ} {pieces : List (Piece σ)} :
    columnBehind column (piece :: pieces) = columnBehind (piece.columnBehind column) pieces := rfl

@[simp] theorem columnBehind_append {column : Nat} {first second : List (Piece σ)} :
    columnBehind column (first ++ second) = columnBehind (columnBehind column first) second :=
  List.foldl_append

/-- Pieces without a newline take their columns one after the other. -/
theorem columnBehind_of_flat {pieces : List (Piece σ)} (flat : ∀ next, .newline next ∉ pieces)
    (column : Nat) : columnBehind column pieces = column + (pieces.map Piece.columns).sum := by
  induction pieces generalizing column with
  | nil => rfl
  | cons piece rest ih =>
    have others (next : Nat) : .newline next ∉ rest := fun member =>
      flat next (List.mem_cons_of_mem _ member)
    rw [columnBehind_cons, ih others, List.map_cons, List.sum_cons, ← Nat.add_assoc]
    cases piece with
    | text style content => rfl
    | flatEnd content => rfl
    | newline indent => exact absurd (List.mem_cons_self ..) (flat indent)

/-- A document that is laid out. -/
inductive Spread (σ : Type) where
  | leaf (piece : Piece σ)
  | append (first second : Spread σ)
  /-- The group of a document, in the mode that was decided for it. -/
  | group (content : Doc σ) (mode : Mode) (inside : Spread σ)

/-- A group where it is laid out, with the pieces before it and its own. -/
structure Box (σ : Type) where
  content : Doc σ
  mode : Mode
  before : List (Piece σ)
  own : List (Piece σ)

/-- No line ends in the box. -/
def Box.IsFlat (box : Box σ) : Prop :=
  ∀ next, .newline next ∉ box.own

/-- A box with further pieces before it. -/
def Box.behind (pieces : List (Piece σ)) (box : Box σ) : Box σ :=
  { box with before := pieces ++ box.before }

namespace Spread

/-- The pieces of a document that is laid out. -/
def pieces : Spread σ → List (Piece σ)
  | .leaf piece => [piece]
  | .append first second => first.pieces ++ second.pieces
  | .group _ _ inside => inside.pieces

/-- The groups of a document that is laid out, each before those inside it. -/
def boxes : Spread σ → List (Box σ)
  | .leaf _ => []
  | .append first second => first.boxes ++ second.boxes.map (Box.behind first.pieces)
  | .group content mode inside => ⟨content, mode, [], inside.pieces⟩ :: inside.boxes

variable {spread : Spread σ} {box : Box σ}

/-- The pieces of a box are a run of those of the whole. -/
theorem pieces_of_mem_boxes (member : box ∈ spread.boxes) :
    ∃ behind, spread.pieces = box.before ++ (box.own ++ behind) := by
  induction spread generalizing box with
  | leaf piece => cases member
  | append first second inFirst inSecond =>
    rcases List.mem_append.mp member with inside | shifted
    · obtain ⟨behind, split⟩ := inFirst inside
      exact ⟨behind ++ second.pieces, by simp [pieces, split]⟩
    · obtain ⟨other, inside, rfl⟩ := List.mem_map.mp shifted
      obtain ⟨behind, split⟩ := inSecond inside
      exact ⟨behind, by simp [pieces, split, Box.behind]⟩
  | group content mode inside ih =>
    rcases List.mem_cons.mp member with rfl | inner
    · exact ⟨[], by simp [pieces]⟩
    · exact ih inner

end Spread

namespace Doc

/-- Lays out a document from `column` on, with a stack below it. -/
def spreadAt (width column indent : Nat) (mode : Mode) (stack : List (Item σ)) : Doc σ → Spread σ
  | .text style content => .leaf (.text style content)
  | .line =>
    match mode with
    | .flat => .leaf (.flatEnd " ")
    | .broken => .leaf (.newline (nextIndent indent stack))
  | .softLine =>
    match mode with
    | .flat => .leaf (.flatEnd "")
    | .broken => .leaf (.newline (nextIndent indent stack))
  | .append first second =>
    let before := first.spreadAt width column indent mode (⟨indent, mode, second⟩ :: stack)
    .append before
      (second.spreadAt width (columnBehind column before.pieces) indent mode stack)
  | .nest more doc => doc.spreadAt width column (indent + more) mode stack
  | .group doc =>
    let decided := groupMode width column indent mode doc stack
    .group doc decided (doc.spreadAt width column indent decided stack)

/-- Lays out a document to a width. -/
def spread (width : Nat) (doc : Doc σ) : Spread σ :=
  doc.spreadAt width 0 0 .broken []

/-- The contents of the groups of a document, each before those inside it. -/
def groupContents : Doc σ → List (Doc σ)
  | .text _ _ | .line | .softLine => []
  | .append first second => first.groupContents ++ second.groupContents
  | .nest _ doc => doc.groupContents
  | .group doc => doc :: doc.groupContents

@[simp] theorem groupContents_append {first second : Doc σ} :
    (first ++ second).groupContents = first.groupContents ++ second.groupContents := rfl

end Doc

section SpreadAt

variable {width column indent : Nat} {mode : Mode} {stack : List (Item σ)} {doc : Doc σ}

/-- The layout of a document is what stands in its spread, and then that of the stack below it. -/
theorem layout_eq_spreadAt :
    layout width column (⟨indent, mode, doc⟩ :: stack) =
      (doc.spreadAt width column indent mode stack).pieces ++
        layout width (columnBehind column (doc.spreadAt width column indent mode stack).pieces)
          stack := by
  induction doc generalizing column indent mode stack with
  | text style content =>
    rw [layout]
    rfl
  | line =>
    cases mode <;> rw [layout] <;> rfl
  | softLine =>
    cases mode <;> rw [layout] <;> rfl
  | append first second before after =>
    rw [layout, before, after]
    simp [Doc.spreadAt, Spread.pieces]
  | nest more doc ih =>
    rw [layout, ih]
    rfl
  | group doc ih =>
    rw [layout, ih]
    rfl

theorem Doc.pieces_spread (width : Nat) (doc : Doc σ) :
    (doc.spread width).pieces = doc.pieces width := by
  have written : layout width 0 [⟨0, .broken, doc⟩] = (doc.spread width).pieces ++
      layout width (columnBehind 0 (doc.spread width).pieces) [] := layout_eq_spreadAt
  rw [Doc.pieces, written, layout, List.append_nil]

/-- The groups of a layout are those of the document. -/
theorem map_content_boxes :
    (doc.spreadAt width column indent mode stack).boxes.map Box.content = doc.groupContents := by
  induction doc generalizing column indent mode stack with
  | text style content => rfl
  | line => cases mode <;> rfl
  | softLine => cases mode <;> rfl
  | append first second before after =>
    have shifted (pieces : List (Piece σ)) :
        Box.content ∘ Box.behind pieces = Box.content := rfl
    simp only [Doc.spreadAt, Spread.boxes, List.map_append, List.map_map, shifted, before, after,
      Doc.groupContents]
  | nest more doc ih => exact ih
  | group doc ih =>
    rw [Doc.spreadAt, Spread.boxes, List.map_cons, ih]
    rfl

theorem content_mem_groupContents {box : Box σ}
    (member : box ∈ (doc.spreadAt width column indent mode stack).boxes) :
    box.content ∈ doc.groupContents :=
  map_content_boxes ▸ List.mem_map_of_mem member

/-! ## Modes and pieces -/

/-- What is laid out flat has no newline, and all its groups are flat. -/
theorem spreadAt_flat :
    (∀ next, .newline next ∉ (doc.spreadAt width column indent .flat stack).pieces) ∧
      ∀ box ∈ (doc.spreadAt width column indent .flat stack).boxes, box.mode = .flat := by
  induction doc generalizing column indent stack with
  | text style content => simp [Doc.spreadAt, Spread.pieces, Spread.boxes]
  | line => simp [Doc.spreadAt, Spread.pieces, Spread.boxes]
  | softLine => simp [Doc.spreadAt, Spread.pieces, Spread.boxes]
  | append first second before after =>
    refine ⟨fun next => ?_, ?_⟩
    · simp only [Doc.spreadAt, Spread.pieces, List.mem_append, not_or]
      exact ⟨before.1 next, after.1 next⟩
    · simp only [Doc.spreadAt, Spread.boxes, List.forall_mem_append, List.forall_mem_map]
      exact ⟨before.2, after.2⟩
  | nest more doc ih => exact ih
  | group doc ih =>
    refine ⟨ih.1, ?_⟩
    simp only [Doc.spreadAt, Spread.boxes, groupMode, List.forall_mem_cons]
    exact ⟨trivial, ih.2⟩

/-- The piece is what a line end becomes in a mode. -/
def Mode.Shows : Mode → Piece σ → Prop
  | .flat, piece => ∃ content, piece = .flatEnd content
  | .broken, piece => ∃ next, piece = .newline next

/-- A line end outside of the groups of a document shows the mode that it is laid out in. -/
theorem exists_end_of_breaks (breaks : doc.breaks = true) (width column indent : Nat) (mode : Mode)
    (stack : List (Item σ)) :
    ∃ piece ∈ (doc.spreadAt width column indent mode stack).pieces, mode.Shows piece := by
  induction doc generalizing column indent stack with
  | text style content => cases breaks
  | line => cases mode <;> exact ⟨_, List.mem_singleton_self _, _, rfl⟩
  | softLine => cases mode <;> exact ⟨_, List.mem_singleton_self _, _, rfl⟩
  | append first second before after =>
    rcases Bool.or_eq_true_iff.mp breaks with inFirst | inSecond
    · obtain ⟨piece, member, shown⟩ := before inFirst _ _ _
      exact ⟨piece, List.mem_append_left _ member, shown⟩
    · obtain ⟨piece, member, shown⟩ := after inSecond _ _ _
      exact ⟨piece, List.mem_append_right _ member, shown⟩
  | nest more doc ih => exact ih breaks _ _ _
  | group doc ih => cases breaks

/-- The pieces of a box are those of its group, laid out in its mode. -/
theorem own_of_mem_boxes {box : Box σ}
    (member : box ∈ (doc.spreadAt width column indent mode stack).boxes) :
    ∃ column indent stack,
      box.own = (box.content.spreadAt width column indent box.mode stack).pieces := by
  induction doc generalizing column indent mode stack box with
  | text style content => cases member
  | line => cases mode <;> cases member
  | softLine => cases mode <;> cases member
  | append first second before after =>
    rcases List.mem_append.mp member with inside | shifted
    · exact before inside
    · obtain ⟨other, inside, rfl⟩ := List.mem_map.mp shifted
      have own := after inside
      exact own
  | nest more doc ih => exact ih member
  | group doc ih =>
    rcases List.mem_cons.mp member with rfl | inner
    · exact ⟨column, indent, stack, rfl⟩
    · exact ih inner

/-- The output of a group with a line end of its own shows its mode. -/
theorem isFlat_iff {box : Box σ} (member : box ∈ (doc.spreadAt width column indent mode stack).boxes)
    (breaks : box.content.breaks = true) : box.IsFlat ↔ box.mode = .flat := by
  obtain ⟨column, indent, stack, own⟩ := own_of_mem_boxes member
  unfold Box.IsFlat
  rw [own]
  cases box.mode with
  | flat => exact iff_of_true spreadAt_flat.1 rfl
  | broken =>
    obtain ⟨_, newline, next, rfl⟩ := exists_end_of_breaks breaks width column indent .broken stack
    exact iff_of_false (fun flat => flat next newline) (by simp)

/-- A flat group with a line end of its own shows it. -/
theorem exists_flatEnd {box : Box σ}
    (member : box ∈ (doc.spreadAt width column indent mode stack).boxes)
    (breaks : box.content.breaks = true) (flat : box.IsFlat) :
    ∃ content, .flatEnd content ∈ box.own := by
  have decided := (isFlat_iff member breaks).mp flat
  obtain ⟨column, indent, stack, own⟩ := own_of_mem_boxes member
  rw [decided] at own
  obtain ⟨_, shown, content, rfl⟩ := exists_end_of_breaks breaks width column indent .flat stack
  exact ⟨content, own ▸ shown⟩

end SpreadAt

end Hybrid.Layout
