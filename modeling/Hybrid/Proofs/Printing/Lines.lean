import Hybrid.Proofs.Printing.Groups

/-! # Lines that are too long

When the layout makes a group flat, it looks ahead to the next possible newline and takes what is left
to be broken. What is left may be laid out flat further on, but only where it fits in turn, so the line
ends within the width. Hence a line that is longer than the width has nothing flat on it: it could not
have been broken.
-/

namespace Hybrid

namespace Layout

variable {σ : Type}

/-! ## Lines -/

/-- The columns of pieces as far as the first newline. -/
def restOfLine : List (Piece σ) → Nat
  | [] | .newline _ :: _ => 0
  | .text _ content :: pieces | .flatEnd content :: pieces =>
    Text.columns content + restOfLine pieces

/-- A line of an output, from the newline before it, whose indentation belongs to it, to the next. -/
structure Line (output : List (Piece σ)) where
  ahead : List (Piece σ)
  content : List (Piece σ)
  behind : List (Piece σ)
  split : output = ahead ++ (content ++ behind)
  begins : ahead = [] ∨ ∃ earlier indent, ahead = earlier ++ [.newline indent]
  unbroken : ∀ next, .newline next ∉ content
  ends : behind = [] ∨ ∃ next later, behind = .newline next :: later

namespace Line

variable {output : List (Piece σ)}

/-- The columns of a line, with its indentation. -/
def columns (line : Line output) : Nat :=
  columnBehind 0 line.ahead + (line.content.map Piece.columns).sum

/-- A box lies on a line as a whole. -/
def Holds (line : Line output) (box : Box σ) : Prop :=
  ∃ start rest, box.before = line.ahead ++ start ∧ line.content = start ++ (box.own ++ rest)

end Line

theorem restOfLine_append {pieces others : List (Piece σ)} (flat : ∀ next, .newline next ∉ pieces) :
    restOfLine (pieces ++ others) = (pieces.map Piece.columns).sum + restOfLine others := by
  induction pieces with
  | nil => simp
  | cons piece rest ih =>
    have others (next : Nat) : .newline next ∉ rest := fun member =>
      flat next (List.mem_cons_of_mem _ member)
    cases piece with
    | text style content => simp [restOfLine, ih others, Piece.columns, Nat.add_assoc]
    | flatEnd content => simp [restOfLine, ih others, Piece.columns, Nat.add_assoc]
    | newline indent => exact absurd (List.mem_cons_self ..) (flat indent)

/-- A run without a newline may be parted anywhere. -/
theorem columnBehind_add_restOfLine {before after others : List (Piece σ)}
    (flat : ∀ next, .newline next ∉ before ++ after) (column : Nat) :
    columnBehind column before + restOfLine (after ++ others) =
      column + ((before ++ after).map Piece.columns).sum + restOfLine others := by
  have flatBefore (next : Nat) : .newline next ∉ before := fun member =>
    flat next (List.mem_append_left _ member)
  have flatAfter (next : Nat) : .newline next ∉ after := fun member =>
    flat next (List.mem_append_right _ member)
  rw [columnBehind_of_flat flatBefore, restOfLine_append flatAfter, List.map_append, List.sum_append]
  omega

/-! ## What fits stays within the width -/

/-- Every group of the document takes columns when it is laid out flat. -/
def Doc.Solid (doc : Doc σ) : Prop :=
  ∀ content ∈ doc.groupContents, 0 < content.lead .flat

/-- If the stack fits from a column on, as the look-ahead takes it, so does the rest of the line that
it is laid out on. -/
def StaysWithin (width : Nat) (stack : List (Item σ)) : Prop :=
  ∀ column, column + leadOf stack ≤ width → column + restOfLine (layout width column stack) ≤ width

/-- Every line end that is laid out flat stands on a line that stays within the width. -/
def FlatWithin (width : Nat) (stack : List (Item σ)) : Prop :=
  ∀ column before content after,
    layout width column stack = before ++ .flatEnd content :: after →
      columnBehind column before + restOfLine (.flatEnd content :: after) ≤ width

section Within

variable {width : Nat} {stack : List (Item σ)} {doc first second : Doc σ}

theorem Doc.solid_append : (Doc.append first second).Solid ↔ first.Solid ∧ second.Solid :=
  List.forall_mem_append

theorem Doc.solid_group : (Doc.group doc).Solid ↔ 0 < doc.lead .flat ∧ doc.Solid :=
  List.forall_mem_cons

theorem map_broken_cons (broken : stack.map Item.broken = stack) (indent : Nat) (doc : Doc σ) :
    (⟨indent, .broken, doc⟩ :: stack).map Item.broken = ⟨indent, .broken, doc⟩ :: stack := by
  rw [List.map_cons, broken]
  rfl

/-- A flat group is laid out as it was measured, and what follows it is laid out behind it. -/
theorem exists_layout_flat (broken : stack.map Item.broken = stack) (solid : 0 < doc.lead .flat)
    {column indent : Nat} (decided : groupMode width column indent .broken doc stack = .flat) :
    ∃ pieces behind, layout width column (⟨indent, .flat, doc⟩ :: stack) =
        pieces ++ layout width behind stack ∧
      (∀ next, .newline next ∉ pieces) ∧ column + (pieces.map Piece.columns).sum = behind ∧
        behind + leadOf stack ≤ width := by
  have fits := (groupMode_eq_flat_iff solid).mp decided
  rw [broken, ← Nat.add_assoc] at fits
  obtain ⟨pieces, written, columns, flat⟩ := layout_of_not_ends doc.ends_flat
  exact ⟨pieces, _, written, flat, by rw [columns], fits⟩

theorem StaysWithin.nil : StaysWithin width ([] : List (Item σ)) := by
  intro column fits
  rw [layout]
  exact fits

/-- What the look-ahead takes to be broken stays within the width also where it is laid out flat. -/
theorem StaysWithin.cons (below : StaysWithin width stack) (broken : stack.map Item.broken = stack)
    (solid : doc.Solid) (indent : Nat) : StaysWithin width (⟨indent, .broken, doc⟩ :: stack) := by
  induction doc generalizing indent stack with
  | text style content =>
    intro column fits
    rw [leadOf_text, ← Nat.add_assoc] at fits
    rw [layout, restOfLine, ← Nat.add_assoc]
    exact below _ fits
  | line =>
    intro column fits
    rw [layout, restOfLine]
    omega
  | softLine =>
    intro column fits
    rw [layout, restOfLine]
    omega
  | append first second before after =>
    obtain ⟨solidFirst, solidSecond⟩ := Doc.solid_append.mp solid
    intro column fits
    rw [layout]
    exact before (after below broken solidSecond indent) (map_broken_cons broken indent second)
      solidFirst indent column (leadOf_append ▸ fits)
  | nest more doc ih =>
    intro column fits
    rw [layout]
    exact ih below broken solid (indent + more) column fits
  | group doc ih =>
    obtain ⟨positive, solid⟩ := Doc.solid_group.mp solid
    intro column fits
    rw [layout]
    cases decided : groupMode width column indent .broken doc stack with
    | broken => exact ih below broken solid indent column fits
    | flat =>
      obtain ⟨pieces, behind, written, flat, columns, fitsBehind⟩ :=
        exists_layout_flat broken positive decided
      rw [written, restOfLine_append flat, ← Nat.add_assoc, columns]
      exact below behind fitsBehind

theorem FlatWithin.nil : FlatWithin width ([] : List (Item σ)) := by
  intro column before content after split
  rw [layout] at split
  simp at split

/-- Behind pieces without a flat line end, what is laid out flat is in the rest. -/
theorem FlatWithin.of_cons (below : FlatWithin width stack) {column : Nat} {piece : Piece σ}
    {before after : List (Piece σ)} {content : String} (other : piece ≠ .flatEnd content)
    (split : piece :: layout width (piece.columnBehind column) stack =
      before ++ .flatEnd content :: after) :
    columnBehind column before + restOfLine (.flatEnd content :: after) ≤ width := by
  cases before with
  | nil => exact absurd (List.cons.inj split).1 other
  | cons first before =>
    obtain ⟨rfl, rest⟩ := List.cons.inj split
    exact below _ before content after rest

theorem FlatWithin.cons (below : FlatWithin width stack) (stays : StaysWithin width stack)
    (broken : stack.map Item.broken = stack) (solid : doc.Solid) (indent : Nat) :
    FlatWithin width (⟨indent, .broken, doc⟩ :: stack) := by
  induction doc generalizing indent stack with
  | text style content =>
    intro column before flatContent after split
    rw [layout] at split
    exact below.of_cons (by simp) split
  | line =>
    intro column before flatContent after split
    rw [layout] at split
    exact below.of_cons (by simp) split
  | softLine =>
    intro column before flatContent after split
    rw [layout] at split
    exact below.of_cons (by simp) split
  | append first second inFirst inSecond =>
    obtain ⟨solidFirst, solidSecond⟩ := Doc.solid_append.mp solid
    intro column before content after split
    rw [layout] at split
    exact inFirst (inSecond below stays broken solidSecond indent)
      (stays.cons broken solidSecond indent) (map_broken_cons broken indent second) solidFirst indent
      column before content after split
  | nest more doc ih =>
    intro column before content after split
    rw [layout] at split
    exact ih below stays broken solid (indent + more) column before content after split
  | group doc ih =>
    obtain ⟨positive, solid⟩ := Doc.solid_group.mp solid
    intro column before content after split
    rw [layout] at split
    cases decided : groupMode width column indent .broken doc stack with
    | broken =>
      rw [decided] at split
      exact ih below stays broken solid indent column before content after split
    | flat =>
      obtain ⟨pieces, behind, written, flat, columns, fits⟩ :=
        exists_layout_flat broken positive decided
      rw [decided, written] at split
      rcases List.append_eq_append_iff.mp split with ⟨more, rfl, rest⟩ | ⟨more, rfl, rest⟩
      · -- the line end stands behind the group
        rw [columnBehind_append, columnBehind_of_flat flat, columns]
        exact below behind more content after rest
      · -- the line end is one of the group
        rw [rest, columnBehind_add_restOfLine flat, columns]
        exact stays behind fits

end Within

/-- What is laid out flat in a document with solid groups stands on a line that stays within the
width. -/
theorem Doc.Solid.columns_le {doc : Doc σ} (solid : doc.Solid) {width : Nat}
    (line : Line (doc.pieces width)) {content : String} (member : .flatEnd content ∈ line.content) :
    line.columns ≤ width := by
  have within : FlatWithin width [⟨0, .broken, doc⟩] :=
    .cons .nil .nil rfl solid 0
  obtain ⟨before, after, parted⟩ := List.append_of_mem member
  have split := line.split
  rw [parted, List.append_assoc, ← List.append_assoc, List.cons_append] at split
  have fits := within 0 _ _ _ split
  have flat := line.unbroken
  rw [parted] at flat
  have ends : restOfLine line.behind = 0 := by
    rcases line.ends with none | ⟨next, later, following⟩
    · rw [none, restOfLine]
    · rw [following, restOfLine]
  rw [columnBehind_append, ← List.cons_append, columnBehind_add_restOfLine flat, ends, ← parted] at fits
  exact fits

/-- A line that is too long has nothing flat on it, and no group as a whole. -/
theorem Doc.Solid.overlong {doc : Doc σ} (solid : doc.Solid)
    (breaks : ∀ content ∈ doc.groupContents, content.breaks = true) {width : Nat}
    (line : Line (doc.pieces width)) (long : width < line.columns) :
    (∀ content, .flatEnd content ∉ line.content) ∧
      ∀ box ∈ (doc.spread width).boxes, ¬ line.Holds box := by
  have rigid (content : String) : .flatEnd content ∉ line.content := by
    intro member
    have := solid.columns_le line member
    omega
  refine ⟨rigid, ?_⟩
  rintro box member ⟨start, rest, -, held⟩
  have present {piece : Piece σ} (own : piece ∈ box.own) : piece ∈ line.content := by
    rw [held]
    exact List.mem_append_right _ (List.mem_append_left _ own)
  have flat : box.IsFlat := fun next newline => line.unbroken next (present newline)
  obtain ⟨content, own⟩ := exists_flatEnd member (breaks _ (content_mem_groupContents member)) flat
  exact rigid content (present own)

end Layout

namespace Expr

open Layout (Line)

/-- A line that is too long cannot be broken further: no line end on it was laid out flat, and no
combination or call of the expression stands on it as a whole. -/
theorem overlong_unavoidable (expr : Expr) {width : Nat} (line : Line ((expr.doc 0).pieces width))
    (long : width < line.columns) :
    (∀ content, .flatEnd content ∉ line.content) ∧
      ∀ place inner, expr.at? place = some inner → inner.IsBreakable →
        ∃ box behind, expr.boxAt? width place = some box ∧ inner.HasGroup box.content ∧
          (expr.doc 0).pieces width = box.before ++ (box.own ++ behind) ∧ ¬ line.Holds box := by
  have solid : (expr.doc 0).Solid := fun _ member => (breaks_of_mem_groupContents member).2
  obtain ⟨rigid, apart⟩ :=
    solid.overlong (fun _ member => (breaks_of_mem_groupContents member).1) line long
  refine ⟨rigid, fun place inner found breakable => ?_⟩
  obtain ⟨box, listed, looked, group⟩ := exists_boxAt? found breakable width
  obtain ⟨behind, split⟩ := Layout.Spread.pieces_of_mem_boxes listed
  rw [Layout.Doc.pieces_spread] at split
  exact ⟨box, behind, looked, group, split, apart box listed⟩

/-- The first line of `-(F(a) + F(b))` where there are five columns: `-(F(a)`. -/
def negatedSumLine : Line ((negatedSum.doc 0).pieces 5) where
  ahead := []
  content := [.text (some .operator) "-", .text (some (.parenthesis 0)) "(",
    .text (some .function) "F", .text (some (.parenthesis 1)) "(", .text (some .identifier) "a",
    .text (some (.parenthesis 1)) ")"]
  behind := [.newline 2, .text (some .operator) "+", .text none " ", .text (some .function) "F",
    .text (some (.parenthesis 1)) "(", .text (some .identifier) "b",
    .text (some (.parenthesis 1)) ")", .text (some (.parenthesis 0)) ")"]
  split := by cbv
  begins := .inl rfl
  unbroken := by simp
  ends := .inr ⟨_, _, rfl⟩

/-- It takes six columns, as the sum is broken and there is no other place to break. -/
theorem overlong_unavoidable_negatedSum :
    5 < negatedSumLine.columns ∧ negatedSum.at? [0] = some (.combined .add (.field "a") (.field "b")) ∧
      (∀ content, .flatEnd content ∉ negatedSumLine.content) ∧
        ∃ box, negatedSum.boxAt? 5 [0] = some box ∧ ¬ negatedSumLine.Holds box := by
  have long : 5 < negatedSumLine.columns := by decide
  have found : negatedSum.at? [0] = some (.combined .add (.field "a") (.field "b")) := rfl
  obtain ⟨rigid, apart⟩ := overlong_unavoidable negatedSum negatedSumLine long
  obtain ⟨box, -, looked, -, -, outside⟩ := apart [0] _ found (.inl rfl)
  exact ⟨long, found, rigid, box, looked, outside⟩

end Expr

end Hybrid
