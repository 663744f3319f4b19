import Hybrid.Proofs.Printing.Groups

/-! # Wider lines

With more columns a group may become flat, and what follows it then begins further to the right. In a
document of an expression that does no harm: between two groups beside each other stands a line end
that is in neither of them, so unless all around is flat the second group begins behind a newline, in
the column of its indentation. So every group begins in the same column at both widths as long as the
groups around it are broken, and what is flat stays flat.
-/

namespace Hybrid

namespace Layout

variable {σ : Type}

/-- With the larger width the look-ahead finds what it finds with the smaller one. -/
theorem fits_mono {narrow wide column : Nat} (le : narrow ≤ wide) {now rest : List (Item σ)}
    (fitting : fits narrow column now rest = true) : fits wide column now rest = true := by
  fun_induction fits narrow column now rest with
  | case1 => rw [fits]
  | case2 column item rest ih =>
    rw [fits]
    exact ih fitting
  | case3 => cases fitting
  | case4 column rest indent mode now style content within ih =>
    rw [fits, if_neg (by omega)]
    exact ih fitting
  | case5 => cases fitting
  | case6 column rest indent now within ih =>
    rw [fits, if_neg (by omega)]
    exact ih fitting
  | case7 => rw [fits]
  | case8 column rest indent now ih =>
    rw [fits]
    exact ih fitting
  | case9 => rw [fits]
  | case10 column rest indent mode now first second ih =>
    rw [fits]
    exact ih fitting
  | case11 column rest indent mode now more doc ih =>
    rw [fits]
    exact ih fitting
  | case12 column rest indent mode now doc ih =>
    rw [fits]
    exact ih fitting

/-- A group that is flat is flat at every larger width, if it begins in the same column. -/
theorem groupMode_mono {narrow wide column indent : Nat} (le : narrow ≤ wide) {doc : Doc σ}
    {stack : List (Item σ)} (flat : groupMode narrow column indent .broken doc stack = .flat) :
    groupMode wide column indent .broken doc stack = .flat := by
  have fitting : fits narrow column [⟨indent, .flat, doc⟩] stack = true := by
    by_contra wide
    rw [groupMode, if_neg wide] at flat
    cases flat
  exact if_pos (fits_mono le fitting)

/-! ## Groups that stand apart -/

namespace Doc

/-- A group of the document begins on the line on which the document begins, if its line ends outside
of groups become newlines. -/
def opens : Doc σ → Bool
  | .text _ _ | .line | .softLine => false
  | .append first second => first.opens || !first.breaks && second.opens
  | .nest _ doc => doc.opens
  | .group _ => true

/-- A group of the document ends on the line on which the document ends. -/
def closes : Doc σ → Bool
  | .text _ _ | .line | .softLine => false
  | .append first second => second.closes || !second.breaks && first.closes
  | .nest _ doc => doc.closes
  | .group _ => true

/-- Between two groups that stand beside each other in the document is a line end. -/
def Parted : Doc σ → Prop
  | .text _ _ | .line | .softLine => True
  | .append first second =>
    first.Parted ∧ second.Parted ∧ ¬(first.closes = true ∧ second.opens = true)
  | .nest _ doc | .group doc => doc.Parted

variable {first second : Doc σ}

theorem Parted.append_left (before : first.Parted) (after : second.Parted)
    (closes : first.closes = false) : (first ++ second).Parted :=
  ⟨before, after, fun both => by rw [closes] at both; cases both.1⟩

theorem Parted.append_right (before : first.Parted) (after : second.Parted)
    (opens : second.opens = false) : (first ++ second).Parted :=
  ⟨before, after, fun both => by rw [opens] at both; cases both.2⟩

end Doc

/-! ## Two widths -/

/-- The newlines of an output. -/
def newlineCount (pieces : List (Piece σ)) : Nat :=
  pieces.countP fun
    | .newline _ => true
    | .text _ _ | .flatEnd _ => false

/-- What is laid out flat in the one is flat in the other, which has no more newlines. -/
structure Widens (narrow wide : Spread σ) : Prop where
  boxes : List.Forall₂ (fun box other => box.mode = .flat → other.mode = .flat)
    narrow.boxes wide.boxes
  newlines : newlineCount wide.pieces ≤ newlineCount narrow.pieces

namespace Widens

variable {narrow wide : Spread σ}

theorem leaf (piece : Piece σ) : Widens (.leaf piece) (.leaf piece) :=
  ⟨.nil, Nat.le_refl _⟩

theorem append {narrowSecond wideSecond : Spread σ} (first : Widens narrow wide)
    (second : Widens narrowSecond wideSecond) :
    Widens (.append narrow narrowSecond) (.append wide wideSecond) where
  boxes := by
    refine List.rel_append first.boxes ?_
    rw [List.forall₂_map_left_iff, List.forall₂_map_right_iff]
    exact second.boxes
  newlines := by
    simp only [newlineCount, Spread.pieces, List.countP_append]
    exact Nat.add_le_add first.newlines second.newlines

theorem group (inside : Widens narrow wide) (content : Doc σ) (mode : Mode) :
    Widens (.group content mode narrow) (.group content mode wide) where
  boxes := .cons id inside.boxes
  newlines := inside.newlines

/-- Nothing is broken that is flat. -/
theorem of_flat (same : narrow.boxes.map Box.content = wide.boxes.map Box.content)
    (flat : ∀ box ∈ wide.boxes, box.mode = .flat) (unbroken : ∀ next, .newline next ∉ wide.pieces) :
    Widens narrow wide where
  boxes := by
    have lengths : narrow.boxes.length = wide.boxes.length := by
      simpa using congrArg List.length same
    exact List.forall₂_iff_zip.mpr
      ⟨lengths, fun member _ => flat _ (List.of_mem_zip member).2⟩
  newlines := by
    have none : newlineCount wide.pieces = 0 := by
      rw [newlineCount, List.countP_eq_zero]
      intro piece member
      cases piece with
      | text style content => simp
      | flatEnd content => simp
      | newline indent => exact absurd member (unbroken indent)
    omega

end Widens

/-- A document whose groups stand apart is laid out flatter at a larger width. The columns of the two
layouts may only differ where a newline comes before the next group. -/
theorem Doc.Parted.widens {doc : Doc σ} (parted : doc.Parted) {narrow wide : Nat} (le : narrow ≤ wide)
    (indent : Nat) (stack : List (Item σ)) {column other : Nat}
    (start : doc.opens = true → column = other) :
    Widens (doc.spreadAt narrow column indent .broken stack)
        (doc.spreadAt wide other indent .broken stack) ∧
      (doc.closes = false → doc.breaks = true ∨ column = other →
        columnBehind column (doc.spreadAt narrow column indent .broken stack).pieces =
          columnBehind other (doc.spreadAt wide other indent .broken stack).pieces) := by
  induction doc generalizing column other indent stack with
  | text style content =>
    refine ⟨.leaf _, fun _ reason => ?_⟩
    obtain rfl := reason.resolve_left Bool.false_ne_true
    rfl
  | line => exact ⟨.leaf _, fun _ _ => rfl⟩
  | softLine => exact ⟨.leaf _, fun _ _ => rfl⟩
  | append first second before after =>
    obtain ⟨partedFirst, partedSecond, apart⟩ := parted
    simp only [opens, Bool.or_eq_true, Bool.and_eq_true, Bool.not_eq_true'] at start
    obtain ⟨widensFirst, behindFirst⟩ := before partedFirst indent
      (⟨indent, .broken, second⟩ :: stack) fun opens => start (.inl opens)
    -- the second document begins in the same column at both widths, if a group begins on its line
    have between (opens : second.opens = true) :
        columnBehind column (first.spreadAt narrow column indent .broken
            (⟨indent, .broken, second⟩ :: stack)).pieces =
          columnBehind other (first.spreadAt wide other indent .broken
            (⟨indent, .broken, second⟩ :: stack)).pieces := by
      have closes : first.closes = false := by
        by_contra closes
        exact apart ⟨Bool.of_not_eq_false closes, opens⟩
      refine behindFirst closes ?_
      cases breaks : first.breaks with
      | true => exact .inl rfl
      | false => exact .inr (start (.inr ⟨breaks, opens⟩))
    obtain ⟨widensSecond, behindSecond⟩ := after partedSecond indent stack between
    refine ⟨widensFirst.append widensSecond, fun closes reason => ?_⟩
    simp only [Doc.closes, Bool.or_eq_false_iff, Bool.and_eq_false_iff, Bool.not_eq_false'] at closes
    simp only [spreadAt, Spread.pieces, columnBehind_append]
    refine behindSecond closes.1 ?_
    rcases closes.2 with breaks | closesFirst
    · exact .inl breaks
    · cases breaks : second.breaks with
      | true => exact .inl rfl
      | false =>
        refine .inr (behindFirst closesFirst ?_)
        simpa [Doc.breaks, breaks] using reason
  | nest more doc ih => exact ih parted (indent + more) stack start
  | group doc ih =>
    obtain rfl := start rfl
    refine ⟨?_, fun closes => by cases closes⟩
    cases decided : groupMode wide column indent .broken doc stack with
    | flat =>
      refine .of_flat ?_ ?_ ?_
      · rw [map_content_boxes, map_content_boxes]
      · simp only [spreadAt, decided, Spread.boxes, List.forall_mem_cons]
        exact ⟨trivial, spreadAt_flat.2⟩
      · simp only [spreadAt, decided, Spread.pieces]
        exact spreadAt_flat.1
    | broken =>
      have broken : groupMode narrow column indent .broken doc stack = .broken := by
        cases narrower : groupMode narrow column indent .broken doc stack with
        | flat => exact absurd (decided.symm.trans (groupMode_mono le narrower)) (by simp)
        | broken => rfl
      simp only [spreadAt, decided, broken]
      exact (ih parted indent stack fun _ => rfl).1.group doc .broken

end Layout

namespace Expr

open Layout (Doc Box newlineCount)

theorem parted_operandDoc {wrapped : Bool} {depth : UInt8} {doc : UInt8 → Doc TokenStyle}
    (parted : ∀ depth, (doc depth).Parted) : (operandDoc wrapped depth doc).Parted := by
  cases wrapped with
  | false => exact parted depth
  | true => exact .append_right (.append_left trivial (parted (depth + 1)) rfl) trivial rfl

theorem parted_combinedDoc {operator : Operator} {lhs rhs : Doc TokenStyle} (left : lhs.Parted)
    (right : rhs.Parted) : (combinedDoc operator lhs rhs).Parted := by
  -- the line end before the operator stands between the two operands
  have before : (lhs ++ .line ++ token .operator operator.symbol ++ .text none " ").Parted :=
    .append_right (.append_right (.append_right left trivial rfl) trivial rfl) trivial rfl
  exact before.append_left right rfl

theorem parted_argumentsDoc? {arguments : List Expr}
    (each : ∀ argument ∈ arguments, ∀ depth, (argument.doc depth).Parted) (depth : UInt8) :
    ∀ doc ∈ argumentsDoc? arguments depth, doc.Parted := by
  induction arguments with
  | nil => simp [argumentsDoc?]
  | cons argument rest ih =>
    obtain ⟨here, others⟩ := List.forall_mem_cons.mp each
    rw [argumentsDoc?]
    cases following : argumentsDoc? rest depth with
    | none => simpa using here depth
    | some doc =>
      rintro _ ⟨⟩
      have comma : (token .punctuation "," ++ .line : Doc TokenStyle).Parted :=
        .append_right trivial trivial rfl
      exact .append_left (.append_right (here depth) comma rfl) (ih others doc following) rfl

theorem parted_callDoc {name : String} {depth : UInt8} {arguments? : Option (Doc TokenStyle)}
    (each : ∀ arguments ∈ arguments?, arguments.Parted) : (callDoc name depth arguments?).Parted := by
  have opening : (token .function name ++ openParenthesis depth).Parted :=
    .append_right trivial trivial rfl
  cases arguments? with
  | none =>
    exact .append_right (.append_right (.append_left opening trivial rfl) trivial rfl) trivial rfl
  | some arguments =>
    have inside : (.softLine ++ arguments : Doc TokenStyle).Parted :=
      .append_left trivial (each arguments rfl) rfl
    exact .append_right (.append_right (.append_left opening inside rfl) trivial rfl) trivial rfl

theorem parted_doc (expr : Expr) (depth : UInt8) : (expr.doc depth).Parted := by
  induction expr generalizing depth with
  | field name =>
    rw [doc]
    exact .append_right (.append_right (.append_right trivial trivial rfl) trivial rfl) trivial rfl
  | literal value =>
    rw [doc]
    trivial
  | combined operator lhs rhs left right =>
    rw [doc]
    exact parted_combinedDoc (parted_operandDoc left) (parted_operandDoc right)
  | negated operand ih =>
    rw [doc]
    exact .append_left trivial (parted_operandDoc ih) rfl
  | call name arguments each =>
    rw [doc]
    exact parted_callDoc (parted_argumentsDoc? each (depth + 1))

/-- More width never means more lines: each combination and each call that is laid out flat at a width
is laid out flat at every larger one, and the rendering has at most as many newlines there. -/
theorem wider_is_flatter (expr : Expr) {narrow wide : Nat} (le : narrow ≤ wide) :
    (∀ place inner, expr.at? place = some inner → inner.IsBreakable →
      ∃ box other, expr.boxAt? narrow place = some box ∧ expr.boxAt? wide place = some other ∧
        inner.HasGroup box.content ∧ inner.HasGroup other.content ∧ (box.IsFlat → other.IsFlat)) ∧
      newlineCount ((expr.doc 0).pieces wide) ≤ newlineCount ((expr.doc 0).pieces narrow) := by
  have widens : Layout.Widens ((expr.doc 0).spread narrow) ((expr.doc 0).spread wide) :=
    ((expr.parted_doc 0).widens le 0 [] fun _ => rfl).1
  have own {width : Nat} {box : Box TokenStyle} (member : box ∈ ((expr.doc 0).spread width).boxes) :
      box.IsFlat ↔ box.mode = .flat :=
    Layout.isFlat_iff member
      (breaks_of_mem_groupContents (Layout.content_mem_groupContents member)).1
  constructor
  · intro place inner found breakable
    obtain ⟨box, listed, looked, shown⟩ := exists_boxAt? found breakable narrow
    obtain ⟨other, listedOther, lookedOther, shownOther⟩ := exists_boxAt? found breakable wide
    refine ⟨box, other, looked, lookedOther, shown, shownOther, ?_⟩
    have related := lookup_zip_rel widens.boxes expr.breakables place
    rw [boxAt?] at looked lookedOther
    rw [looked, lookedOther] at related
    cases related with
    | some stays =>
      rw [own listed, own listedOther]
      exact stays
  · rw [← Layout.Doc.pieces_spread, ← Layout.Doc.pieces_spread]
    exact widens.newlines

/-- At fourteen columns `-(F(a) + F(b))` is flat, and then also at fifteen. -/
theorem wider_is_flatter_negatedSum :
    14 ≤ 15 ∧ negatedSum.at? [0] = some (.combined .add (.field "a") (.field "b")) ∧
      (∃ box other, negatedSum.boxAt? 14 [0] = some box ∧ negatedSum.boxAt? 15 [0] = some other ∧
        (box.IsFlat → other.IsFlat)) ∧
      newlineCount ((negatedSum.doc 0).pieces 15) ≤ newlineCount ((negatedSum.doc 0).pieces 14) := by
  have found : negatedSum.at? [0] = some (.combined .add (.field "a") (.field "b")) := rfl
  obtain ⟨flatter, fewer⟩ := wider_is_flatter negatedSum (by decide : 14 ≤ 15)
  obtain ⟨box, other, looked, lookedOther, -, -, stays⟩ := flatter [0] _ found (.inl rfl)
  exact ⟨by decide, found, ⟨box, other, looked, lookedOther, stays⟩, fewer⟩

end Expr

end Hybrid
