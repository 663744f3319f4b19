import Mathlib.Algebra.GroupWithZero.Nat
import Hybrid.Layout.Document

/-! # How far a layout looks ahead

A group is laid out flat if what stands before the next possible newline fits. `leadOf` measures that
part of a stack, so the look-ahead is a comparison of two numbers (`fits_iff`). What holds no line end
in its mode is laid out in one way, and takes as many columns as it was measured to take
(`layout_of_not_ends`).
-/

namespace Hybrid.Layout

variable {σ : Type}

/-- The columns that a piece takes on its line. -/
def Piece.columns : Piece σ → Nat
  | .text _ content | .flatEnd content => Text.columns content
  | .newline indent => indent

/-- The item in broken mode, as the look-ahead takes it. -/
def Item.broken (item : Item σ) : Item σ :=
  { item with mode := .broken }

namespace Doc

/-- Some line end in the document may become a newline, where its groups have this mode too. -/
def ends (mode : Mode) : Doc σ → Bool
  | .text _ _ => false
  | .line | .softLine => mode = .broken
  | .append first second => first.ends mode || second.ends mode
  | .nest _ doc | .group doc => doc.ends mode

/-- The columns of a document as far as the first newline, where its groups have this mode too. -/
def lead (mode : Mode) : Doc σ → Nat
  | .text _ content => Text.columns content
  | .line =>
    match mode with
    | .flat => 1
    | .broken => 0
  | .softLine => 0
  | .append first second =>
    if first.ends mode then first.lead mode else first.lead mode + second.lead mode
  | .nest _ doc | .group doc => doc.lead mode

/-- Some line end stands in no group of the document. -/
def breaks : Doc σ → Bool
  | .text _ _ | .group _ => false
  | .line | .softLine => true
  | .append first second => first.breaks || second.breaks
  | .nest _ doc => doc.breaks

/-- The pieces of a document that is laid out flat, which no width has a part in. -/
def flatPieces (doc : Doc σ) : List (Piece σ) :=
  layout 0 0 [⟨0, .flat, doc⟩]

variable {doc first second : Doc σ}

@[simp] theorem breaks_append : (first ++ second).breaks = (first.breaks || second.breaks) := rfl

@[simp] theorem ends_flat (doc : Doc σ) : doc.ends .flat = false := by
  induction doc with
  | text => rfl
  | line => rfl
  | softLine => rfl
  | append first second before after => simp [ends, before, after]
  | nest indent doc ih => exact ih
  | group doc ih => exact ih

@[simp] theorem lead_append_flat :
    (first ++ second).lead .flat = first.lead .flat + second.lead .flat := by
  have unfolded : (first ++ second).lead .flat =
      if first.ends .flat then first.lead .flat else first.lead .flat + second.lead .flat := rfl
  simp [unfolded]

@[simp] theorem lead_line_flat : (line : Doc σ).lead .flat = 1 := rfl

@[simp] theorem lead_nest {mode : Mode} {more : Nat} : (nest more doc).lead mode = doc.lead mode := rfl

@[simp] theorem lead_group {mode : Mode} : (group doc).lead mode = doc.lead mode := rfl

/-- Where no line end is, the mode does not count. -/
theorem lead_of_not_ends (calm : doc.ends .broken = false) : doc.lead .broken = doc.lead .flat := by
  induction doc with
  | text => rfl
  | line => cases calm
  | softLine => rfl
  | append first second before after =>
    obtain ⟨calmFirst, calmSecond⟩ := Bool.or_eq_false_iff.mp calm
    simp [lead, calmFirst, before calmFirst, after calmSecond]
  | nest indent doc ih => exact ih calm
  | group doc ih => exact ih calm

end Doc

/-- The columns of a stack as far as the first newline. -/
def leadOf : List (Item σ) → Nat
  | [] => 0
  | item :: stack =>
    if item.doc.ends item.mode then item.doc.lead item.mode
    else item.doc.lead item.mode + leadOf stack

section Lead

variable {indent : Nat} {mode : Mode} {stack : List (Item σ)} {doc first second : Doc σ}

@[simp] theorem leadOf_nil : leadOf ([] : List (Item σ)) = 0 := rfl

@[simp] theorem leadOf_text {style : Option σ} {content : String} :
    leadOf (⟨indent, mode, .text style content⟩ :: stack) = Text.columns content + leadOf stack := rfl

@[simp] theorem leadOf_line_flat :
    leadOf (⟨indent, .flat, .line⟩ :: stack) = 1 + leadOf stack := rfl

@[simp] theorem leadOf_line_broken : leadOf (⟨indent, .broken, .line⟩ :: stack) = 0 := rfl

@[simp] theorem leadOf_softLine_flat :
    leadOf (⟨indent, .flat, .softLine⟩ :: stack) = leadOf stack := by
  simp [leadOf, Doc.lead]

@[simp] theorem leadOf_softLine_broken : leadOf (⟨indent, .broken, .softLine⟩ :: stack) = 0 := rfl

@[simp] theorem leadOf_append :
    leadOf (⟨indent, mode, .append first second⟩ :: stack) =
      leadOf (⟨indent, mode, first⟩ :: ⟨indent, mode, second⟩ :: stack) := by
  cases before : first.ends mode <;> cases after : second.ends mode <;>
    simp [leadOf, Doc.lead, Doc.ends, before, after, Nat.add_assoc]

@[simp] theorem leadOf_nest {more : Nat} :
    leadOf (⟨indent, mode, .nest more doc⟩ :: stack) = leadOf (⟨indent, mode, doc⟩ :: stack) := rfl

@[simp] theorem leadOf_group :
    leadOf (⟨indent, mode, .group doc⟩ :: stack) = leadOf (⟨indent, mode, doc⟩ :: stack) := rfl

theorem leadOf_of_not_ends (calm : doc.ends mode = false) :
    leadOf (⟨indent, mode, doc⟩ :: stack) = doc.lead mode + leadOf stack := by
  simp [leadOf, calm]

end Lead

/-! ## The look-ahead -/

section Fits

variable {width column : Nat} {now rest : List (Item σ)}

/-- What is not wider than the width fits, from whatever column. -/
theorem fits_of_le (within : column + leadOf (now ++ rest.map Item.broken) ≤ width) :
    fits width column now rest = true := by
  fun_induction fits width column now rest with
  | case1 => rfl
  | case2 column item rest ih => exact ih (by simpa [Item.broken] using within)
  | case3 column rest indent mode now style content wide =>
    simp only [List.cons_append, leadOf_text] at within
    omega
  | case4 column rest indent mode now style content narrow ih =>
    exact ih (by simpa [Nat.add_assoc] using within)
  | case5 column rest indent now wide =>
    simp only [List.cons_append, leadOf_line_flat] at within
    omega
  | case6 column rest indent now narrow ih => exact ih (by simpa [Nat.add_assoc] using within)
  | case7 => rfl
  | case8 column rest indent now ih => exact ih (by simpa using within)
  | case9 => rfl
  | case10 column rest indent mode now first second ih => exact ih (by simpa using within)
  | case11 column rest indent mode now more doc ih => exact ih (by simpa using within)
  | case12 column rest indent mode now doc ih => exact ih (by simpa using within)

/-- What fits is not wider than the width. Only a text or a space is compared with it, so of a stack
without columns before the first newline nothing follows. -/
theorem le_of_fits (fitting : fits width column now rest = true)
    (positive : 0 < leadOf (now ++ rest.map Item.broken)) :
    column + leadOf (now ++ rest.map Item.broken) ≤ width := by
  fun_induction fits width column now rest with
  | case1 => cases positive
  | case2 column item rest ih =>
    simpa [Item.broken] using ih fitting (by simpa [Item.broken] using positive)
  | case3 => cases fitting
  | case4 column rest indent mode now style content narrow ih =>
    have behind := ih fitting
    simp only [List.cons_append, leadOf_text]
    omega
  | case5 => cases fitting
  | case6 column rest indent now narrow ih =>
    have behind := ih fitting
    simp only [List.cons_append, leadOf_line_flat]
    omega
  | case7 => cases positive
  | case8 column rest indent now ih => simpa using ih fitting (by simpa using positive)
  | case9 => cases positive
  | case10 column rest indent mode now first second ih =>
    simpa using ih fitting (by simpa using positive)
  | case11 column rest indent mode now more doc ih =>
    simpa using ih fitting (by simpa using positive)
  | case12 column rest indent mode now doc ih =>
    simpa using ih fitting (by simpa using positive)

/-- Two stacks fit one after the other if what stands before the next possible newline does. -/
theorem fits_iff (positive : 0 < leadOf (now ++ rest.map Item.broken)) :
    fits width column now rest = true ↔
      column + leadOf (now ++ rest.map Item.broken) ≤ width :=
  ⟨fun fitting => le_of_fits fitting positive, fits_of_le⟩

/-- A group that takes columns is laid out flat if it fits, with what follows it before the next
possible newline. -/
theorem groupMode_eq_flat_iff {indent : Nat} {doc : Doc σ} {stack : List (Item σ)}
    (positive : 0 < doc.lead .flat) :
    groupMode width column indent .broken doc stack = .flat ↔
      column + (doc.lead .flat + leadOf (stack.map Item.broken)) ≤ width := by
  have measured : leadOf ([⟨indent, .flat, doc⟩] ++ stack.map Item.broken) =
      doc.lead .flat + leadOf (stack.map Item.broken) := leadOf_of_not_ends doc.ends_flat
  rw [← measured, ← fits_iff (by omega)]
  simp [groupMode]

end Fits

/-! ## The layout of one item -/

section Layout

variable {width column indent : Nat} {mode : Mode} {doc : Doc σ} {stack : List (Item σ)}

theorem layout_append {first second : Doc σ} :
    layout width column (⟨indent, mode, first ++ second⟩ :: stack) =
      layout width column (⟨indent, mode, first⟩ :: ⟨indent, mode, second⟩ :: stack) :=
  layout.eq_def ..

/-- What stands below an item is laid out behind it. -/
theorem exists_layout_suffix (width column indent : Nat) (mode : Mode) (doc : Doc σ)
    (stack : List (Item σ)) :
    ∃ pieces behind, layout width column (⟨indent, mode, doc⟩ :: stack) =
      pieces ++ layout width behind stack := by
  induction doc generalizing column indent mode stack with
  | text style content =>
    rw [layout]
    exact ⟨[_], _, rfl⟩
  | line =>
    cases mode <;> rw [layout] <;> exact ⟨[_], _, rfl⟩
  | softLine =>
    cases mode <;> rw [layout] <;> exact ⟨[_], _, rfl⟩
  | append first second before after =>
    obtain ⟨pieces, middle, written⟩ := before column indent mode (⟨indent, mode, second⟩ :: stack)
    obtain ⟨others, behind, rest⟩ := after middle indent mode stack
    exact ⟨pieces ++ others, behind, by rw [layout, written, rest, List.append_assoc]⟩
  | nest more doc ih =>
    rw [layout]
    exact ih column (indent + more) mode stack
  | group doc ih =>
    rw [layout]
    exact ih column indent _ stack

/-- In broken mode a line end outside of groups becomes a newline. -/
theorem exists_newline_of_breaks (breaks : doc.breaks = true) :
    ∃ next, .newline next ∈ layout width column (⟨indent, .broken, doc⟩ :: stack) := by
  induction doc generalizing column indent stack with
  | text => cases breaks
  | line =>
    rw [layout]
    exact ⟨_, List.mem_cons_self ..⟩
  | softLine =>
    rw [layout]
    exact ⟨_, List.mem_cons_self ..⟩
  | append first second before after =>
    rw [layout]
    rcases Bool.or_eq_true_iff.mp breaks with inFirst | inSecond
    · exact before inFirst
    · obtain ⟨pieces, behind, written⟩ :=
        exists_layout_suffix width column indent .broken first (⟨indent, .broken, second⟩ :: stack)
      obtain ⟨next, member⟩ := after inSecond
      exact ⟨next, written ▸ List.mem_append_right _ member⟩
  | nest more doc ih =>
    rw [layout]
    exact ih breaks
  | group => cases breaks

private theorem groupMode_of_not_ends (calm : doc.ends mode = false) :
    doc.ends (groupMode width column indent mode doc stack) = false ∧
      doc.lead (groupMode width column indent mode doc stack) = doc.lead mode := by
  cases mode with
  | flat => exact ⟨calm, rfl⟩
  | broken =>
    cases groupMode width column indent .broken doc stack with
    | flat => exact ⟨doc.ends_flat, (Doc.lead_of_not_ends calm).symm⟩
    | broken => exact ⟨calm, rfl⟩

/-- A document without a possible newline takes the columns that it is measured to take. -/
theorem layout_of_not_ends (calm : doc.ends mode = false) :
    ∃ pieces, layout width column (⟨indent, mode, doc⟩ :: stack) =
        pieces ++ layout width (column + doc.lead mode) stack ∧
      (pieces.map Piece.columns).sum = doc.lead mode ∧ ∀ next, .newline next ∉ pieces := by
  induction doc generalizing column indent mode stack with
  | text style content =>
    rw [layout]
    exact ⟨[.text style content], rfl, rfl, by simp⟩
  | line =>
    cases mode with
    | flat =>
      rw [layout]
      exact ⟨[.flatEnd " "], rfl, rfl, by simp⟩
    | broken => cases calm
  | softLine =>
    cases mode with
    | flat =>
      rw [layout]
      exact ⟨[.flatEnd ""], rfl, rfl, by simp⟩
    | broken => cases calm
  | append first second before after =>
    obtain ⟨calmFirst, calmSecond⟩ := Bool.or_eq_false_iff.mp calm
    obtain ⟨pieces, written, columns, flat⟩ := before calmFirst
    obtain ⟨others, rest, columns', flat'⟩ := after calmSecond
    have measured : (Doc.append first second).lead mode = first.lead mode + second.lead mode := by
      simp [Doc.lead, calmFirst]
    refine ⟨pieces ++ others, ?_, ?_, fun next => ?_⟩
    · rw [layout, written, rest, measured, List.append_assoc, Nat.add_assoc]
    · rw [List.map_append, List.sum_append, columns, columns', measured]
    · simp [flat next, flat' next]
  | nest more doc ih =>
    rw [layout]
    exact ih calm
  | group doc ih =>
    have inside : doc.ends mode = false := calm
    obtain ⟨calm', measured⟩ := groupMode_of_not_ends inside
    rw [layout, Doc.lead_group, ← measured]
    exact ih calm'

/-- No newline stands in a stack without a possible one. -/
theorem not_newline_mem_layout (calm : ∀ item ∈ stack, item.doc.ends item.mode = false) (next : Nat) :
    .newline next ∉ layout width column stack := by
  induction stack generalizing column with
  | nil => simp [layout]
  | cons item stack ih =>
    obtain ⟨here, others⟩ := List.forall_mem_cons.mp calm
    obtain ⟨pieces, written, -, flat⟩ := layout_of_not_ends here
    rw [written, List.mem_append]
    exact not_or.mpr ⟨flat next, ih others⟩

end Layout

/-- A flat document has no newline, and takes the columns that it is measured to take. -/
theorem Doc.flatPieces_flat (doc : Doc σ) :
    (doc.flatPieces.map Piece.columns).sum = doc.lead .flat ∧
      ∀ next, .newline next ∉ doc.flatPieces := by
  obtain ⟨pieces, written, columns, flat⟩ := layout_of_not_ends doc.ends_flat
  rw [flatPieces, written, layout, List.append_nil]
  exact ⟨columns, flat⟩

end Hybrid.Layout
