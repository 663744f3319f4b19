import Mathlib.Data.List.Forall2
import Hybrid.Proofs.Printing.Fitting
import Hybrid.Proofs.Printing.Spread
import Hybrid.Proofs.Walk.Places

/-! # The groups of an expression

Each combination and each call of an expression has one group of its document, and there are no other
groups. Both are listed from the outside to the inside, so the group of a node is found by its place
(`boxAt?`), at every width.
-/

namespace Hybrid.Expr

open Layout (Doc Box)
open Walk (Place Visit)

instance : DecidablePred IsBreakable := fun _ => inferInstanceAs (Decidable (_ ∨ _))

/-- The places of the combinations and calls of an expression, each before those inside it. -/
def breakables (expr : Expr) : List Place :=
  ((Walk.numbered.unfolding ⟨expr, 0, []⟩).filter (·.node.IsBreakable)).map (·.input)

/-- The group of the combination or call at a place, as it is laid out to a width. -/
def boxAt? (expr : Expr) (width : Nat) (place : Place) : Option (Box TokenStyle) :=
  (expr.breakables.zip ((expr.doc 0).spread width).boxes).lookup place

/-- The group of a document of the expression, which has this content. -/
def HasGroup (expr : Expr) (content : Doc TokenStyle) : Prop :=
  ∃ depth, expr.doc depth = .group content

/-! ## The groups of a document and the nodes -/

/-- The groups of a document of the expression are these. -/
def HasContents (expr : Expr) (contents : List (Doc TokenStyle)) : Prop :=
  ∃ depth, contents = (expr.doc depth).groupContents

theorem hasContents_operandDoc (wrapped : Bool) (depth : UInt8) (expr : Expr) :
    expr.HasContents (operandDoc wrapped depth expr.doc).groupContents := by
  cases wrapped with
  | false => exact ⟨depth, rfl⟩
  | true => exact ⟨depth + 1, List.append_nil _⟩

theorem forall₂_argumentsDoc? (arguments : List Expr) (depth : UInt8) :
    ∃ parts, List.Forall₂ HasContents arguments parts ∧
      ((argumentsDoc? arguments depth).elim [] Doc.groupContents) = parts.flatten := by
  induction arguments with
  | nil => exact ⟨[], .nil, by simp [argumentsDoc?]⟩
  | cons argument rest ih =>
    obtain ⟨parts, listed, written⟩ := ih
    refine ⟨(argument.doc depth).groupContents :: parts, .cons ⟨depth, rfl⟩ listed, ?_⟩
    rw [argumentsDoc?, List.flatten_cons, ← written]
    cases argumentsDoc? rest depth with
    | none => simp
    | some others => simp [Doc.groupContents, token]

/-- The groups of a node are its own, if it is a combination or a call, and then those of its children
from left to right. -/
theorem groupContents_doc (expr : Expr) (depth : UInt8) :
    ∃ own parts, List.Forall₂ HasGroup ([expr].filter (·.IsBreakable)) own ∧
      List.Forall₂ HasContents expr.children parts ∧
        (expr.doc depth).groupContents = own ++ parts.flatten := by
  cases expr with
  | field name =>
    rw [doc]
    exact ⟨[], [], .nil, .nil, rfl⟩
  | literal value =>
    rw [doc]
    exact ⟨[], [], .nil, .nil, rfl⟩
  | combined operator lhs rhs =>
    refine ⟨[_], [_, _], .cons ⟨depth, by rw [doc]; rfl⟩ .nil,
      .cons (hasContents_operandDoc (needsParentheses lhs operator false) depth lhs)
        (.cons (hasContents_operandDoc (needsParentheses rhs operator true) depth rhs) .nil), ?_⟩
    rw [doc, combinedDoc]
    simp [Doc.groupContents, token]
  | negated operand =>
    refine ⟨[], [_], .nil,
      .cons (hasContents_operandDoc (needsParenthesesNegated operand) depth operand) .nil, ?_⟩
    rw [doc]
    simp [Doc.groupContents, token]
  | call name arguments =>
    obtain ⟨parts, listed, written⟩ := forall₂_argumentsDoc? arguments (depth + 1)
    refine ⟨[_], parts, .cons ⟨depth, by rw [doc]; rfl⟩ .nil, listed, ?_⟩
    rw [doc, ← written]
    unfold callDoc
    cases argumentsDoc? arguments (depth + 1) <;>
      simp [Doc.groupContents, token, openParenthesis, closeParenthesis]

theorem map_child_numbered (visit : Visit Place) :
    (Walk.numbered visit).map (·.1.val) = visit.node.children := by
  have firsts := List.zipIdx_map_fst 0 (Walk.childrenOf visit.node)
  calc (Walk.numbered visit).map (·.1.val)
      = ((Walk.childrenOf visit.node).zipIdx.map Prod.fst).map Subtype.val := by
        rw [Walk.numbered, Walk.eachChild, List.map_map, List.map_map]
        rfl
    _ = visit.node.children := by
        rw [firsts, Walk.childrenOf, List.attach_map_subtype_val]

/-- The combinations and calls of an expression have the groups of its document, in the same order. -/
theorem forall₂_groupContents (expr : Expr) (depth : UInt8) (visited : Nat) (place : Place) :
    List.Forall₂ (fun visit content => visit.node.HasGroup content)
      ((Walk.numbered.unfolding ⟨expr, visited, place⟩).filter (·.node.IsBreakable))
      (expr.doc depth).groupContents := by
  induction expr using induction_children generalizing depth visited place with
  | step expr ih =>
    obtain ⟨own, parts, here, below, written⟩ := groupContents_doc expr depth
    rw [written, Walk.Agenda.unfolding, ← List.singleton_append, List.filter_append,
      List.filter_flatMap, List.flatMap_def]
    refine List.rel_append ?_ (List.rel_flatten ?_)
    · have single : [expr] = [(⟨expr, visited, place⟩ : Visit Place)].map Visit.node := rfl
      rw [single, List.filter_map, List.forall₂_map_left_iff] at here
      exact here
    · rw [List.forall₂_map_left_iff]
      rw [← map_child_numbered ⟨expr, visited, place⟩, List.forall₂_map_left_iff] at below
      refine below.imp ?_
      rintro request _ ⟨inner, rfl⟩
      exact ih request.1.val request.1.property inner _ _

/-! ## The group at a place -/

section Lookup

variable {κ α β : Type} [BEq κ]

/-- What is paired with a key is found under it. -/
theorem exists_lookup_zip [LawfulBEq κ] {related : κ → α → Prop} {keys : List κ} {entries : List α}
    (paired : List.Forall₂ related keys entries) {key : κ} (member : key ∈ keys) :
    ∃ entry ∈ entries, (keys.zip entries).lookup key = some entry ∧ related key entry := by
  induction paired with
  | nil => cases member
  | @cons first entry keys entries here rest ih =>
    rw [List.zip_cons_cons, List.lookup_cons]
    by_cases same : key = first
    · subst same
      exact ⟨entry, List.mem_cons_self .., by simp, here⟩
    · obtain ⟨other, listed, found, shown⟩ := ih ((List.mem_cons.mp member).resolve_left same)
      rw [beq_false_of_ne same]
      exact ⟨other, List.mem_cons_of_mem _ listed, found, shown⟩

theorem exists_of_mem_right {related : α → β → Prop} {entries : List α} {others : List β}
    (paired : List.Forall₂ related entries others) {other : β} (member : other ∈ others) :
    ∃ entry ∈ entries, related entry other := by
  induction paired with
  | nil => cases member
  | cons here rest ih =>
    rcases List.mem_cons.mp member with rfl | later
    · exact ⟨_, List.mem_cons_self .., here⟩
    · obtain ⟨entry, listed, shown⟩ := ih later
      exact ⟨entry, List.mem_cons_of_mem _ listed, shown⟩

/-- Related entries are found under the same keys. -/
theorem lookup_zip_rel {related : α → β → Prop} {entries : List α} {others : List β}
    (paired : List.Forall₂ related entries others) (keys : List κ) (key : κ) :
    Option.Rel related ((keys.zip entries).lookup key) ((keys.zip others).lookup key) := by
  induction paired generalizing keys with
  | nil => simp
  | cons here rest ih =>
    cases keys with
    | nil => exact .none
    | cons first keys =>
      rw [List.zip_cons_cons, List.zip_cons_cons, List.lookup_cons, List.lookup_cons]
      cases key == first with
      | true => exact .some here
      | false => exact ih keys

end Lookup

section BoxAt

variable {expr inner : Expr} {place : Place}

theorem at?_of_mem_unfolding {visit : Visit Place}
    (member : visit ∈ Walk.numbered.unfolding ⟨expr, 0, []⟩) :
    expr.at? visit.input = some visit.node := by
  obtain ⟨way, found, -, same⟩ := Walk.mem_unfolding_numbered.mp member
  obtain rfl : visit.input = way := same
  exact found

theorem mem_breakables :
    place ∈ expr.breakables ↔ ∃ inner, expr.at? place = some inner ∧ inner.IsBreakable := by
  rw [breakables, List.mem_map]
  constructor
  · rintro ⟨visit, member, rfl⟩
    obtain ⟨listed, breakable⟩ := List.mem_filter.mp member
    exact ⟨visit.node, at?_of_mem_unfolding listed, of_decide_eq_true breakable⟩
  · rintro ⟨inner, found, breakable⟩
    refine ⟨⟨inner, 0 + place.length, place⟩, List.mem_filter.mpr ⟨?_, decide_eq_true breakable⟩, rfl⟩
    exact Walk.mem_unfolding_numbered.mpr ⟨place, found, rfl, rfl⟩

/-- The places of the combinations and calls stand beside their groups. -/
theorem forall₂_boxes (expr : Expr) (width : Nat) :
    List.Forall₂ (fun place box => ∃ inner, expr.at? place = some inner ∧ inner.HasGroup box.content)
      expr.breakables ((expr.doc 0).spread width).boxes := by
  have contents : ((expr.doc 0).spread width).boxes.map Box.content = (expr.doc 0).groupContents :=
    Layout.map_content_boxes
  have listed := forall₂_groupContents expr 0 0 []
  rw [← contents, List.forall₂_map_right_iff] at listed
  have there : ∀ visit ∈ (Walk.numbered.unfolding ⟨expr, 0, []⟩).filter (·.node.IsBreakable),
      expr.at? visit.input = some visit.node :=
    fun visit member => at?_of_mem_unfolding (List.mem_filter.mp member).1
  rw [breakables, List.forall₂_map_left_iff]
  refine ((List.forall₂_and_left _ _).mpr ⟨there, listed⟩).imp ?_
  rintro visit box ⟨found, shown⟩
  exact ⟨visit.node, found, shown⟩

/-- At the place of a combination or call stands its group. -/
theorem exists_boxAt? (found : expr.at? place = some inner) (breakable : inner.IsBreakable)
    (width : Nat) :
    ∃ box ∈ ((expr.doc 0).spread width).boxes, expr.boxAt? width place = some box ∧
      inner.HasGroup box.content := by
  have member : place ∈ expr.breakables := mem_breakables.mpr ⟨inner, found, breakable⟩
  obtain ⟨box, listed, looked, other, same, shown⟩ :=
    exists_lookup_zip (forall₂_boxes expr width) member
  obtain rfl := Option.some.inj (found.symm.trans same)
  exact ⟨box, listed, looked, shown⟩

/-- The group of a combination or call has a line end of its own, and takes columns. -/
theorem breaks_of_mem_groupContents {depth : UInt8} {content : Doc TokenStyle}
    (member : content ∈ (expr.doc depth).groupContents) :
    content.breaks = true ∧ 0 < content.lead .flat := by
  obtain ⟨visit, listed, depth', written⟩ :=
    exists_of_mem_right (forall₂_groupContents expr depth 0 []) member
  have breakable := of_decide_eq_true (List.mem_filter.mp listed).2
  have sole := sole_doc .self breakable depth'
  rw [written] at sole
  cases sole with
  | group breaks positive => exact ⟨breaks, positive⟩

end BoxAt

end Hybrid.Expr
