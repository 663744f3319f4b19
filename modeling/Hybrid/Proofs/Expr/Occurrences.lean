import Mathlib.Data.List.Induction
import Hybrid.Expr.References
import Hybrid.Registry
import Hybrid.Proofs.Expr.Structure

/-! # Occurrences of fields

The field references of an expression from left to right, by recursion on its structure. The walk
that collects `fieldReferences` notes exactly these, each once.
-/

namespace Hybrid

namespace Expr

mutual

/-- The fields that an expression refers to, one name for each reference, left to right. -/
def occurrences : Expr → List String
  | .field name => [name]
  | .literal _ => []
  | .combined _ lhs rhs => occurrences lhs ++ occurrences rhs
  | .negated operand => occurrences operand
  | .call _ arguments => occurrencesList arguments

/-- The occurrences in several expressions, one after the other. -/
def occurrencesList : List Expr → List String
  | [] => []
  | expr :: rest => occurrences expr ++ occurrencesList rest

end

theorem occurrencesList_eq (exprs : List Expr) : occurrencesList exprs = exprs.flatMap occurrences := by
  induction exprs with
  | nil => rfl
  | cons expr rest ih => rw [occurrencesList, ih, List.flatMap_cons]

theorem mem_occurrencesList {name : String} {exprs : List Expr} :
    name ∈ occurrencesList exprs ↔ ∃ expr ∈ exprs, name ∈ expr.occurrences := by
  rw [occurrencesList_eq, List.mem_flatMap]

theorem eq_field_of_asField? {expr : Expr} {name : String} (outer : expr.asField? = some name) :
    expr = .field name := by
  cases expr with
  | field other => rw [Option.some.inj outer]
  | _ => cases outer

/-- What is no reference itself refers to the fields of its children. -/
theorem occurrences_of_asField? {expr : Expr} (inner : expr.asField? = none) :
    expr.occurrences = expr.children.flatMap occurrences := by
  cases expr with
  | field name => cases inner
  | literal value => rfl
  | combined operator lhs rhs => simp [occurrences, children]
  | negated operand => simp [occurrences, children]
  | call name arguments => simp [occurrences, children, occurrencesList_eq]

end Expr

/-- Notes a name, unless it is noted already. -/
def note (names : List String) (name : String) : List String :=
  if names.contains name then names else names ++ [name]

theorem mem_foldl_note {name : String} (names seen : List String) :
    name ∈ names.foldl note seen ↔ name ∈ seen ∨ name ∈ names := by
  induction names generalizing seen with
  | nil => simp
  | cons first rest ih =>
    rw [List.foldl_cons, ih, note, List.mem_cons]
    split
    · next noted =>
      have known : first ∈ seen := by simpa using noted
      constructor
      · exact fun present => present.imp_right .inr
      · rintro (present | rfl | present)
        · exact .inl present
        · exact .inl known
        · exact .inr present
    · rw [List.mem_append, List.mem_singleton, or_assoc]

/-- Keeping names once each loses none. -/
theorem mem_distinct {name : String} {names : List String} : name ∈ distinct names ↔ name ∈ names := by
  have noted : distinct names = names.foldl note [] := rfl
  rw [noted, mem_foldl_note]
  simp

theorem nodup_foldl_note (names : List String) {seen : List String} (nodup : seen.Nodup) :
    (names.foldl note seen).Nodup := by
  induction names generalizing seen with
  | nil => exact nodup
  | cons first rest ih =>
    rw [List.foldl_cons, note]
    split
    · exact ih nodup
    · next absent =>
      refine ih (List.nodup_append.mpr ⟨nodup, List.pairwise_singleton _ _, ?_⟩)
      rintro known member other same rfl
      obtain rfl := List.mem_singleton.mp same
      exact absent (by simpa using member)

theorem nodup_distinct (names : List String) : (distinct names).Nodup :=
  nodup_foldl_note names List.nodup_nil

private theorem foldl_note_of_nodup {names seen : List String} (nodup : (seen ++ names).Nodup) :
    names.foldl note seen = seen ++ names := by
  induction names generalizing seen with
  | nil => rw [List.foldl_nil, List.append_nil]
  | cons first rest ih =>
    have absent : first ∉ seen := fun member =>
      (List.nodup_append.mp nodup).2.2 first member first (List.mem_cons_self ..) rfl
    have grouped : seen ++ first :: rest = (seen ++ [first]) ++ rest := by simp
    rw [List.foldl_cons, note, if_neg (by simpa using absent), grouped]
    exact ih (grouped ▸ nodup)

/-- Names that are kept once each stay as they are. -/
theorem distinct_of_nodup {names : List String} (nodup : names.Nodup) : distinct names = names :=
  foldl_note_of_nodup (by simpa using nodup)

/-- A name that was there before is not kept again. -/
theorem distinct_concat_of_mem {names : List String} {name : String} (known : name ∈ names) :
    distinct (names ++ [name]) = distinct names := by
  have kept : name ∈ distinct names := mem_distinct.mpr known
  have last : distinct (names ++ [name]) = note (distinct names) name := List.foldl_append
  rw [last, note, if_pos (by simpa using kept)]

/-- A name that was not there before is kept behind the others. -/
theorem distinct_concat_of_not_mem {names : List String} {name : String} (fresh : name ∉ names) :
    distinct (names ++ [name]) = distinct names ++ [name] := by
  have absent : name ∉ distinct names := mt mem_distinct.mp fresh
  have last : distinct (names ++ [name]) = note (distinct names) name := List.foldl_append
  rw [last, note, if_neg (by simpa using absent)]

/-- To keep names once each is to erase all but the first occurrence of each. -/
theorem distinct_eq_eraseDups (names : List String) : distinct names = names.eraseDups := by
  induction names using List.reverseRecOn with
  | nil => rfl
  | append_singleton names name ih =>
    rw [List.eraseDups_append, ← ih]
    by_cases known : name ∈ names
    · simp [distinct_concat_of_mem known, List.removeAll, known]
    · simp [distinct_concat_of_not_mem known, List.removeAll, known, List.eraseDups_cons]

private theorem foldl_note_of_subset {names seen : List String} (known : names ⊆ seen) :
    names.foldl note seen = seen := by
  induction names with
  | nil => rfl
  | cons name rest ih =>
    rw [List.cons_subset] at known
    rw [List.foldl_cons, note, if_pos (by simpa using known.1)]
    exact ih known.2

/-- Noting the names of a list once each is noting all of them. -/
private theorem foldl_note_distinct (names seen : List String) :
    (distinct names).foldl note seen = names.foldl note seen := by
  induction names using List.reverseRecOn with
  | nil => rfl
  | append_singleton names name ih =>
    by_cases known : name ∈ names
    · have noted : name ∈ names.foldl note seen := (mem_foldl_note names seen).mpr (.inr known)
      rw [distinct_concat_of_mem known, ih, List.foldl_append]
      exact (foldl_note_of_subset (by simpa using noted)).symm
    · rw [distinct_concat_of_not_mem known, List.foldl_append, ih, List.foldl_append]

/-- Where a list is put in the place of each name, it may be kept with its repeats or without. -/
theorem distinct_flatMap_each (names : List String) (put : String → List String) :
    distinct (names.flatMap fun name => distinct (put name)) = distinct (names.flatMap put) := by
  have noted (seen : List String) : (names.flatMap fun name => distinct (put name)).foldl note seen =
      (names.flatMap put).foldl note seen := by
    induction names generalizing seen with
    | nil => rfl
    | cons name rest ih =>
      rw [List.flatMap_cons, List.flatMap_cons, List.foldl_append, List.foldl_append,
        foldl_note_distinct, ih]
  exact noted []

/-- A name that comes again puts in only what was put in before. -/
theorem distinct_flatMap_distinct (names : List String) (put : String → List String) :
    distinct ((distinct names).flatMap put) = distinct (names.flatMap put) := by
  induction names using List.reverseRecOn with
  | nil => rfl
  | append_singleton names name ih =>
    have behind (before : List String) : distinct ((before ++ [name]).flatMap put) =
        (put name).foldl note (distinct (before.flatMap put)) := by
      rw [List.flatMap_append, List.flatMap_singleton]
      exact List.foldl_append
    by_cases known : name ∈ names
    · have again : put name ⊆ distinct (names.flatMap put) := fun other member =>
        mem_distinct.mpr (List.mem_flatMap.mpr ⟨name, known, member⟩)
      rw [distinct_concat_of_mem known, ih, behind, foldl_note_of_subset again]
    · rw [distinct_concat_of_not_mem known, behind, behind, ih]

namespace Walk

/-- Descending puts the children in front of everything that waits. -/
theorem schedule_descend {ι : Type} (visit : Visit ι) (input : ι) (queue : List (Visit ι)) :
    schedule visit (descend visit.node input) queue =
      (visit.node.children.map fun child => ⟨child, visit.depth + 1, input⟩) ++ queue := by
  have scheduled (children : List (Child visit.node)) :
      schedule visit (children.reverse.map (.immediate · input)) queue =
        (children.map fun child => ⟨child.val, visit.depth + 1, input⟩) ++ queue := by
    induction children with
    | nil => rfl
    | cons child rest ih =>
      unfold schedule at ih ⊢
      rw [List.reverse_cons, List.map_append, List.foldl_append, ih]
      rfl
  unfold descend childrenOf
  rw [scheduled]
  congr 1
  exact List.attach_map_val (f := fun child => (⟨child, visit.depth + 1, input⟩ : Visit ι))

end Walk

namespace Expr

/-- The walk notes the occurrences below everything that waits. -/
private theorem run_noteReference (queue : List (Walk.Visit Unit)) (names : List String) :
    Walk.run noteReference queue names =
      (queue.flatMap fun visit => visit.node.occurrences).foldl note names := by
  induction queue, names using Walk.run.induct noteReference with
  | case1 names => rw [Walk.run]; rfl
  | case2 visit queue names commands after visited ih =>
    rw [Walk.run, visited, List.flatMap_cons, List.foldl_append]
    refine ih.trans ?_
    unfold noteReference at visited
    cases inner : visit.node.asField? with
    | some name =>
      have node : visit.node.occurrences = [name] := by
        rw [eq_field_of_asField? inner, occurrences]
      rw [inner] at visited
      obtain ⟨rfl, rfl⟩ := Prod.mk.inj visited
      rw [node]
      rfl
    | none =>
      rw [inner] at visited
      obtain ⟨rfl, rfl⟩ := Prod.mk.inj visited
      rw [Walk.schedule_descend, List.flatMap_append, List.foldl_append, List.flatMap_map,
        occurrences_of_asField? inner]

/-- The field references of an expression are its occurrences, each once. -/
theorem fieldReferences_eq (expr : Expr) : expr.fieldReferences = distinct expr.occurrences := by
  unfold fieldReferences Walk.walk
  rw [run_noteReference]
  simp only [List.flatMap_cons, List.flatMap_nil, List.append_nil]
  rfl

theorem nodup_fieldReferences (expr : Expr) : expr.fieldReferences.Nodup :=
  fieldReferences_eq expr ▸ nodup_distinct expr.occurrences

theorem mem_fieldReferences {expr : Expr} {name : String} :
    name ∈ expr.fieldReferences ↔ name ∈ expr.occurrences := by
  rw [fieldReferences_eq, mem_distinct]

end Expr

end Hybrid
