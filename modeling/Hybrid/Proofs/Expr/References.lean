import Hybrid.Proofs.Expr.Occurrences
import Hybrid.Proofs.Walk.Turns

/-! # The two questions about references

Which fields an expression refers to is asked in two ways: by a walk that goes through the whole
expression and keeps each name once, and by a walk that looks for one name and clears the queue when
it finds it. Both answer what the occurrences of fields say.
-/

namespace Hybrid.Expr

variable {name : String} {queue : List (Walk.Visit Unit)} {found : Bool}

/-- The walk for a name ends with a hit, if it had one before or if the name occurs in what waits. -/
theorem run_seekReference :
    Walk.run (seekReference name) queue found = true ↔
      found = true ∨ ∃ visit ∈ queue, name ∈ visit.node.occurrences := by
  induction queue, found using Walk.run.induct (seekReference name) with
  | case1 found => simp
  | case2 visit queue found commands after visited ih =>
    rw [Walk.run, visited]
    refine ih.trans ?_
    by_cases hit : visit.node.asField? = some name
    · have occurs : name ∈ visit.node.occurrences := by
        rw [eq_field_of_asField? hit, occurrences]
        exact List.mem_singleton_self name
      obtain ⟨rfl, rfl⟩ : [.clear] = commands ∧ true = after := by
        simpa [seekReference, hit] using visited
      simp [occurs]
    · obtain ⟨rfl, rfl⟩ : Walk.descend visit.node () = commands ∧ found = after := by
        simpa [seekReference, hit] using visited
      have below : name ∈ visit.node.occurrences ↔
          ∃ child ∈ visit.node.children, name ∈ child.occurrences := by
        cases inner : visit.node.asField? with
        | none => rw [occurrences_of_asField? inner, List.mem_flatMap]
        | some other =>
          have apart : name ≠ other := by rintro rfl; exact hit inner
          simp [eq_field_of_asField? inner, occurrences, children, apart]
      simp [Walk.schedule_descend, below, or_and_right, exists_or]

/-- Nothing is visited after a reference to the name. -/
theorem not_mem_dropLast_turnsFrom :
    field name ∉
      ((Walk.turnsFrom (seekReference name) queue found).map (·.visit.node)).dropLast := by
  induction queue, found using Walk.run.induct (seekReference name) with
  | case1 found => simp
  | case2 visit queue found commands after visited ih =>
    rw [Walk.turnsFrom_cons, visited, List.map_cons]
    by_cases hit : visit.node.asField? = some name
    · obtain ⟨rfl, -⟩ : [.clear] = commands ∧ true = after := by
        simpa [seekReference, hit] using visited
      have cleared : Walk.schedule visit [.clear] queue = [] := rfl
      simp [cleared]
    · have other : field name ≠ visit.node := by
        rintro same
        exact hit (by rw [← same]; rfl)
      cases later : (Walk.turnsFrom (seekReference name) (Walk.schedule visit commands queue)
        after).map (·.visit.node) with
      | nil => simp
      | cons next rest =>
        rw [later] at ih
        simp only [List.dropLast_cons_cons, List.mem_cons, not_or]
        exact ⟨other, ih⟩

/-- The two questions are answered rightly and alike. The references of an expression are its
occurrences of fields from left to right, of which the first one of each name is kept. A name is
found exactly if it is among them, and then it is found at the last node that is visited. -/
theorem references_agree (expr : Expr) :
    expr.fieldReferences = expr.occurrences.eraseDups ∧
      ∀ name : String,
        (expr.referencesField name = true ↔ name ∈ expr.fieldReferences) ∧
          field name ∉ ((Walk.visits expr () (seekReference name) false).map (·.node)).dropLast := by
  refine ⟨?_, fun name => ⟨?_, ?_⟩⟩
  · rw [fieldReferences_eq, distinct_eq_eraseDups]
  · unfold referencesField Walk.walk
    rw [run_seekReference, mem_fieldReferences]
    simp
  · rw [Walk.visits_eq, List.map_map]
    exact not_mem_dropLast_turnsFrom

end Hybrid.Expr
