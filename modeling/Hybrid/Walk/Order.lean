/-! # Replacing work by smaller work

A list of work items shrinks when an item is replaced by any number of smaller ones, wherever they
are put and whatever else is dropped with it. `Shrinks.wellFounded` says that this cannot go on
forever, so it is the measure of loops that schedule more work as they go.
-/

namespace Hybrid.Walk

/-- Some size has become rarer, and no greater size more frequent. -/
def Shrinks (next before : List Nat) : Prop :=
  ∃ size, next.count size < before.count size ∧
    ∀ greater, size < greater → next.count greater ≤ before.count greater

namespace Shrinks

/-- The sizes of the new list are bounded as those of the old one. -/
theorem lt_of_lt {next before : List Nat} {bound : Nat} (step : Shrinks next before)
    (bounded : ∀ size ∈ before, size < bound) : ∀ size ∈ next, size < bound := by
  obtain ⟨size, rarer, rest⟩ := step
  intro other member
  have sizeBounded : size < bound := bounded size (List.count_pos_iff.mp (by omega))
  by_cases order : size < other
  · have := rest other order
    have := List.count_pos_iff.mpr member
    exact bounded other (List.count_pos_iff.mp (by omega))
  · omega

/-- A step that leaves the frequency of the greatest size is a step below it. -/
theorem filter_lt {next before : List Nat} {top : Nat} (step : Shrinks next before)
    (bounded : ∀ size ∈ before, size < top + 1) (same : next.count top = before.count top) :
    Shrinks (next.filter (· < top)) (before.filter (· < top)) := by
  obtain ⟨size, rarer, rest⟩ := step
  have sizeBounded := bounded size (List.count_pos_iff.mp (by omega))
  have below : size < top := by
    by_cases equal : size = top
    · subst equal; omega
    · omega
  refine ⟨size, ?_, ?_⟩
  · rw [List.count_filter (by simpa using below), List.count_filter (by simpa using below)]
    exact rarer
  · intro greater order
    by_cases low : greater < top
    · rw [List.count_filter (by simpa using low), List.count_filter (by simpa using low)]
      exact rest greater order
    · have absent : greater ∉ next.filter (· < top) := by
        intro member
        simp only [List.mem_filter, decide_eq_true_eq] at member
        omega
      rw [List.count_eq_zero.mpr absent]
      omega

/-- A list of sizes below a bound cannot shrink forever. -/
theorem acc_of_lt (bound : Nat) :
    ∀ sizes : List Nat, (∀ size ∈ sizes, size < bound) → Acc Shrinks sizes := by
  induction bound with
  | zero =>
    intro sizes bounded
    refine ⟨_, fun next step => ?_⟩
    obtain ⟨size, rarer, _⟩ := step
    exact absurd (bounded size (List.count_pos_iff.mp (by omega))) (by omega)
  | succ top below =>
    suffices lexicographic : ∀ (frequency : Nat) (low : List Nat), Acc Shrinks low →
        ∀ sizes : List Nat, (∀ size ∈ sizes, size < top + 1) → sizes.count top = frequency →
          sizes.filter (· < top) = low → Acc Shrinks sizes by
      intro sizes bounded
      exact lexicographic _ _
        (below _ fun size member => by simpa using (List.mem_filter.mp member).2)
        sizes bounded rfl rfl
    intro frequency
    induction frequency using Nat.strongRecOn with
    | ind frequency fewer =>
      intro low accessible
      induction accessible with
      | intro low _ lower =>
        rintro sizes bounded rfl rfl
        refine ⟨_, fun next step => ?_⟩
        have nextBounded := step.lt_of_lt bounded
        by_cases same : next.count top = sizes.count top
        · exact lower _ (step.filter_lt bounded same) next nextBounded same rfl
        · have rarer : next.count top < sizes.count top := by
            obtain ⟨size, less, rest⟩ := step
            by_cases order : size < top
            · have := rest top order; omega
            · have := bounded size (List.count_pos_iff.mp (by omega))
              have equal : size = top := by omega
              subst equal; omega
          exact fewer _ rarer _
            (below _ fun size member => by simpa using (List.mem_filter.mp member).2)
            next nextBounded rfl rfl

theorem exists_bound (sizes : List Nat) : ∃ bound, ∀ size ∈ sizes, size < bound := by
  induction sizes with
  | nil => exact ⟨0, by simp⟩
  | cons head rest ih =>
    obtain ⟨bound, below⟩ := ih
    refine ⟨head + bound + 1, List.forall_mem_cons.mpr ⟨by omega, fun size member => ?_⟩⟩
    have := below size member
    omega

theorem wellFounded : WellFounded Shrinks := by
  refine ⟨fun sizes => ?_⟩
  obtain ⟨bound, below⟩ := exists_bound sizes
  exact acc_of_lt bound sizes below

end Shrinks

/-- The sizes of the work that is still to be done, ordered by `Shrinks`. -/
structure Pending where
  sizes : List Nat

instance : WellFoundedRelation Pending :=
  invImage Pending.sizes ⟨Shrinks, Shrinks.wellFounded⟩

end Hybrid.Walk
