import Mathlib.Data.List.Nodup
import Mathlib.Logic.Relation
import Hybrid.Wrapper

/-! # The order of annotation

The order is that of a depth-first search which puts a wrapper out after all that it depends on, and
which knows wrappers by their stamps. Where a stamp tells wrappers apart, what is expanded and not
yet put out is larger than anything below the wrapper at hand, so whatever is met again was put out.
-/

namespace Hybrid.Wrapper

open Relation

/-- The first wrapper depends on the second, or on one that does, or they are the same. -/
def Reaches : Wrapper → Wrapper → Prop :=
  ReflTransGen fun wrapper sibling => sibling ∈ wrapper.siblings

/-- Below a wrapper, itself included, stamps tell wrappers apart. -/
def Distinguished (wrapper : Wrapper) : Prop :=
  ∀ first second, wrapper.Reaches first → wrapper.Reaches second → first.stamp = second.stamp →
    first = second

/-- All that a wrapper of a list depends on stands before it, or was there already. -/
def Ordered : (done : List Wrapper) → List Wrapper → Prop
  | _, [] => True
  | done, wrapper :: rest =>
    (∀ sibling ∈ wrapper.siblings, sibling ∈ done) ∧ Ordered (done ++ [wrapper]) rest

variable {root wrapper other : Wrapper} {done first second : List Wrapper}

theorem ordered_append :
    Ordered done (first ++ second) ↔ Ordered done first ∧ Ordered (done ++ first) second := by
  induction first generalizing done with
  | nil => simp [Ordered]
  | cons wrapper rest ih =>
    rw [List.cons_append, Ordered, Ordered, ih, and_assoc, List.append_assoc]
    rfl

/-- In an ordered list everything is below what it contains. -/
theorem Ordered.closed (ordered : Ordered done first)
    (closed : ∀ wrapper ∈ done, ∀ sibling ∈ wrapper.siblings, sibling ∈ done) :
    ∀ wrapper ∈ done ++ first, ∀ sibling ∈ wrapper.siblings, sibling ∈ done ++ first := by
  induction first generalizing done with
  | nil => simpa using closed
  | cons wrapper rest ih =>
    obtain ⟨here, others⟩ := ordered
    have grown : ∀ other ∈ done ++ [wrapper], ∀ sibling ∈ other.siblings,
        sibling ∈ done ++ [wrapper] := by
      intro other member sibling depends
      refine List.mem_append_left _ ?_
      rcases List.mem_append.mp member with member | member
      · exact closed other member sibling depends
      · obtain rfl := List.mem_singleton.mp member
        exact here sibling depends
    have closedAll := ih others grown
    rwa [List.append_assoc] at closedAll

theorem size_le_sizeList {wrappers : List Wrapper} (member : wrapper ∈ wrappers) :
    wrapper.size ≤ sizeList wrappers := by
  induction wrappers with
  | nil => cases member
  | cons first rest ih =>
    rw [sizeList_cons]
    rcases List.mem_cons.mp member with rfl | member
    · omega
    · have bound := ih member
      omega

theorem size_lt_of_mem_siblings (member : other ∈ wrapper.siblings) : other.size < wrapper.size := by
  have bound := size_le_sizeList member
  rw [size_eq wrapper]
  omega

theorem Reaches.size_le (reaches : wrapper.Reaches other) : other.size ≤ wrapper.size := by
  induction reaches with
  | refl => exact Nat.le_refl _
  | tail _ depends ih => exact Nat.le_of_lt (Nat.lt_of_lt_of_le (size_lt_of_mem_siblings depends) ih)

/-- A wrapper does not depend on itself, however indirectly. -/
theorem not_reaches_of_mem_siblings (member : other ∈ wrapper.siblings) : ¬ other.Reaches wrapper := by
  intro reaches
  have less := size_lt_of_mem_siblings member
  have bound := reaches.size_le
  omega

theorem Reaches.antisymm (reaches : wrapper.Reaches other) (returns : other.Reaches wrapper) :
    wrapper = other := by
  rcases reaches.cases_tail with rfl | ⟨above, begins, member⟩
  · rfl
  · exact absurd (returns.trans begins) (not_reaches_of_mem_siblings member)

section Order

variable {seen middle after : List Nat}

/-- What is seen below the wrapper was put out. -/
def Settled (done : List Wrapper) (seen : List Nat) (wrapper : Wrapper) : Prop :=
  ∀ other, wrapper.Reaches other → other.stamp ∈ seen → other ∈ done

/-- What some tasks put out, and what is seen after them. -/
structure Emits (root : Wrapper) (done : List Wrapper) (seen : List Nat) (order : List Wrapper)
    (after : List Nat) : Prop where
  ordered : Ordered done order
  below : ∀ wrapper ∈ order, root.Reaches wrapper
  marks : ∀ stamp, stamp ∈ after ↔ stamp ∈ seen ∨ ∃ wrapper ∈ order, wrapper.stamp = stamp
  nodup : (order.map Wrapper.stamp).Nodup
  fresh : ∀ wrapper ∈ order, wrapper.stamp ∉ seen

theorem Emits.nil (root : Wrapper) (done : List Wrapper) (seen : List Nat) :
    Emits root done seen [] seen :=
  ⟨trivial, nofun, by simp, List.nodup_nil, nofun⟩

theorem Emits.trans (begins : Emits root done seen first middle)
    (ends : Emits root (done ++ first) middle second after) :
    Emits root done seen (first ++ second) after where
  ordered := ordered_append.mpr ⟨begins.ordered, ends.ordered⟩
  below := List.forall_mem_append.mpr ⟨begins.below, ends.below⟩
  marks stamp := by
    rw [ends.marks, begins.marks]
    simp only [List.mem_append, or_and_right, exists_or, or_assoc]
  nodup := by
    rw [List.map_append]
    refine begins.nodup.append ends.nodup ?_
    intro stamp left right
    obtain ⟨wrapper, member, rfl⟩ := List.mem_map.mp right
    exact ends.fresh wrapper member ((begins.marks _).mpr (.inr (List.mem_map.mp left)))
  fresh := by
    refine List.forall_mem_append.mpr ⟨begins.fresh, fun wrapper member seenBefore => ?_⟩
    exact ends.fresh wrapper member ((begins.marks _).mpr (.inl seenBefore))

/-- What is settled stays so when more is put out. -/
theorem Settled.later (distinguished : root.Distinguished) (reaches : root.Reaches wrapper)
    (settled : Settled done seen wrapper) (emits : Emits root done seen first after) :
    Settled (done ++ first) after wrapper := by
  intro other below met
  rcases (emits.marks _).mp met with before | ⟨same, member, stamps⟩
  · exact List.mem_append_left _ (settled other below before)
  · rw [← distinguished same other (emits.below same member) (reaches.trans below) stamps]
    exact List.mem_append_right _ member

/-- Expanding a wrapper puts it out last, unless it was put out before. -/
def Expands (root wrapper : Wrapper) : Prop :=
  ∀ tasks seen done, Settled done seen wrapper → ∃ order after,
    Wrapper.order (.expand wrapper :: tasks) seen = order ++ Wrapper.order tasks after ∧
      Emits root done seen order after ∧ (wrapper ∈ done ∨ ∃ before, order = before ++ [wrapper])

/-- Wrappers are expanded one after the other. -/
private theorem expands_list (distinguished : root.Distinguished) {wrappers : List Wrapper}
    (reaches : ∀ wrapper ∈ wrappers, root.Reaches wrapper)
    (expands : ∀ wrapper ∈ wrappers, Expands root wrapper) (tasks : List OrderTask) :
    ∀ seen done, (∀ wrapper ∈ wrappers, Settled done seen wrapper) → ∃ order after,
      Wrapper.order (wrappers.map .expand ++ tasks) seen = order ++ Wrapper.order tasks after ∧
        Emits root done seen order after ∧ ∀ wrapper ∈ wrappers, wrapper ∈ done ++ order := by
  induction wrappers with
  | nil => exact fun seen done _ => ⟨[], seen, rfl, .nil root done seen, nofun⟩
  | cons wrapper rest ih =>
    intro seen done settled
    obtain ⟨reachesFirst, reachesRest⟩ := List.forall_mem_cons.mp reaches
    obtain ⟨expandsFirst, expandsRest⟩ := List.forall_mem_cons.mp expands
    obtain ⟨settledFirst, settledRest⟩ := List.forall_mem_cons.mp settled
    obtain ⟨first, middle, runsFirst, emitsFirst, present⟩ :=
      expandsFirst (rest.map .expand ++ tasks) seen done settledFirst
    obtain ⟨second, after, runsRest, emitsRest, others⟩ :=
      ih reachesRest expandsRest middle (done ++ first) fun other member =>
        (settledRest other member).later distinguished (reachesRest other member) emitsFirst
    refine ⟨first ++ second, after, ?_, emitsFirst.trans emitsRest, ?_⟩
    · rw [List.map_cons, List.cons_append, runsFirst, runsRest, List.append_assoc]
    · rw [← List.append_assoc]
      refine List.forall_mem_cons.mpr ⟨List.mem_append_left _ ?_, others⟩
      rcases present with present | ⟨before, rfl⟩
      · exact List.mem_append_left _ present
      · simp

/-- Every wrapper below the root is expanded. -/
theorem expands (distinguished : root.Distinguished) (reaches : root.Reaches wrapper) :
    Expands root wrapper := by
  -- Siblings are smaller, so this is by induction on the size.
  induction bound : wrapper.size using Nat.strongRecOn generalizing wrapper with
  | ind size ih =>
    intro tasks seen done settled
    rw [order]
    split
    · next met =>
      have present := settled wrapper .refl met
      exact ⟨[], seen, rfl, .nil root done seen, .inl present⟩
    · next unmet =>
      have kept {sibling : Wrapper} (member : sibling ∈ wrapper.siblingsExcept (wrapper.stamp :: seen)) :
          sibling ∈ wrapper.siblings := (List.mem_filter.mp member).1
      have below {sibling : Wrapper} (depends : sibling ∈ wrapper.siblings) : root.Reaches sibling :=
        reaches.tail depends
      -- A wrapper below a sibling is smaller than this one, so it has another stamp.
      have differs {sibling other : Wrapper} (depends : sibling ∈ wrapper.siblings)
          (inside : sibling.Reaches other) : other.stamp ≠ wrapper.stamp := by
        intro same
        have equal := distinguished other wrapper ((below depends).trans inside) reaches same
        exact not_reaches_of_mem_siblings depends (equal ▸ inside)
      have settledSibling {sibling : Wrapper} (depends : sibling ∈ wrapper.siblings) :
          Settled done (wrapper.stamp :: seen) sibling := by
        intro other inside met
        rcases List.mem_cons.mp met with same | met
        · exact absurd same (differs depends inside)
        · exact settled other (.head depends inside) met
      obtain ⟨order, after, runs, emits, present⟩ := expands_list distinguished
        (fun sibling member => below (kept member))
        (fun sibling member => ih sibling.size (bound ▸ size_lt_of_mem_siblings (kept member))
          (below (kept member)) rfl)
        (.emit wrapper :: tasks) (wrapper.stamp :: seen) done
        fun sibling member => settledSibling (kept member)
      have complete : ∀ sibling ∈ wrapper.siblings, sibling ∈ done ++ order := by
        intro sibling depends
        by_cases met : sibling.stamp ∈ wrapper.stamp :: seen
        · exact List.mem_append_left _ (settledSibling depends sibling .refl met)
        · exact present sibling (List.mem_filter.mpr ⟨depends, by simpa using met⟩)
      refine ⟨order ++ [wrapper], after, ?_, ⟨?_, ?_, fun stamp => ?_, ?_, ?_⟩, .inr ⟨order, rfl⟩⟩
      · rw [runs, Wrapper.order, List.append_assoc]
        rfl
      · exact ordered_append.mpr ⟨emits.ordered, complete, trivial⟩
      · exact List.forall_mem_append.mpr ⟨emits.below, by simpa using reaches⟩
      · rw [emits.marks]
        simp only [List.mem_append, List.mem_cons, List.not_mem_nil, or_false]
        constructor
        · rintro ((rfl | met) | ⟨other, member, same⟩)
          · exact .inr ⟨wrapper, .inr rfl, rfl⟩
          · exact .inl met
          · exact .inr ⟨other, .inl member, same⟩
        · rintro (met | ⟨other, member | rfl, same⟩)
          · exact .inl (.inr met)
          · exact .inr ⟨other, member, same⟩
          · exact .inl (.inl same.symm)
      · rw [List.map_append, List.map_singleton]
        refine emits.nodup.append (List.nodup_singleton _) ?_
        intro stamp left right
        obtain ⟨other, member, same⟩ := List.mem_map.mp left
        refine emits.fresh other member ?_
        rw [same, List.mem_singleton.mp right]
        exact List.mem_cons_self ..
      · refine List.forall_mem_append.mpr ⟨fun other member met => ?_, by simpa using unmet⟩
        exact emits.fresh other member (List.mem_cons_of_mem _ met)

end Order

/-- The order of annotation contains no wrapper twice, everything below the wrapper, each after all
that it depends on, and the wrapper itself last. -/
theorem annotationOrder_emits (distinguished : wrapper.Distinguished) :
    (∃ before, wrapper.annotationOrder = before ++ [wrapper]) ∧
      Ordered [] wrapper.annotationOrder ∧ (wrapper.annotationOrder.map stamp).Nodup ∧
        ∀ other, other ∈ wrapper.annotationOrder ↔ wrapper.Reaches other := by
  obtain ⟨order, after, runs, emits, last⟩ := expands distinguished .refl [] [] [] nofun
  rw [Wrapper.order, List.append_nil] at runs
  rw [annotationOrder, runs]
  obtain ⟨before, same⟩ : ∃ before, order = before ++ [wrapper] := last.resolve_left List.not_mem_nil
  refine ⟨⟨before, same⟩, emits.ordered, emits.nodup, fun other => ⟨emits.below other, fun reaches => ?_⟩⟩
  have closed := emits.ordered.closed (List.forall_mem_nil _)
  rw [List.nil_append] at closed
  induction reaches with
  | refl => simp [same]
  | tail _ depends ih => exact closed _ ih _ depends

/-- The order of annotation contains at most one wrapper for each hybrid of each class. -/
def ListsOnce (wrapper : Wrapper) : Prop :=
  (wrapper.annotationOrder.map fun other => (other.owner, other.name)).Nodup

/-- Hybrids are listed once if each has one wrapper below. -/
theorem listsOnce_iff (distinguished : wrapper.Distinguished) :
    wrapper.ListsOnce ↔ ∀ first second, wrapper.Reaches first → wrapper.Reaches second →
      first.owner = second.owner → first.name = second.name → first = second := by
  obtain ⟨-, -, stamps, members⟩ := annotationOrder_emits distinguished
  constructor
  · intro once first second reaches reachesAgain owner name
    exact List.inj_on_of_nodup_map once ((members first).mpr reaches)
      ((members second).mpr reachesAgain) (Prod.ext owner name)
  · intro unique
    refine stamps.of_map.map_on fun first member second memberAgain same => ?_
    obtain ⟨owner, name⟩ := Prod.ext_iff.mp same
    exact unique first second ((members first).mp member) ((members second).mp memberAgain) owner name

end Hybrid.Wrapper
