import Mathlib
import Hybrid.Proofs.Body.Composed
import Hybrid.Proofs.Reading.Builds
import Hybrid.Proofs.Reading.Cycles
import Hybrid.Proofs.Reading.Growth

/-! # What a failed reading leaves behind

A read can fail at any depth: in a function, at a name that is no attribute, or where a hybrid is
entered again. On its way out it takes off every frame that it put on the build stack. The siblings
that it had built or evaluated by then stay cached, each with its own result, and nothing is cached
for the hybrid that was read.
-/

namespace Hybrid

/-- The hybrids of the class of a scope, in this scope. -/
def Scope.Siblings (scope other : Scope) (descriptor : Descriptor) : Prop :=
  other = scope ∧ ∃ name, scope.modelClass.attribute? name = some (.hybrid descriptor)

/-- The hybrids of the class that is read, in the same scope, apart from the one that is read. -/
def Reading.Others (reading : Reading) (scope : Scope) (descriptor : Descriptor) : Prop :=
  reading.scope.Siblings scope descriptor ∧ reading.hybrid? ≠ some descriptor

section Composed

variable {directory : Directory} {scope : Scope}

/-- A leaf of a composed function reads in its own scope. -/
private theorem scope_of_target? {leaf : Body} {reading : Reading} (basic : leaf.IsBasic)
    (aims : directory.target? scope leaf = some reading) : reading.scope = scope := by
  cases basic with
  | expression expr => cases aims
  | reference name => cases aims
  | read isRead =>
    cases isRead with
    | constant value => cases aims
    | byValue name =>
      obtain rfl := Option.some.inj aims
      rfl
    | byName name =>
      cases scope with
      | onClass modelClass => cases aims
      | onInstance modelClass key =>
        obtain rfl := Option.some.inj aims
        rfl

/-- Composed functions only read siblings in their own scope. -/
theorem Scope.inPlay_siblings (directory : Directory)
    (composed : scope.modelClass.IsComposedOf Body.IsBasic)
    (distinct : DistinctIn (· = scope.modelClass)) : directory.InPlay scope.Siblings where
  noReset := by
    rintro _ descriptor hybrid ⟨rfl, name, declared⟩ member
    have basic := (composed name descriptor declared).of_leaf (fun _ basic => basic) member
    rcases basic with ⟨⟨⟩⟩
  reads := by
    rintro scope descriptor other leaf reading ⟨rfl, name, declared⟩ member aims hybrid
    have basic := (composed name descriptor declared).of_leaf (fun _ basic => basic) member
    have same := scope_of_target? basic aims
    have found := Reading.attribute?_of_hybrid? hybrid
    rw [same] at found
    exact ⟨same, reading.name, found⟩
  siblings := by
    rintro modelClass descriptor sibling name ⟨rfl, -, -⟩ declared
    exact ⟨rfl, name, declared⟩
  distinct := by
    rintro _ _ first second ⟨-, name, declared⟩ ⟨-, other, declaredOther⟩ same
    exact distinct first second (Descriptor.in_of_attribute? rfl declared)
      (Descriptor.in_of_attribute? rfl declaredOther) same

variable {play : Scope → Descriptor → Prop} {reading : Reading} {descriptor : Descriptor}
variable {store : Store}

/-- A read of a hybrid that fails leaves what it would leave with the hybrid under evaluation. -/
theorem Reading.read_fails (inPlay : directory.InPlay play)
    (hybrid : reading.hybrid? = some descriptor) (playing : play reading.scope descriptor) :
    (reading.read directory).Ensures store fun outcome after =>
      ∀ error, outcome = .error error →
        GrowsUnder directory play (reading.frame descriptor) store after := by
  have declared := Reading.attribute?_of_hybrid? hybrid
  obtain ⟨scope, name⟩ := reading
  have grow := inPlay.grow (directory.room scope.modelClass)
  cases scope with
  | onClass modelClass =>
    refine Action.ensures_bind_pure.mpr ?_
    change modelClass.attribute? name = some (.hybrid descriptor) at declared
    unfold ModelClass.get Reads.hybridOf
    dsimp only
    rw [declared]
    refine (grow.ofClass store playing).mono fun outcome after read => ?_
    cases outcome with
    | ok wrapper => exact nofun
    | error error => exact fun _ _ => read
  | onInstance modelClass key =>
    refine Action.ensures_bind_pure.mpr ?_
    change modelClass.attribute? name = some (.hybrid descriptor) at declared
    unfold ModelClass.getFor Reads.attributeOf
    dsimp only
    rw [declared]
    refine (grow.ofInstance store playing).mono fun outcome after read => ?_
    cases outcome with
    | ok value => exact nofun
    | error error => exact fun _ _ => read

end Composed

section Failed

variable {directory : Directory} {reading : Reading} {store after : Store} {error : HybridError}

/-- A failed reading only adds what other hybrids of the class gave in its course. -/
private theorem grows_others (composed : reading.scope.modelClass.IsComposedOf Body.IsBasic)
    (distinct : DistinctIn (· = reading.scope.modelClass))
    (fails : (reading.read directory).run store = (.error error, after)) :
    Grows directory reading.Others store after := by
  have inPlay := reading.scope.inPlay_siblings directory composed distinct
  cases hybrid : reading.hybrid? with
  | none =>
    have grows : (reading.read directory).Growing directory reading.scope.Siblings store :=
      Reading.read_grows inPlay (by simp [hybrid])
    unfold Action.Growing Action.Ensures at grows
    rw [fails] at grows
    exact grows.impose fun _ _ playing _ => ⟨playing, by simp [hybrid]⟩
  | some descriptor =>
    have found := Reading.attribute?_of_hybrid? hybrid
    have failed : (reading.read directory).Ensures store fun outcome after => _ :=
      Reading.read_fails inPlay hybrid ⟨rfl, reading.name, found⟩
    unfold Action.Ensures at failed
    rw [fails] at failed
    -- With the frame of this hybrid on the build stack, nothing is added for it.
    refine ((failed error rfl).impose fun scope other playing outside => ⟨playing, ?_⟩).grows
    intro again
    obtain ⟨rfl, -⟩ := playing
    rw [hybrid] at again
    rw [Option.some.inj again] at outside
    exact outside (List.mem_append_right _ (List.mem_singleton_self _))

/-- A reading of composed hybrids that fails leaves nothing half done, whatever was read before. The
build stack is as it was, and what was cached still is, apart from what dead instances had. All that
is added belongs to other hybrids of the class: the result of a build or an evaluation that was
completed in the course of the reading. For the hybrid that was read no wrapper and no value is
added. -/
theorem Reading.grows_of_error (composed : reading.scope.modelClass.IsComposedOf Body.IsBasic)
    (distinct : DistinctIn (· = reading.scope.modelClass))
    (fails : (reading.read directory).run store = (.error error, after)) :
    Grows directory reading.Others store after ∧
      ∀ failing, reading.hybrid? = some failing →
        (∀ owner wrapper, after.wrapper? failing.id owner = some wrapper →
          store.wrapper? failing.id owner = some wrapper) ∧
        ∀ key value, after.HasValue failing.id key value → store.HasValue failing.id key value := by
  have grows := grows_others composed distinct fails
  refine ⟨grows, fun failing hybrid => ?_⟩
  have other {scope : Scope} {found : Descriptor} (others : reading.Others scope found) :
      found.id ≠ failing.id := by
    obtain ⟨⟨-, name, declared⟩, differs⟩ := others
    intro same
    have declaredFailing := Reading.attribute?_of_hybrid? hybrid
    rw [distinct found failing (Descriptor.in_of_attribute? rfl declared)
      (Descriptor.in_of_attribute? rfl declaredFailing) same] at differs
    exact differs hybrid
  constructor
  · intro owner wrapper cached
    rcases grows.wrapper cached with held | ⟨_, found, -, same, origin⟩
    · exact held
    · exact absurd same (other origin.inPlay)
  · rintro key value ⟨generation, held⟩
    rcases grows.value held with held | ⟨_, found, origin⟩
    · exact ⟨generation, held⟩
    · have same := (CacheId.ofHybrid.inj origin.current).1
      exact absurd same.symm (other origin.inPlay)

end Failed

end Hybrid

namespace Hybrid.Receipt

/-- The price twice. -/
def total : Descriptor :=
  ⟨⟨1⟩, "total", .combine .mul (.byName "price") (.constant (.int 2))⟩

/-- The total by value and a tip, which no receipt has. -/
def due : Descriptor :=
  ⟨⟨2⟩, "due", .combine .add (.byValue "total") (.byValue "tip")⟩

def receipt : ModelClass where
  id := ⟨1⟩
  name := "Receipt"
  attributes := [("price", .field), ("total", .hybrid total), ("due", .hybrid due)]
  registry := Store.sharedRegistry

def directory : Directory := ⟨.empty, .empty, .empty⟩

def onDue : Reading := ⟨.onClass receipt, "due"⟩

/-- The store after the amount due was asked for. -/
def asked : Store := ((onDue.read directory).run .initial).2

private theorem hybrids_receipt : receipt.hybrids = [("total", total), ("due", due)] := rfl

private theorem composed : receipt.IsComposedOf Body.IsBasic := by
  refine .ofHybrids ?_
  rw [hybrids_receipt]
  simp only [List.forall_mem_cons, List.not_mem_nil, IsEmpty.forall_iff, implies_true, and_true]
  exact ⟨.combine .mul (.leaf (.read (.byName _))) (.leaf (.read (.constant _))),
    .combine .add (.leaf (.read (.byValue _))) (.leaf (.read (.byValue _)))⟩

private theorem distinct : DistinctIn (· = receipt) := by
  refine .ofList [total, due] ?_ (by simp [total, due])
  rintro _ rfl
  simp [hybrids_receipt]

private theorem read_due :
    (onDue.read directory).run .initial = (.error (.unknownAttribute "Receipt" "tip"), asked) := by
  have fails : ((onDue.read directory).run .initial).1 =
      .error (.unknownAttribute "Receipt" "tip") := by
    cbv
  exact Prod.ext fails rfl

private theorem total_asked : (asked.wrapper? total.id receipt.id).isSome = true := by
  cbv

/-- The total was built when the tip was missed, and is all that stays. -/
theorem grows_of_error_due :
    (onDue.read directory).run .initial = (.error (.unknownAttribute "Receipt" "tip"), asked) ∧
      (asked.wrapper? total.id receipt.id).isSome = true ∧
      Grows directory onDue.Others .initial asked ∧
      ∀ owner wrapper, asked.wrapper? due.id owner = some wrapper →
        Store.initial.wrapper? due.id owner = some wrapper := by
  have whole : onDue.scope.modelClass.IsComposedOf Body.IsBasic := composed
  obtain ⟨grows, failing⟩ := Reading.grows_of_error whole distinct read_due
  exact ⟨read_due, total_asked, grows, (failing due rfl).1⟩

end Hybrid.Receipt
