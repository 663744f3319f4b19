import Hybrid.Proofs.Reading.Effects
import Hybrid.Proofs.Reading.Stability
import Hybrid.Proofs.Wrapper.Order

/-! # Stamps tell wrappers apart

A census of a store are the wrappers that were made so far, those that were dropped since included.
Their stamps are numbers that were given out, no two of them share one, and whatever one of them
depends on was made as well. Every read and every reset leaves a store with a census, so in all that
a wrapper depends on equal stamps mean equal wrappers.
-/

namespace Hybrid.Setting

/-- The wrappers that were made so far, among them all that are cached for the family. -/
structure Census (setting : Setting) (made : Wrapper → Prop) (store : Store) : Prop where
  given {wrapper : Wrapper} : made wrapper → wrapper.stamp < store.next
  same {first second : Wrapper} : made first → made second → first.stamp = second.stamp →
    first = second
  sibling {wrapper sibling : Wrapper} : made wrapper → sibling ∈ wrapper.siblings → made sibling
  cached {descriptor : Descriptor} {owner : ClassId} {wrapper : Wrapper} :
    descriptor.In setting.family → store.wrapper? descriptor.id owner = some wrapper → made wrapper

/-- The census of a later store: what was made is still known, and what is cached only now was made
in between. -/
structure Continues (setting : Setting) (made : Wrapper → Prop) (before : Store)
    (all : Wrapper → Prop) (after : Store) : Prop where
  known {wrapper : Wrapper} : made wrapper → all wrapper
  census : setting.Census all after
  recent {descriptor : Descriptor} {owner : ClassId} {wrapper : Wrapper} :
    descriptor.In setting.family → after.wrapper? descriptor.id owner = some wrapper →
      before.wrapper? descriptor.id owner = some wrapper ∨ ¬ made wrapper

/-- The later store has a census that continues that of the earlier one. -/
def Follows (setting : Setting) (made : Wrapper → Prop) (before after : Store) : Prop :=
  ∃ all, setting.Continues made before all after

variable {setting : Setting} {made all more : Wrapper → Prop} {before middle after store : Store}
variable {modelClass : ModelClass} {descriptor : Descriptor}

/-- In the beginning nothing was made. -/
theorem census_start (setting : Setting) : setting.Census (fun _ => False) setting.start where
  given := False.elim
  same := False.elim
  sibling := False.elim
  cached member cached := by
    rw [setting.blank.wrapper member] at cached
    cases cached

/-- Whatever is made, what it depends on was made before. -/
theorem Census.reaches (census : setting.Census made store) {wrapper other : Wrapper}
    (known : made wrapper) (reaches : wrapper.Reaches other) : made other := by
  induction reaches with
  | refl => exact known
  | tail _ depends ih => exact census.sibling ih depends

/-- Stamps tell apart all that a wrapper depends on. -/
theorem Census.distinguished (census : setting.Census made store) {wrapper : Wrapper}
    (known : made wrapper) : wrapper.Distinguished :=
  fun _ _ first second => census.same (census.reaches known first) (census.reaches known second)

namespace Continues

theorem refl (census : setting.Census made store) : setting.Continues made store made store :=
  ⟨id, census, fun _ => .inl⟩

theorem trans (first : setting.Continues made before all middle)
    (second : setting.Continues all middle more after) :
    setting.Continues made before more after where
  known := second.known ∘ first.known
  census := second.census
  recent member cached := by
    rcases second.recent member cached with held | unmade
    · exact first.recent member held
    · exact .inr (unmade ∘ first.known)

/-- Numbers may be given out as long as nothing is cached. -/
theorem congr (continues : setting.Continues made before all middle)
    (wrappers : after.wrappers = middle.wrappers) (next : middle.next ≤ after.next) :
    setting.Continues made before all after where
  known := continues.known
  census := {
    given := fun known => Nat.lt_of_lt_of_le (continues.census.given known) next
    same := continues.census.same
    sibling := continues.census.sibling
    cached := fun member cached =>
      continues.census.cached member (by simpa only [Store.wrapper?, wrappers] using cached) }
  recent member cached :=
    continues.recent member (by simpa only [Store.wrapper?, wrappers] using cached)

/-- What a reset drops was made all the same. -/
theorem resetHybrid (continues : setting.Continues made before all middle) (reset : Descriptor) :
    setting.Continues made before all (middle.resetHybrid reset) := by
  have held {descriptor : Descriptor} {owner : ClassId} {wrapper : Wrapper}
      (cached : (middle.resetHybrid reset).wrapper? descriptor.id owner = some wrapper) :
      middle.wrapper? descriptor.id owner = some wrapper := by
    rw [Store.wrapper?_resetHybrid] at cached
    split at cached
    · cases cached
    · exact cached
  exact ⟨continues.known,
    ⟨continues.census.given, continues.census.same, continues.census.sibling,
      fun member cached => continues.census.cached member (held cached)⟩,
    fun member cached => continues.recent member (held cached)⟩

theorem resetClass (continues : setting.Continues made before all middle) (reset : ModelClass) :
    setting.Continues made before all (middle.resetClass reset) := by
  unfold Store.resetClass
  induction reset.hybrids generalizing middle with
  | nil => exact continues
  | cons hybrid rest ih => exact ih (continues.resetHybrid hybrid.2)

theorem keepValue (continues : setting.Continues made before all middle) (cache : CacheId)
    (key : InstanceId) (value : Stamped Term) :
    setting.Continues made before all (middle.keepValue cache key value).2 := by
  obtain ⟨events, changed⟩ := middle.keepValue_eq cache key value
  rw [changed]
  exact continues.congr rfl (Nat.le_refl _)

/-- A wrapper with a new stamp is made, whether it is kept or another one was cached meanwhile. -/
theorem keepWrapper (continues : setting.Continues made before all middle)
    (member : descriptor.In setting.family) {dependencies : List (String × Wrapper)}
    (siblings : ∀ dependency ∈ dependencies, all dependency.2) (expression : Term)
    (name : String) (owner : ClassId) (ownerName : String) (event : Event) :
    ∃ more, setting.Continues made before more
        ((middle.fresh.2.report event).keepWrapper descriptor.id owner
          (.mk middle.next expression name owner ownerName dependencies)).2 ∧
      more ((middle.fresh.2.report event).keepWrapper descriptor.id owner
        (.mk middle.next expression name owner ownerName dependencies)).1 := by
  generalize new : Wrapper.mk middle.next expression name owner ownerName dependencies = wrapper
  have stamp : wrapper.stamp = middle.next := by rw [← new]; rfl
  have below : ∀ sibling ∈ wrapper.siblings, all sibling := by
    rw [← new]
    exact List.forall_mem_map.mpr siblings
  have unmade {other : Wrapper} (known : all other) : other.stamp < wrapper.stamp :=
    stamp ▸ continues.census.given known
  have returned := (middle.fresh.2.report event).keepWrapper_returns descriptor.id owner wrapper
  obtain ⟨wrappers, changed⟩ :=
    (middle.fresh.2.report event).keepWrapper_eq descriptor.id owner wrapper
  refine ⟨fun other => other = wrapper ∨ all other, ⟨.inr ∘ continues.known, ⟨?given, ?same, ?sibling,
    ?cached⟩, ?recent⟩, ?returned⟩
  case given =>
    rw [changed]
    rintro other (rfl | known)
    · exact stamp ▸ Nat.lt_succ_self _
    · exact Nat.lt_succ_of_lt (continues.census.given known)
  case same =>
    rintro first second (rfl | first) (rfl | second) equal
    · rfl
    · exact absurd equal.symm (Nat.ne_of_lt (unmade second))
    · exact absurd equal (Nat.ne_of_lt (unmade first))
    · exact continues.census.same first second equal
  case sibling =>
    rintro other sibling (rfl | known) depends
    · exact .inr (below sibling depends)
    · exact .inr (continues.census.sibling known depends)
  case cached =>
    intro other otherOwner found memberOther cached
    rcases Store.wrapper?_of_keepWrapper cached with held | ⟨-, -, rfl⟩
    · exact .inr (continues.census.cached memberOther held)
    · exact .inl rfl
  case recent =>
    intro other otherOwner found memberOther cached
    rcases Store.wrapper?_of_keepWrapper cached with held | ⟨-, -, rfl⟩
    · exact continues.recent memberOther held
    · exact .inr fun known => Nat.lt_irrefl _ (unmade (continues.known known))
  case returned =>
    rcases returned with given | held
    · exact .inl given
    · exact .inr (continues.census.cached member held)

end Continues

/-- Whatever the action gives, the store after it has a census that continues the one before. -/
abbrev Counts {α : Type} (setting : Setting) (action : Action α) : Prop :=
  ∀ made store, setting.Census made store →
    action.Ensures store fun _ after => setting.Follows made store after

/-- What the action gives is counted as well. -/
abbrev CountsAll {α : Type} (setting : Setting) (action : Action α)
    (wrappers : α → List Wrapper) : Prop :=
  ∀ made store, setting.Census made store →
    action.Ensures store fun outcome after => ∃ all, setting.Continues made store all after ∧
      ∀ result, outcome = .ok result → ∀ wrapper ∈ wrappers result, all wrapper

theorem CountsAll.counts {α : Type} {action : Action α} {wrappers : α → List Wrapper}
    (counts : setting.CountsAll action wrappers) : setting.Counts action :=
  fun made store census => (counts made store census).mono fun _ _ ⟨all, continues, _⟩ =>
    ⟨all, continues⟩

/-- What an action counts it goes on to count. -/
theorem Counts.preserves {α : Type} {action : Action α} (counts : setting.Counts action)
    (made : Wrapper → Prop) (before : Store) : action.Preserves (setting.Follows made before) := by
  rintro store ⟨all, continues⟩
  exact (counts all store continues.census).mono fun _ _ ⟨more, later⟩ =>
    ⟨more, continues.trans later⟩

theorem Counts.ofPreserves {α : Type} {action : Action α}
    (preserves : ∀ made before, action.Preserves (setting.Follows made before)) :
    setting.Counts action :=
  fun made store census => preserves made store store ⟨made, .refl census⟩

theorem Follows.quiet {before middle after : Store} (quiet : middle.Quiet after)
    (follows : setting.Follows made before middle) : setting.Follows made before after :=
  follows.imp fun _ continues => continues.congr quiet.wrappers quiet.next

/-- How hybrids of the family are read. -/
structure ReadsCount (setting : Setting) (reads : Reads) : Prop where
  ofClass {modelClass : ModelClass} {descriptor : Descriptor} :
    setting.Plays (.onClass modelClass) descriptor →
      setting.CountsAll (reads.ofClass modelClass descriptor) fun wrapper => [wrapper]
  ofInstance {modelClass : ModelClass} {key : InstanceId} {descriptor : Descriptor} :
    setting.Plays (.onInstance modelClass key) descriptor →
      setting.Counts (reads.ofInstance modelClass key descriptor)

section Reads

variable {reads : Reads} {key : InstanceId} (counts : setting.ReadsCount reads)

include counts

/-- Calling any function of the family keeps count. -/
theorem ReadsCount.call {scope : Scope} (playing : setting.Plays scope descriptor) :
    setting.Counts (descriptor.call reads setting.directory scope) := by
  refine .ofPreserves fun made before => ?_
  refine Descriptor.call_preserves (fun _ _ => Follows.quiet) fun leaf member isLeaf => ?_
  have plays {reading : Reading} (aims : setting.directory.target? scope leaf = some reading)
      {sibling : Descriptor}
      (declared : reading.scope.modelClass.attribute? reading.name = some (.hybrid sibling)) :
      setting.Plays reading.scope sibling := by
    have family := family_of_target? playing.1 aims
    exact ⟨family, Descriptor.in_of_attribute? family declared⟩
  refine Body.leaf_preserves (fun _ _ => Follows.quiet) isLeaf ?reset ?ofClass ?ofInstance
  case reset =>
    rintro hybrid rfl store reset ⟨all, continues⟩
    exact ⟨all, continues.resetHybrid reset⟩
  case ofClass =>
    intro owner name aims sibling declared
    exact (counts.ofClass (plays aims declared)).counts.preserves made before
  case ofInstance =>
    intro owner key name aims sibling declared
    exact (counts.ofInstance (plays aims declared)).preserves made before

/-- Resolving names keeps count, and what it returns was made. -/
theorem ReadsCount.resolve (family : setting.family modelClass) (hybrid : String)
    (names : List String) :
    setting.CountsAll (reads.resolve modelClass hybrid names) fun dependencies =>
      dependencies.map (·.2) := by
  induction names with
  | nil =>
    intro made store census
    refine ⟨made, .refl census, fun dependencies same => ?_⟩
    rw [← Except.ok.inj same]
    exact List.forall_mem_nil _
  | cons name rest ih =>
    intro made store census
    unfold Reads.resolve
    cases declared : modelClass.attribute? name with
    | none =>
      refine ⟨made, .refl census, fun dependencies same => ?_⟩
      cases same
    | some kind =>
      cases kind with
      | field =>
        refine Action.ensures_bind.mpr (Action.ensures_report.mpr ?_)
        have reported : setting.Continues made store made
            (store.report (.readsField modelClass.name hybrid name)) :=
          (Continues.refl census).congr rfl (Nat.le_refl _)
        refine (ih made _ reported.census).mono ?_
        rintro outcome after ⟨all, continues, returned⟩
        exact ⟨all, reported.trans continues, returned⟩
      | hybrid sibling =>
        have playing : setting.Plays (.onClass modelClass) sibling :=
          ⟨family, Descriptor.in_of_attribute? family declared⟩
        refine Action.ensures_bind.mpr ((counts.ofClass playing made store census).mono ?_)
        rintro outcome middle ⟨early, begins, first⟩
        cases outcome with
        | error error =>
          refine ⟨early, begins, fun dependencies same => ?_⟩
          cases same
        | ok wrapper =>
          refine Action.ensures_bind_pure.mpr ((ih early middle begins.census).mono ?_)
          rintro outcome after ⟨all, ends, others⟩
          refine ⟨all, begins.trans ends, fun dependencies same => ?_⟩
          cases outcome with
          | error error => cases same
          | ok dependencies =>
            rw [← Except.ok.inj same]
            have here := first wrapper rfl wrapper (List.mem_singleton_self _)
            exact List.forall_mem_cons.mpr ⟨ends.known here, others dependencies rfl⟩

/-- A build keeps count of the wrapper that it makes. -/
theorem ReadsCount.buildWrapper (playing : setting.Plays (.onClass modelClass) descriptor) :
    setting.CountsAll (descriptor.buildWrapper reads setting.directory modelClass) fun wrapper =>
      [wrapper] := by
  intro made store census
  unfold Descriptor.buildWrapper
  refine Action.ensures_bind.mpr ((counts.call playing made store census).mono ?_)
  rintro outcome ran ⟨early, begins⟩
  cases outcome with
  | error error => exact ⟨early, begins, nofun⟩
  | ok term =>
    refine Action.ensures_bind.mpr (Action.ensures_ofStep.mpr (Action.ensures_bind.mpr ?_))
    have asked : setting.Continues made store early (ran.wrap modelClass.registry term).2 :=
      begins.congr rfl (Nat.le_refl _)
    refine (counts.resolve playing.1 descriptor.name _ early _ asked.census).mono ?_
    rintro outcome resolved ⟨all, resolves, siblings⟩
    have continues := asked.trans resolves
    cases outcome with
    | error error => exact ⟨all, continues, nofun⟩
    | ok dependencies =>
      refine Action.ensures_bind.mpr (Action.ensures_ofStep.mpr ?_)
      refine Action.ensures_bind.mpr (Action.ensures_report.mpr (Action.ensures_ofStep.mpr ?_))
      have known : ∀ dependency ∈ dependencies, all dependency.2 :=
        List.forall_mem_map.mp (siblings dependencies rfl)
      obtain ⟨more, kept, returned⟩ := continues.keepWrapper playing.2 known _ descriptor.name
        modelClass.id modelClass.name _
      refine ⟨more, kept, fun wrapper same => ?_⟩
      rw [← Except.ok.inj same]
      exact List.forall_mem_singleton.mpr returned

end Reads

/-- Which hybrids are under evaluation does not matter to a census. -/
theorem Follows.withBuilding (stack : List Frame) (follows : setting.Follows made before store) :
    setting.Follows made before { store with building := stack } :=
  follows.imp fun _ continues => continues.congr rfl (Nat.le_refl _)

/-- Reading a hybrid on a class keeps count. -/
private theorem readClass_counts {room : Nat}
    (counts : setting.ReadsCount (setting.directory.readsWithin room))
    (playing : setting.Plays (.onClass modelClass) descriptor) :
    setting.CountsAll (descriptor.readClass (setting.directory.readsWithin room) setting.directory
      modelClass) fun wrapper => [wrapper] := by
  intro made store census
  unfold Descriptor.readClass
  refine Action.ensures_bind.mpr (Action.ensures_look.mpr ?_)
  dsimp only
  cases hit : store.wrapper? descriptor.id modelClass.id with
  | some wrapper =>
    refine Action.ensures_bind.mpr (Action.ensures_report.mpr ?_)
    refine ⟨made, (Continues.refl census).congr rfl (Nat.le_refl _), fun result same => ?_⟩
    rw [← Except.ok.inj same]
    exact List.forall_mem_singleton.mpr (census.cached playing.2 hit)
  | none =>
    rw [Action.ensures_guarded]
    split
    · exact ⟨made, .refl census, nofun⟩
    · have pushed : setting.Continues made store made { store with
          building := store.building ++ [⟨modelClass.id, none, descriptor.name⟩] } :=
        (Continues.refl census).congr rfl (Nat.le_refl _)
      refine (counts.buildWrapper playing made _ pushed.census).mono ?_
      rintro outcome after ⟨all, continues, returned⟩
      exact ⟨all, (pushed.trans continues).congr rfl (Nat.le_refl _), returned⟩

/-- Reads of the family keep count, however many may be nested. -/
theorem readsCount (setting : Setting) (room : Nat) :
    setting.ReadsCount (setting.directory.readsWithin room) := by
  induction room with
  | zero =>
    exact ⟨fun _ made store census => ⟨made, .refl census, nofun⟩,
      fun _ made store census => ⟨made, .refl census⟩⟩
  | succ room ih =>
    refine ⟨fun playing => readClass_counts ih playing, fun playing => .ofPreserves fun made before => ?_⟩
    refine Descriptor.readInstance_preserves (fun _ _ => Follows.quiet)
      (fun _ stack => Follows.withBuilding stack) ?_ ((ih.call playing).preserves made before)
    rintro store cache value ⟨all, continues⟩
    exact ⟨all, continues.keepValue cache _ value⟩

/-- A class read returns a wrapper that was made. -/
theorem get_counts (family : setting.family modelClass) (name : String) :
    setting.CountsAll (modelClass.get setting.directory name) fun wrapper => [wrapper] := by
  intro made store census
  unfold ModelClass.get Reads.hybridOf
  cases declared : modelClass.attribute? name with
  | none => exact ⟨made, .refl census, nofun⟩
  | some kind =>
    cases kind with
    | field => exact ⟨made, .refl census, nofun⟩
    | hybrid descriptor =>
      have playing : setting.Plays (.onClass modelClass) descriptor :=
        ⟨family, Descriptor.in_of_attribute? family declared⟩
      exact (setting.readsCount _).ofClass playing made store census

theorem getFor_counts (family : setting.family modelClass) (key : InstanceId) (name : String) :
    setting.Counts (modelClass.getFor setting.directory key name) := by
  refine .ofPreserves fun made before => ?_
  refine Reads.attributeOf_preserves (fun _ _ => Follows.quiet) fun descriptor declared => ?_
  have playing : setting.Plays (.onInstance modelClass key) descriptor :=
    ⟨family, Descriptor.in_of_attribute? family declared⟩
  exact ((setting.readsCount _).ofInstance playing).preserves made before

/-- Every access goes on with a census. -/
theorem Census.perform (census : setting.Census made store) {access : Access}
    (within : access.Within setting.family) :
    setting.Follows made store (access.perform setting.directory store) := by
  cases access with
  | ofClass modelClass name => exact (get_counts within name).counts made store census
  | ofInstance modelClass key name => exact getFor_counts within key name made store census
  | reset descriptor => exact ⟨made, (Continues.refl census).resetHybrid descriptor⟩
  | resetClass modelClass =>
    exact ⟨made, (Continues.refl census).resetClass modelClass⟩

/-- A census is continued through every history of reads and resets. -/
theorem Census.through {history : List Access} (census : setting.Census made store)
    (within : ∀ access ∈ history, access.Within setting.family) :
    setting.Follows made store (store.after setting.directory history) := by
  unfold Store.after
  induction history generalizing made store with
  | nil => exact ⟨made, .refl census⟩
  | cons access rest ih =>
    obtain ⟨first, others⟩ := List.forall_mem_cons.mp within
    obtain ⟨all, begins⟩ := census.perform first
    obtain ⟨more, ends⟩ := ih begins.census others
    exact ⟨more, begins.trans ends⟩

/-- After every history, stamps tell apart all that a class read returns. -/
theorem distinguished_of_get {history : List Access}
    (within : ∀ access ∈ history, access.Within setting.family) (family : setting.family modelClass)
    {name : String} {wrapper : Wrapper}
    (read : ((modelClass.get setting.directory name).run
      (setting.start.after setting.directory history)).1 = .ok wrapper) : wrapper.Distinguished := by
  obtain ⟨made, begins⟩ := setting.census_start.through within
  obtain ⟨all, continues, returned⟩ := get_counts family name made _ begins.census
  exact continues.census.distinguished (returned wrapper read wrapper (List.mem_singleton_self _))

end Hybrid.Setting
