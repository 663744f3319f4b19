import Hybrid.Proofs.Reading.Stamps
import Hybrid.Proofs.Reading.Success

/-! # Hybrids that are listed twice

An order of annotation never contains a wrapper twice, but it may contain two wrappers of one hybrid.
A wrapper keeps the wrappers that it depends on. If a hybrid is reset, and not all that depend on it,
then it has an old wrapper below those that remain, and a new one below those that are built again.
Both stand below a wrapper that leads to both. Resets that leave nothing of the class do no harm, and
neither does any reset where no two hybrids depend on one.
-/

namespace Hybrid

/-- Every wrapper of the class depends on what the class has cached. -/
def Store.LinkedOn (store : Store) (modelClass : ModelClass) : Prop :=
  ∀ name wrapper, store.HasWrapper modelClass name wrapper →
    ∀ dependency ∈ wrapper.dependencies, store.HasWrapper modelClass dependency.1 dependency.2

/-- Resets of the hybrids of the class that have one of the names. -/
def ModelClass.resets (modelClass : ModelClass) (named : String → Bool) : List Access :=
  (modelClass.hybrids.filter fun hybrid => named hybrid.2.name).map fun hybrid => .reset hybrid.2

namespace Store

variable {store : Store} {modelClass : ModelClass} {name : String} {wrapper other : Wrapper}

theorem HasWrapper.unique (has : store.HasWrapper modelClass name wrapper)
    (again : store.HasWrapper modelClass name other) : wrapper = other := by
  obtain ⟨descriptor, declared, cached⟩ := has
  obtain ⟨_, declaredAgain, cachedAgain⟩ := again
  rw [declared] at declaredAgain
  cases declaredAgain
  exact Option.some.inj (cached.symm.trans cachedAgain)

/-- Where wrappers depend on what is cached, they lead to nothing else. -/
theorem LinkedOn.reaches (linked : store.LinkedOn modelClass) (own : modelClass.OwnNames)
    (has : modelClass.Has wrapper) (cached : store.HasWrapper modelClass wrapper.name wrapper)
    (reaches : wrapper.Reaches other) : store.HasWrapper modelClass other.name other := by
  induction reaches with
  | refl => exact cached
  | @tail earlier sibling begins member ih =>
    obtain ⟨dependency, listed, rfl⟩ := List.mem_map.mp member
    rw [((has.reaches own begins).dependency own listed).1]
    exact linked _ _ ih dependency listed

theorem resetClass_eq (store : Store) (directory : Directory) (modelClass : ModelClass) :
    store.resetClass modelClass = store.after directory (modelClass.resets fun _ => true) := by
  unfold resetClass after ModelClass.resets
  rw [List.filter_eq_self.mpr fun _ _ => rfl, List.foldl_map]
  rfl

/-- Resets take the wrappers of their hybrids and leave those of the others. -/
theorem wrapper?_after_resets (directory : Directory) (hybrids : List (String × Descriptor))
    (hybrid : HybridId) (owner : ClassId) :
    (store.after directory (hybrids.map fun hybrid => .reset hybrid.2)).wrapper? hybrid owner =
      if hybrid ∈ hybrids.map (·.2.id) then none else store.wrapper? hybrid owner := by
  induction hybrids generalizing store with
  | nil => rfl
  | cons first rest ih =>
    have begins : store.after directory ((first :: rest).map fun hybrid => .reset hybrid.2) =
        (store.resetHybrid first.2).after directory (rest.map fun hybrid => .reset hybrid.2) := rfl
    rw [begins, ih, wrapper?_resetHybrid, List.map_cons]
    by_cases same : hybrid = first.2.id <;> by_cases member : hybrid ∈ rest.map (·.2.id) <;>
      simp [same, member]

end Store

namespace Setting

variable {setting : Setting} {modelClass : ModelClass} {name : String} {store after : Store}
variable {history : List Access} {wrapper known : Wrapper}

/-- The class read of the attribute that follows a history of the family returns the wrapper. -/
def ReadAfter (setting : Setting) (history : List Access) (modelClass : ModelClass) (name : String)
    (wrapper : Wrapper) : Prop :=
  (∀ access ∈ history, access.Within setting.family) ∧
    ((modelClass.get setting.directory name).run
      (setting.start.after setting.directory history)).1 = .ok wrapper

/-- What is added by reads is linked. -/
theorem hasWrapper_of_grows (family : setting.family modelClass)
    (grows : Grows setting.directory setting.Plays store after)
    (has : after.HasWrapper modelClass name wrapper) :
    store.HasWrapper modelClass name wrapper ∨
      ∀ dependency ∈ wrapper.dependencies, after.HasWrapper modelClass dependency.1 dependency.2 := by
  obtain ⟨descriptor, declared, cached⟩ := has
  rcases grows.wrapper cached with held | ⟨owner, found, sameClass, -, origin⟩
  · exact .inl ⟨descriptor, declared, held⟩
  · obtain rfl := setting.classes owner modelClass origin.inPlay.1 family sameClass
    exact .inr origin.dependencies

theorem linkedOn_of_grows (family : setting.family modelClass)
    (grows : Grows setting.directory setting.Plays store after)
    (linked : store.LinkedOn modelClass) : after.LinkedOn modelClass := by
  intro name wrapper has
  rcases hasWrapper_of_grows family grows has with held | links
  · exact fun dependency member => (linked name wrapper held dependency member).later grows.precedes
  · exact links

theorem linkedOn_start (setting : Setting) (family : setting.family modelClass) :
    setting.start.LinkedOn modelClass := by
  rintro name wrapper ⟨descriptor, declared, cached⟩
  rw [setting.blank.wrapper (Descriptor.in_of_attribute? family declared)] at cached
  cases cached

/-- After resets of some hybrids of a class, it has the wrappers of the others. -/
theorem hasWrapper_resets (own : modelClass.OwnNames) (family : setting.family modelClass)
    (named : String → Bool) :
    (store.after setting.directory (modelClass.resets named)).HasWrapper modelClass name wrapper ↔
      named name = false ∧ store.HasWrapper modelClass name wrapper := by
  have taken {descriptor : Descriptor}
      (declared : modelClass.attribute? name = some (.hybrid descriptor)) :
      descriptor.id ∈ (modelClass.hybrids.filter fun hybrid => named hybrid.2.name).map (·.2.id) ↔
        named name = true := by
    have same : descriptor.name = name := own name descriptor declared
    have member := modelClass.mem_hybrids declared
    constructor
    · intro listed
      obtain ⟨⟨key, other⟩, chosen, equal⟩ := List.mem_map.mp listed
      obtain ⟨memberOther, isNamed⟩ := List.mem_filter.mp chosen
      obtain rfl : other = descriptor := setting.descriptors other descriptor
        ⟨modelClass, family, key, memberOther⟩ ⟨modelClass, family, name, member⟩ equal
      exact same ▸ isNamed
    · intro isNamed
      exact List.mem_map.mpr ⟨_, List.mem_filter.mpr ⟨member, by rw [same, isNamed]⟩, rfl⟩
  constructor
  · rintro ⟨descriptor, declared, cached⟩
    unfold ModelClass.resets at cached
    rw [Store.wrapper?_after_resets] at cached
    split at cached
    · cases cached
    · next outside =>
      exact ⟨Bool.eq_false_iff.mpr fun isNamed => outside ((taken declared).mpr isNamed),
        descriptor, declared, cached⟩
  · rintro ⟨unnamed, descriptor, declared, cached⟩
    refine ⟨descriptor, declared, ?_⟩
    unfold ModelClass.resets
    rw [Store.wrapper?_after_resets, if_neg fun listed => ?_]
    · exact cached
    · rw [(taken declared).mp listed] at unnamed
      cases unnamed

/-- A wrapper that was made and is not cached is never cached again. -/
theorem Continues.not_hasWrapper {made all : Wrapper → Prop}
    (continues : setting.Continues made store all after) (family : setting.family modelClass)
    (known : made wrapper) (absent : ¬ store.HasWrapper modelClass name wrapper) :
    ¬ after.HasWrapper modelClass name wrapper := by
  rintro ⟨descriptor, declared, cached⟩
  rcases continues.recent (Descriptor.in_of_attribute? family declared) cached with held | unmade
  · exact absent ⟨descriptor, declared, held⟩
  · exact unmade known

/-- The later store has what the earlier one had of hybrids that were not reset, and whatever else it
has depends on what it has. -/
structure Rebuilds (modelClass : ModelClass) (reset : String → Prop) (before after : Store) :
    Prop where
  stays {name : String} {wrapper : Wrapper} : ¬ reset name →
    before.HasWrapper modelClass name wrapper → after.HasWrapper modelClass name wrapper
  links {name : String} {wrapper : Wrapper} : after.HasWrapper modelClass name wrapper →
    (¬ reset name ∧ before.HasWrapper modelClass name wrapper) ∨
      ∀ dependency ∈ wrapper.dependencies, after.HasWrapper modelClass dependency.1 dependency.2

namespace Rebuilds

variable {reset : String → Prop} {root fresh left right : Wrapper} {shared : String}
variable (rebuilds : Rebuilds modelClass reset store after)

include rebuilds

/-- What was reset depends on what is cached. -/
theorem links_of_reset (isReset : reset name) (cached : after.HasWrapper modelClass name wrapper) :
    ∀ dependency ∈ wrapper.dependencies, after.HasWrapper modelClass dependency.1 dependency.2 := by
  rcases rebuilds.links cached with ⟨unreset, -⟩ | links
  · exact absurd isReset unreset
  · exact links

variable (composed : modelClass.IsComposedOf Body.IsBasic) (own : modelClass.OwnNames)
variable (hasRoot : modelClass.Has root) (hasFresh : modelClass.Has fresh)
variable (same : root.name = fresh.name)
variable (cachedFresh : after.HasWrapper modelClass root.name fresh)

include composed own hasRoot hasFresh same cachedFresh

/-- Where everything was reset on the way, the way leads to a new wrapper. -/
theorem reaches_renewed
    (resets : ∀ above, root.Reaches above → above.Reaches left → reset above.name)
    (reaches : root.Reaches left) :
    ∃ found, fresh.Reaches found ∧ found.name = left.name ∧
      after.HasWrapper modelClass left.name found := by
  obtain ⟨found, reachesFound, named, cached⟩ := hasRoot.follow composed own
    (fun above found => above.Reaches left → after.HasWrapper modelClass above.name found)
    hasFresh same (fun _ => cachedFresh)
    (fun {above _ _ _} reachesAbove _ member listed named _ walks leads => by
      have leadsAbove : above.Reaches left := .head member leads
      rw [named]
      exact rebuilds.links_of_reset (resets above reachesAbove leadsAbove) (walks leadsAbove) _ listed)
    reaches
  exact ⟨found, reachesFound, named, cached .refl⟩

/-- A way to what was not reset leads to the old wrapper: from some point on all of it is old. -/
theorem reaches_stale (linked : store.LinkedOn modelClass)
    (cachedRoot : store.HasWrapper modelClass root.name root) (unreset : ¬ reset right.name)
    (reaches : root.Reaches right) : fresh.Reaches right := by
  obtain ⟨found, reachesFound, -, known⟩ := hasRoot.follow composed own
    (fun above found => store.HasWrapper modelClass above.name found ∨
      after.HasWrapper modelClass above.name found)
    hasFresh same (.inr cachedFresh)
    (fun _ _ _ listed named _ walks => by
      rw [named]
      rcases walks with held | cached
      · exact .inl (linked _ _ held _ listed)
      · rcases rebuilds.links cached with ⟨-, held⟩ | links
        · exact .inl (linked _ _ held _ listed)
        · exact .inr (links _ listed))
    reaches
  have held := linked.reaches own hasRoot cachedRoot reaches
  obtain rfl : found = right := by
    rcases known with again | cached
    · exact again.unique held
    · exact cached.unique (rebuilds.stays unreset held)
  exact reachesFound

/-- Two hybrids depend on one. If this one is reset, and everything that leads to the first of the
two, then what is built again leads to the new wrapper through the first, and to the old one through
the second. -/
theorem exists_two
    (resets : ∀ name, reset name ↔
      name = shared ∨ ∃ above, root.Reaches above ∧ above.name = name ∧ above.Reaches left)
    (linked : store.LinkedOn modelClass) (cachedRoot : store.HasWrapper modelClass root.name root)
    (reachesLeft : root.Reaches left) (reachesRight : root.Reaches right)
    (apart : ¬ right.Reaches left) (dependsLeft : shared ∈ left.dependencies.map (·.1))
    (dependsRight : shared ∈ right.dependencies.map (·.1)) :
    ∃ stale renewed, fresh.Reaches stale ∧ fresh.Reaches renewed ∧ stale.name = renewed.name ∧
      store.HasWrapper modelClass shared stale ∧ after.HasWrapper modelClass shared renewed := by
  have leading (above : Wrapper) (reaches : root.Reaches above) (leads : above.Reaches left) :
      reset above.name := (resets _).mpr (.inr ⟨above, reaches, rfl, leads⟩)
  obtain ⟨first, reachesFirst, namedFirst, cachedFirst⟩ := rebuilds.reaches_renewed composed own
    hasRoot hasFresh same cachedFresh leading reachesLeft
  have hasFirst := hasFresh.reaches own reachesFirst
  rw [← hasFirst.dependencies_names composed (hasRoot.reaches own reachesLeft) namedFirst]
    at dependsLeft
  obtain ⟨⟨_, renewed⟩, listedRenewed, rfl⟩ := List.mem_map.mp dependsLeft
  obtain ⟨⟨_, stale⟩, listedStale, rfl⟩ := List.mem_map.mp dependsRight
  have hasRight := hasRoot.reaches own reachesRight
  have namedStale := (hasRight.dependency own listedStale).1
  have heldRight := linked.reaches own hasRoot cachedRoot reachesRight
  have unreset : ¬ reset right.name := by
    intro isReset
    rcases (resets _).mp isReset with isShared | ⟨above, reachesAbove, named, leads⟩
    · exact hasRight.name_ne composed own .refl (List.mem_map_of_mem listedStale)
        (namedStale.trans isShared.symm)
    · have heldAbove := linked.reaches own hasRoot cachedRoot reachesAbove
      rw [named] at heldAbove
      exact apart (heldAbove.unique heldRight ▸ leads)
  have reachesOld := rebuilds.reaches_stale composed own hasRoot hasFresh same cachedFresh linked
    cachedRoot unreset reachesRight
  exact ⟨stale, renewed, reachesOld.tail (List.mem_map_of_mem listedStale),
    reachesFirst.tail (List.mem_map_of_mem listedRenewed),
    namedStale.trans (hasFirst.dependency own listedRenewed).1.symm,
    linked _ _ heldRight _ listedStale,
    rebuilds.links_of_reset (leading left reachesLeft .refl) cachedFirst _ listedRenewed⟩

end Rebuilds

section Family

variable (composed : ∀ modelClass, setting.family modelClass → modelClass.IsComposedOf Body.IsBasic)

include composed

/-- After reads, and resets of the class as a whole, wrappers depend on what is cached. -/
theorem linkedOn_after (own : modelClass.OwnNames) (family : setting.family modelClass)
    (within : ∀ access ∈ history, access.Within setting.family)
    (whole : ∀ access ∈ history, access.IsRead ∨ access = .resetClass modelClass)
    (linked : store.LinkedOn modelClass) :
    (store.after setting.directory history).LinkedOn modelClass := by
  unfold Store.after
  induction history generalizing store with
  | nil => exact linked
  | cons access rest ih =>
    obtain ⟨withinFirst, withinRest⟩ := List.forall_mem_cons.mp within
    obtain ⟨wholeFirst, wholeRest⟩ := List.forall_mem_cons.mp whole
    refine ih withinRest wholeRest ?_
    rcases wholeFirst with isRead | rfl
    · exact linkedOn_of_grows family (perform_grows composed access isRead withinFirst store) linked
    · intro name wrapper has
      rw [Access.perform, store.resetClass_eq setting.directory] at has
      cases ((hasWrapper_resets own family _).mp has).1

/-- A class read makes the store grow, and what it returns is cached then. -/
theorem get_grows (family : setting.family modelClass)
    (declared : ∃ descriptor, modelClass.attribute? name = some (.hybrid descriptor))
    (read : ((modelClass.get setting.directory name).run store).1 = .ok wrapper) :
    Grows setting.directory setting.Plays store
        ((modelClass.get setting.directory name).run store).2 ∧
      ((modelClass.get setting.directory name).run store).2.HasWrapper modelClass name wrapper := by
  obtain ⟨descriptor, declared⟩ := declared
  refine ⟨perform_grows composed (.ofClass modelClass name) trivial family store, descriptor,
    declared, ?_⟩
  exact wrapper?_of_get composed family declared (Prod.ext read rfl)

variable (own : ∀ modelClass, setting.family modelClass → modelClass.OwnNames)
variable (standard : ∀ modelClass, setting.family modelClass →
  setting.start.registry modelClass.registry = .standard)

include own standard

/-- What a class read returns is a wrapper of the hybrid. -/
theorem ReadAfter.has (family : setting.family modelClass)
    (read : setting.ReadAfter history modelClass name wrapper) :
    wrapper.name = name ∧ modelClass.Has wrapper ∧
      ∃ descriptor, modelClass.attribute? name = some (.hybrid descriptor) := by
  obtain ⟨descriptor, declared, builds⟩ :=
    builds_of_get composed own standard read.1 family read.2
  obtain ⟨named, has⟩ := ModelClass.Has.ofAttribute (own modelClass family) declared builds
  exact ⟨named, has, descriptor, declared⟩

/-- What can be read after one history can be read after every other. -/
theorem ReadAfter.again (family : setting.family modelClass)
    (read : setting.ReadAfter history modelClass name wrapper) {other : List Access}
    (within : ∀ access ∈ other, access.Within setting.family) :
    ∃ again, setting.ReadAfter other modelClass name again := by
  obtain ⟨-, -, descriptor, declared⟩ := read.has composed own standard family
  have constructs := (exists_get_iff composed own standard read.1 family declared).mp ⟨_, read.2⟩
  obtain ⟨again, reads⟩ :=
    (exists_get_iff composed own standard within family declared).mpr constructs
  exact ⟨again, within, reads⟩

/-- The hybrid is read when nothing is cached. If two hybrids that its wrapper leads to depend on
one, then after some resets the next order of annotation lists this one twice. -/
theorem exists_not_listsOnce {root : Wrapper} (family : setting.family modelClass)
    (first : setting.ReadAfter [] modelClass root.name root) (shares : root.Shares) :
    ∃ later wrapper, setting.ReadAfter later modelClass root.name wrapper ∧ ¬ wrapper.ListsOnce := by
  classical
  have composedClass := composed modelClass family
  have ownNames := own modelClass family
  obtain ⟨-, hasRoot, declared⟩ := first.has composed own standard family
  obtain ⟨left, right, reachesLeft, reachesRight, differ, shared, dependsLeft, dependsRight⟩ := shares
  wlog apart : ¬ right.Reaches left generalizing left right
  · refine this right left reachesRight reachesLeft differ.symm dependsRight dependsLeft ?_
    exact fun leads => differ (congrArg Wrapper.name (leads.antisymm (not_not.mp apart)))
  obtain ⟨grows, cachedRoot⟩ := get_grows composed family declared first.2
  set begun := ((modelClass.get setting.directory root.name).run setting.start).2
  -- Then the shared hybrid is reset, and all that leads to one of the two that depend on it.
  let reset (other : String) : Prop :=
    other = shared ∨ ∃ above, root.Reaches above ∧ above.name = other ∧ above.Reaches left
  let resets := modelClass.resets fun other => decide (reset other)
  have withinResets : ∀ access ∈ resets, access.Within setting.family :=
    List.forall_mem_map.mpr fun _ _ => trivial
  have remains (other : String) (wrapper : Wrapper) :
      (begun.after setting.directory resets).HasWrapper modelClass other wrapper ↔
        ¬ reset other ∧ begun.HasWrapper modelClass other wrapper := by
    rw [hasWrapper_resets ownNames family, decide_eq_false_iff_not]
  obtain ⟨fresh, second⟩ := first.again composed own standard family
    (List.forall_mem_cons.mpr ⟨family, withinResets⟩ :
      ∀ access ∈ Access.ofClass modelClass root.name :: resets, access.Within setting.family)
  obtain ⟨namedFresh, hasFresh, -⟩ := second.has composed own standard family
  obtain ⟨growsAgain, cachedFresh⟩ := get_grows composed family declared second.2
  have rebuilds : Rebuilds modelClass reset begun
      ((modelClass.get setting.directory root.name).run (begun.after setting.directory resets)).2 :=
    ⟨fun unreset held => ((remains _ _).mpr ⟨unreset, held⟩).later growsAgain.precedes,
      fun cached => (hasWrapper_of_grows family growsAgain cached).imp_left (remains _ _).mp⟩
  have linked := linkedOn_of_grows family grows (setting.linkedOn_start family)
  obtain ⟨stale, renewed, reachesStale, reachesRenewed, sameName, held, cached⟩ :=
    rebuilds.exists_two composedClass ownNames hasRoot hasFresh namedFresh.symm cachedFresh
      (fun _ => Iff.rfl) linked cachedRoot reachesLeft reachesRight apart dependsLeft dependsRight
  refine ⟨_, fresh, second, fun once => ?_⟩
  have sameOwner : stale.owner = renewed.owner :=
    (hasFresh.reaches ownNames reachesStale).owner_eq.trans
      (hasFresh.reaches ownNames reachesRenewed).owner_eq.symm
  obtain rfl := (Wrapper.listsOnce_iff (distinguished_of_get second.1 family second.2)).mp once
    stale renewed reachesStale reachesRenewed sameOwner sameName
  -- But the old wrapper was made before the resets, and what was built again was not.
  obtain ⟨made, begins, -⟩ := get_counts family root.name _ _ setting.census_start
  obtain ⟨all, clears⟩ := begins.census.through withinResets
  obtain ⟨more, ends, -⟩ := get_counts family root.name all _ clears.census
  obtain ⟨descriptor, declaredShared, heldShared⟩ := held
  have known : all stale := clears.known
    (begins.census.cached (Descriptor.in_of_attribute? family declaredShared) heldShared)
  exact ends.not_hasWrapper family known (fun has => ((remains _ _).mp has).1 (.inl rfl)) cached

end Family

/-- No order of annotation contains a wrapper twice, whatever functions do and whatever was read and
reset before. Where functions are composed, each hybrid is listed once as long as the class is only
reset as a whole, and after every history exactly if no two hybrids that the read one leads to, itself
included, depend on one. -/
theorem annotationOrder_nodup (family : setting.family modelClass) (name : String) :
    (∀ history wrapper, setting.ReadAfter history modelClass name wrapper →
      (wrapper.annotationOrder.map Wrapper.stamp).Nodup) ∧
    ((∀ modelClass, setting.family modelClass → modelClass.IsComposedOf Body.IsBasic) →
      (∀ modelClass, setting.family modelClass → modelClass.OwnNames) →
      (∀ modelClass, setting.family modelClass →
        setting.start.registry modelClass.registry = .standard) →
      (∀ history wrapper, setting.ReadAfter history modelClass name wrapper →
        (∀ access ∈ history, access.IsRead ∨ access = .resetClass modelClass) →
          wrapper.ListsOnce) ∧
      ∀ history known, setting.ReadAfter history modelClass name known →
        ((∀ later wrapper, setting.ReadAfter later modelClass name wrapper → wrapper.ListsOnce) ↔
          ¬ known.Shares)) := by
  refine ⟨fun history wrapper read => ?stamps, fun composed own standard => ⟨?whole, ?partly⟩⟩
  case stamps =>
    exact (Wrapper.annotationOrder_emits (distinguished_of_get read.1 family read.2)).2.2.1
  case whole =>
    intro history wrapper read whole
    have ownNames := own modelClass family
    obtain ⟨rfl, has, declared⟩ := read.has composed own standard family
    obtain ⟨grows, cached⟩ := get_grows composed family declared read.2
    have linked := linkedOn_of_grows family grows
      (linkedOn_after composed ownNames family read.1 whole (setting.linkedOn_start family))
    refine (Wrapper.listsOnce_iff (distinguished_of_get read.1 family read.2)).mpr ?_
    intro first second reaches reachesAgain _ same
    have held := linked.reaches ownNames has cached reaches
    rw [same] at held
    exact held.unique (linked.reaches ownNames has cached reachesAgain)
  case partly =>
    intro history known read
    have composedClass := composed modelClass family
    have ownNames := own modelClass family
    obtain ⟨named, hasKnown, -⟩ := read.has composed own standard family
    constructor
    · intro once shares
      obtain ⟨root, first⟩ := read.again composed own standard family (List.forall_mem_nil _)
      obtain ⟨rfl, hasRoot, -⟩ := first.has composed own standard family
      obtain ⟨later, wrapper, again, twice⟩ := exists_not_listsOnce composed own standard family first
        (hasKnown.shares composedClass ownNames hasRoot named shares)
      exact twice (once later wrapper again)
    · intro unshared later wrapper again
      obtain ⟨namedAgain, has, -⟩ := again.has composed own standard family
      have unsharedAgain : ¬ wrapper.Shares := fun shares =>
        unshared (has.shares composedClass ownNames hasKnown (namedAgain.trans named.symm) shares)
      refine (Wrapper.listsOnce_iff (distinguished_of_get again.1 family again.2)).mpr ?_
      intro first second reaches reachesAgain _ same
      exact has.eq_of_not_shares composedClass ownNames unsharedAgain reaches reachesAgain same

end Setting

end Hybrid

namespace Hybrid.Invoice

def subtotal : Descriptor :=
  ⟨⟨1⟩, "subtotal", .byName "amount"⟩

def fee : Descriptor :=
  ⟨⟨2⟩, "fee", .combine .mul (.byName "subtotal") (.constant (.int 2))⟩

def total : Descriptor :=
  ⟨⟨3⟩, "total", .combine .add (.byName "subtotal") (.byName "fee")⟩

def invoice : ModelClass where
  id := ⟨1⟩
  name := "Invoice"
  attributes := [("amount", .field), ("subtotal", .hybrid subtotal), ("fee", .hybrid fee),
    ("total", .hybrid total)]
  registry := Store.sharedRegistry

private theorem hybrids_invoice :
    invoice.hybrids = [("subtotal", subtotal), ("fee", fee), ("total", total)] := rfl

def setting : Setting where
  family modelClass := modelClass = invoice
  directory := ⟨.empty, .empty, .empty⟩
  start := Store.initial
  listed _ _ found := nomatch found
  classes := by
    rintro _ _ rfl rfl _
    rfl
  descriptors := by
    refine .ofList [subtotal, fee, total] ?_ (by simp [subtotal, fee, total])
    rintro _ rfl
    simp [hybrids_invoice]
  blank := .ofEmpty rfl rfl rfl _

theorem composed : ∀ modelClass, setting.family modelClass →
    modelClass.IsComposedOf Body.IsBasic := by
  have name {name : String} : Body.Composed (.byName name) := .leaf (.read (.byName name))
  have number {value : Int64} : Body.Composed (.constant (.int value)) := .leaf (.read (.constant _))
  rintro _ rfl
  refine .ofHybrids ?_
  rw [hybrids_invoice]
  simp only [List.forall_mem_cons, List.not_mem_nil, IsEmpty.forall_iff, implies_true, and_true]
  exact ⟨name, .combine _ name number, .combine _ name name⟩

theorem ownNames : ∀ modelClass, setting.family modelClass → modelClass.OwnNames := by
  rintro _ rfl
  refine .ofHybrids ?_
  simp [hybrids_invoice, subtotal, fee, total]

theorem standard : ∀ modelClass, setting.family modelClass →
    setting.start.registry modelClass.registry = .standard := by
  rintro _ rfl
  rfl

/-- The subtotal with its stamp. -/
def subtotalAt (stamp : Nat) : Wrapper :=
  .mk stamp (.symbolic (.field "amount")) "subtotal" ⟨1⟩ "Invoice" []

/-- The fee as it was read at first. -/
def firstFee : Wrapper :=
  .mk 2 (.symbolic (.combined .mul (.field "subtotal") (.literal (.int 2)))) "fee" ⟨1⟩ "Invoice"
    [("subtotal", subtotalAt 1)]

/-- The total with its stamp, over the fee and a subtotal. -/
def totalAt (stamp : Nat) (subtotal : Wrapper) : Wrapper :=
  .mk stamp (.symbolic (.combined .add (.field "subtotal") (.field "fee"))) "total" ⟨1⟩ "Invoice"
    [("subtotal", subtotal), ("fee", firstFee)]

/-- The total is read, and the subtotal and the total are reset. -/
def history : List Access :=
  [.ofClass invoice "total", .reset subtotal, .reset total]

theorem within : ∀ access ∈ history, access.Within setting.family := by
  simp [history, Access.Within, setting]

theorem get_total : ((invoice.get setting.directory "total").run
    (setting.start.after setting.directory history)).1 = .ok (totalAt 5 (subtotalAt 4)) := by
  cbv

/-- What the order of annotation of the total contains that is read again. -/
private theorem listed_total :
    (totalAt 5 (subtotalAt 4)).annotationOrder.map (fun other => (other.owner, other.name)) =
      [(⟨1⟩, "subtotal"), (⟨1⟩, "subtotal"), (⟨1⟩, "fee"), (⟨1⟩, "total")] := by
  cbv

/-- The order of annotation of the total that is read again lists the subtotal twice. -/
theorem not_listsOnce_total :
    ∃ wrapper, setting.ReadAfter history invoice "total" wrapper ∧ ¬ wrapper.ListsOnce := by
  refine ⟨totalAt 5 (subtotalAt 4), ⟨within, get_total⟩, ?_⟩
  rw [Wrapper.ListsOnce, listed_total]
  decide

/-- The fee and the total both depend on the subtotal, so by the theorem some history makes the total
list a hybrid twice. No history makes it list a wrapper twice, and until something of the class is
reset apart from the rest it lists each hybrid once. -/
theorem annotationOrder_nodup_total :
    ((totalAt 5 (subtotalAt 4)).annotationOrder.map Wrapper.stamp).Nodup ∧
      (totalAt 3 (subtotalAt 1)).ListsOnce ∧
      ¬ ∀ later wrapper, setting.ReadAfter later invoice "total" wrapper → wrapper.ListsOnce := by
  have family : setting.family invoice := rfl
  obtain ⟨stamps, composedOnly⟩ := Setting.annotationOrder_nodup family "total"
  obtain ⟨whole, partly⟩ := composedOnly composed ownNames standard
  have first : setting.ReadAfter [] invoice "total" (totalAt 3 (subtotalAt 1)) :=
    ⟨List.forall_mem_nil _, by cbv⟩
  have depends : firstFee ∈ (totalAt 3 (subtotalAt 1)).siblings :=
    List.mem_cons_of_mem _ (List.mem_cons_self ..)
  have shares : (totalAt 3 (subtotalAt 1)).Shares :=
    ⟨_, firstFee, .refl, .single depends, by decide, "subtotal", List.mem_cons_self ..,
      List.mem_cons_self ..⟩
  exact ⟨stamps history _ ⟨within, get_total⟩, whole [] _ first (List.forall_mem_nil _),
    fun once => (partly [] _ first).mp once shares⟩

end Hybrid.Invoice
