import Hybrid.Proofs.Store.Growth

/-! # An instance cache among the instances of a program

An instance cache knows an instance by its address alone, and an address is given out again once
nothing refers to it any more. A `Memory` is a cache together with what is around it: the instances
that are alive, and the instance on which the entry of each address has a handle. An address is not
given out again while an entry has a handle on it, so at the address of a live instance there is no
entry but its own. Therefore the cache serves a live instance what was first inserted for it, in
every run, and its size is bounded by the number of live instances that had entries at once.
-/

namespace Hybrid

namespace InstanceCache

/-- Adds a value for an instance after the purge that may be due. -/
def insert (cache : InstanceCache) (alive : InstanceId → Bool) (key : InstanceId)
    (value : Stamped Term) : InstanceCache × Stamped Term :=
  (cache.purgeIfDue alive).1.add key value

variable {cache : InstanceCache} {alive : InstanceId → Bool} {key other : InstanceId}

theorem add_snd_eq (value : Stamped Term) :
    (cache.add key value).2 = (cache.find? key).getD value := by
  unfold add
  cases cache.find? key <;> rfl

/-- A purge leaves a key alone that has an entry only if it is alive. -/
theorem find?_purge_of_alive (lives : cache.find? key ≠ none → alive key = true) :
    (cache.purge alive).1.find? key = cache.find? key := by
  rw [find?_purge]
  by_cases held : cache.find? key = none
  · rw [held, ite_self]
  · rw [if_pos (lives held)]

/-- So does a purge that may be due. -/
theorem find?_purgeIfDue_of_alive (lives : cache.find? key ≠ none → alive key = true) :
    (cache.purgeIfDue alive).1.find? key = cache.find? key := by
  by_cases held : cache.find? key = none
  · rw [held, Option.eq_none_iff_forall_ne_some]
    intro value left
    rw [find?_of_purgeIfDue left] at held
    cases held
  · exact find?_purgeIfDue (lives held)

theorem size_purge_le (cache : InstanceCache) (alive : InstanceId → Bool) :
    (cache.purge alive).1.size ≤ cache.size :=
  List.length_filter_le _ _

theorem size_add_le (cache : InstanceCache) (key : InstanceId) (value : Stamped Term) :
    (cache.add key value).1.size ≤ cache.size + 1 := by
  unfold add
  cases cache.find? key with
  | some held => exact Nat.le_succ _
  | none => simp [size]

theorem purgeAt_add (cache : InstanceCache) (key : InstanceId) (value : Stamped Term) :
    (cache.add key value).1.purgeAt = cache.purgeAt := by
  unfold add
  cases cache.find? key <;> rfl

/-- Either no purge was due, or the entries of live instances are left and have room to double. -/
theorem purgeIfDue_cases (cache : InstanceCache) (alive : InstanceId → Bool) :
    (cache.size < max cache.purgeAt minimumPurge ∧ (cache.purgeIfDue alive).1 = cache) ∨
      ((cache.purgeIfDue alive).1.size = (cache.living alive).length ∧
        (cache.purgeIfDue alive).1.purgeAt =
          max (2 * (cache.living alive).length) minimumPurge) := by
  unfold purgeIfDue
  split
  · next below => exact .inl ⟨below, rfl⟩
  · exact .inr ⟨rfl, rfl⟩

/-- After an insertion there are no more entries than when a purge is due. -/
theorem size_insert_le (cache : InstanceCache) (alive : InstanceId → Bool) (key : InstanceId)
    (value : Stamped Term) :
    (cache.insert alive key value).1.size ≤
      max (cache.insert alive key value).1.purgeAt minimumPurge := by
  unfold insert
  have grows := (cache.purgeIfDue alive).1.size_add_le key value
  rw [purgeAt_add]
  rcases cache.purgeIfDue_cases alive with ⟨below, same⟩ | ⟨left, next⟩
  · rw [same] at grows ⊢
    omega
  · rw [next]
    simp only [minimumPurge] at *
    omega

/-- An insertion moves the number at which a purge is due only to twice the live entries. -/
theorem purgeAt_insert (cache : InstanceCache) (alive : InstanceId → Bool) (key : InstanceId)
    (value : Stamped Term) :
    (cache.insert alive key value).1.purgeAt = cache.purgeAt ∨
      (cache.insert alive key value).1.purgeAt =
        max (2 * (cache.living alive).length) minimumPurge := by
  unfold insert
  rw [purgeAt_add]
  rcases cache.purgeIfDue_cases alive with ⟨-, same⟩ | ⟨-, next⟩
  · exact .inl (by rw [same])
  · exact .inr next

end InstanceCache

/-- What a store keeps goes through the insertion into its cache, and so does what it returns. -/
theorem Store.keepValue_insert (store : Store) (id : CacheId) (key : InstanceId)
    (value : Stamped Term) :
    ((store.keepValue id key value).2.cache id, (store.keepValue id key value).1) =
      (store.cache id).insert store.isAlive key value := by
  refine Prod.ext ?_ (store.keepValue_fst id value)
  unfold Store.cache
  rw [keepValue_caches, Table.get?_put, if_pos rfl, Option.getD_some]
  rfl

/-- An instance: where it is, and a number that no other instance has. -/
structure Resident where
  address : InstanceId
  number : Nat
  deriving DecidableEq

/-- An instance cache and the instances around it. -/
structure Memory where
  cache : InstanceCache
  /-- The instances that are alive. -/
  live : List Resident
  /-- The instance on which the entry of an address has a handle. -/
  handles : Table InstanceId Resident
  /-- The number of the next instance. -/
  next : Nat

namespace Memory

/-- A step of a program that creates and drops instances and uses one cache for them. -/
inductive Step where
  | create (address : InstanceId)
  | drop (resident : Resident)
  | insert (resident : Resident) (value : Stamped Term)
  | get (resident : Resident)
  | purge

/-- The instance that a step asks the cache for. -/
def Step.asks? : Step → Option Resident
  | .insert resident _ | .get resident => some resident
  | _ => none

/-- The value that a step inserts for an instance. -/
def Step.given? (resident : Resident) : Step → Option (Stamped Term)
  | .insert other value => if other = resident then some value else none
  | _ => none

/-- The value of the first insertion for an instance. -/
def firstInsert (resident : Resident) (steps : List Step) : Option (Stamped Term) :=
  steps.findSome? (·.given? resident)

/-- The memory before anything is created. -/
def initial : Memory := ⟨.empty, [], .empty, 0⟩

/-- Whether the entry of an address has a handle on a live instance. -/
def isAlive (memory : Memory) (address : InstanceId) : Bool :=
  (memory.handles.get? address).any (· ∈ memory.live)

/-- The entries of live instances. -/
def living (memory : Memory) : List CacheEntry :=
  memory.cache.living memory.isAlive

/-- What the cache answers in a step. -/
def answer (memory : Memory) : Step → Option (Stamped Term)
  | .insert resident value =>
    some (memory.cache.insert memory.isAlive resident.address value).2
  | .get resident => memory.cache.get? memory.isAlive resident.address
  | _ => none

/-- The memory after a step. A new entry has a handle on the instance that it was made for. -/
def step (memory : Memory) : Step → Memory
  | .create address =>
    { memory with live := ⟨address, memory.next⟩ :: memory.live, next := memory.next + 1 }
  | .drop resident => { memory with live := memory.live.filter (· ≠ resident) }
  | .insert resident value =>
    let handles :=
      match (memory.cache.purgeIfDue memory.isAlive).1.find? resident.address with
      | some _ => memory.handles
      | none => memory.handles.put resident.address resident
    { memory with
      cache := (memory.cache.insert memory.isAlive resident.address value).1
      handles }
  | .get _ => memory
  | .purge => { memory with cache := (memory.cache.purge memory.isAlive).1 }

/-- The memory after some steps. -/
def run (memory : Memory) (steps : List Step) : Memory :=
  steps.foldl step memory

/-- The memory after some steps of a new program. -/
def after (steps : List Step) : Memory :=
  initial.run steps

/-- Whether a step can be taken: only live instances are used, and an address is given out only
where there is no live instance and no entry with a handle on one that was. -/
def Allows (memory : Memory) : Step → Prop
  | .create address =>
    (∀ resident ∈ memory.live, resident.address ≠ address) ∧ memory.cache.find? address = none
  | .drop resident | .insert resident _ | .get resident => resident ∈ memory.live
  | .purge => True

instance (memory : Memory) (step : Step) : Decidable (memory.Allows step) :=
  match step with
  | .create _ => inferInstanceAs (Decidable (_ ∧ _))
  | .drop _ => inferInstanceAs (Decidable (_ ∈ _))
  | .insert _ _ => inferInstanceAs (Decidable (_ ∈ _))
  | .get _ => inferInstanceAs (Decidable (_ ∈ _))
  | .purge => isTrue trivial

/-- Whether some steps can be taken one after the other. -/
def Permits (memory : Memory) : List Step → Prop
  | [] => True
  | step :: rest => memory.Allows step ∧ (memory.step step).Permits rest

/-- Runs can be tested. -/
instance decidablePermits (memory : Memory) : (steps : List Step) → Decidable (memory.Permits steps)
  | [] => isTrue trivial
  | step :: rest =>
    have := decidablePermits (memory.step step) rest
    inferInstanceAs (Decidable (_ ∧ _))

/-- The greatest number of entries of live instances before, between and after some steps. -/
def peak (memory : Memory) : List Step → Nat
  | [] => memory.living.length
  | step :: rest => max memory.living.length ((memory.step step).peak rest)

variable {memory : Memory} {past steps : List Step} {resident other : Resident}

section FirstInsert

theorem firstInsert_append :
    firstInsert resident (past ++ steps) =
      (firstInsert resident past).or (firstInsert resident steps) :=
  List.findSome?_append

/-- A step that inserts nothing for an instance does not matter for it. -/
theorem firstInsert_of_given?_eq_none {step : Step} (nothing : step.given? resident = none) :
    firstInsert resident (past ++ [step]) = firstInsert resident past := by
  have last : firstInsert resident [step] = none := by simp [firstInsert, nothing]
  rw [firstInsert_append, last, Option.or_none]

theorem firstInsert_insert (value : Stamped Term) :
    firstInsert resident (past ++ [.insert resident value]) =
      some ((firstInsert resident past).getD value) := by
  have last : firstInsert resident [.insert resident value] = some value := by
    simp [firstInsert, Step.given?]
  rw [firstInsert_append, last]
  cases firstInsert resident past <;> rfl

theorem mem_of_firstInsert {value : Stamped Term}
    (first : firstInsert resident steps = some value) : .insert resident value ∈ steps := by
  obtain ⟨step, member, given⟩ := List.exists_of_findSome?_eq_some first
  cases step with
  | insert target held =>
    simp only [Step.given?, Option.ite_none_right_eq_some, Option.some.injEq] at given
    obtain ⟨rfl, rfl⟩ := given
    exact member
  | _ => cases given

end FirstInsert

/-- The cache holds of the live instances what the past steps first inserted for them. -/
structure Tracks (memory : Memory) (past : List Step) : Prop where
  numbered : ∀ resident ∈ memory.live, resident.number < memory.next
  /-- Nothing was inserted for instances that are still to come. -/
  unborn {resident : Resident} : memory.next ≤ resident.number → firstInsert resident past = none
  apart : ∀ resident ∈ memory.live, ∀ other ∈ memory.live,
    resident.address = other.address → resident = other
  held : ∀ resident ∈ memory.live,
    memory.cache.find? resident.address = firstInsert resident past
  /-- The entry at the address of a live instance is its own. -/
  handle : ∀ resident ∈ memory.live, memory.cache.find? resident.address ≠ none →
    memory.handles.get? resident.address = some resident

namespace Tracks

theorem initial : Memory.initial.Tracks [] :=
  ⟨nofun, fun _ => rfl, nofun, nofun, nofun⟩

/-- An entry at the address of a live instance counts as alive. -/
theorem isAlive (tracks : memory.Tracks past) (lives : resident ∈ memory.live)
    (held : memory.cache.find? resident.address ≠ none) :
    memory.isAlive resident.address = true := by
  unfold Memory.isAlive
  rw [tracks.handle resident lives held, Option.any_some]
  exact decide_eq_true lives

theorem find?_purge (tracks : memory.Tracks past) (lives : resident ∈ memory.live) :
    (memory.cache.purge memory.isAlive).1.find? resident.address =
      memory.cache.find? resident.address :=
  InstanceCache.find?_purge_of_alive (tracks.isAlive lives)

theorem find?_purgeIfDue (tracks : memory.Tracks past) (lives : resident ∈ memory.live) :
    (memory.cache.purgeIfDue memory.isAlive).1.find? resident.address =
      memory.cache.find? resident.address :=
  InstanceCache.find?_purgeIfDue_of_alive (tracks.isAlive lives)

theorem answer_get (tracks : memory.Tracks past) (lives : resident ∈ memory.live) :
    memory.answer (.get resident) = firstInsert resident past := by
  rw [← tracks.held resident lives]
  simp only [answer, InstanceCache.get?]
  by_cases held : memory.cache.find? resident.address = none
  · rw [held, ite_self]
  · rw [if_pos (tracks.isAlive lives held)]

theorem insert_snd (tracks : memory.Tracks past) (lives : resident ∈ memory.live)
    (value : Stamped Term) :
    (memory.cache.insert memory.isAlive resident.address value).2 =
      (firstInsert resident past).getD value := by
  unfold InstanceCache.insert
  rw [InstanceCache.add_snd_eq, tracks.find?_purgeIfDue lives, tracks.held resident lives]

/-- A step that leaves the cache and the instances alone and inserts nothing. -/
theorem quiet (tracks : memory.Tracks past) {step : Step}
    (nothing : ∀ resident, step.given? resident = none) : memory.Tracks (past ++ [step]) where
  numbered := tracks.numbered
  unborn later := by rw [firstInsert_of_given?_eq_none (nothing _), tracks.unborn later]
  apart := tracks.apart
  held resident lives := by
    rw [firstInsert_of_given?_eq_none (nothing _), tracks.held resident lives]
  handle := tracks.handle

/-- A new instance has no entry, as nothing is at its address. -/
theorem create (tracks : memory.Tracks past) {address : InstanceId}
    (allowed : memory.Allows (.create address)) :
    (memory.step (.create address)).Tracks past := by
  obtain ⟨vacant, absent⟩ := allowed
  constructor
  case numbered =>
    intro resident lives
    simp only [step, List.mem_cons] at lives ⊢
    rcases lives with rfl | lives
    · exact Nat.lt_succ_self _
    · exact Nat.lt_succ_of_lt (tracks.numbered resident lives)
  case unborn =>
    intro resident later
    exact tracks.unborn (Nat.le_of_succ_le later)
  case apart =>
    intro resident lives other livesOther same
    simp only [step, List.mem_cons] at lives livesOther
    rcases lives with rfl | lives <;> rcases livesOther with rfl | livesOther
    · rfl
    · exact absurd same.symm (vacant other livesOther)
    · exact absurd same (vacant resident lives)
    · exact tracks.apart resident lives other livesOther same
  case held =>
    intro resident lives
    simp only [step, List.mem_cons] at lives ⊢
    rcases lives with rfl | lives
    · exact absent.trans (tracks.unborn (Nat.le_refl _)).symm
    · exact tracks.held resident lives
  case handle =>
    intro resident lives held
    simp only [step, List.mem_cons] at lives held ⊢
    rcases lives with rfl | lives
    · exact absurd absent held
    · exact tracks.handle resident lives held

/-- An instance that is dropped leaves its entry behind. -/
theorem drop (tracks : memory.Tracks past) (gone : Resident) :
    (memory.step (.drop gone)).Tracks past where
  numbered resident lives := tracks.numbered resident (List.mem_of_mem_filter lives)
  unborn := tracks.unborn
  apart resident lives other livesOther :=
    tracks.apart resident (List.mem_of_mem_filter lives) other (List.mem_of_mem_filter livesOther)
  held resident lives := tracks.held resident (List.mem_of_mem_filter lives)
  handle resident lives := tracks.handle resident (List.mem_of_mem_filter lives)

theorem purge (tracks : memory.Tracks past) : (memory.step .purge).Tracks past where
  numbered := tracks.numbered
  unborn := tracks.unborn
  apart := tracks.apart
  held resident lives := (tracks.find?_purge lives).trans (tracks.held resident lives)
  handle resident lives held :=
    tracks.handle resident lives (ne_of_eq_of_ne (tracks.find?_purge lives).symm held)

/-- An insertion gives an instance its first value, and takes nothing from the others. -/
theorem insert (tracks : memory.Tracks past) (lives : resident ∈ memory.live)
    (value : Stamped Term) :
    (memory.step (.insert resident value)).Tracks (past ++ [.insert resident value]) := by
  have differs {other : Resident} (livesOther : other ∈ memory.live) (differ : other ≠ resident) :
      other.address ≠ resident.address :=
    fun same => differ (tracks.apart other livesOther resident lives same)
  have others {other : Resident} (differ : other ≠ resident) :
      firstInsert other (past ++ [.insert resident value]) = firstInsert other past :=
    firstInsert_of_given?_eq_none (if_neg (Ne.symm differ))
  have found {other : Resident} (livesOther : other ∈ memory.live) (differ : other ≠ resident) :
      (memory.cache.insert memory.isAlive resident.address value).1.find? other.address =
        memory.cache.find? other.address := by
    unfold InstanceCache.insert
    rw [InstanceCache.find?_add, if_neg (differs livesOther differ),
      tracks.find?_purgeIfDue livesOther]
  constructor
  case numbered => exact tracks.numbered
  case unborn =>
    intro other later
    have differ : other ≠ resident := by
      rintro rfl
      exact absurd (tracks.numbered other lives) (Nat.not_lt_of_le later)
    rw [others differ]
    exact tracks.unborn later
  case apart => exact tracks.apart
  case held =>
    intro other livesOther
    by_cases same : other = resident
    · subst same
      rw [firstInsert_insert, ← tracks.insert_snd livesOther]
      exact (InstanceCache.find?_add value).trans (if_pos rfl)
    · rw [others same]
      exact (found livesOther same).trans (tracks.held other livesOther)
  case handle =>
    intro other livesOther held
    simp only [step, tracks.find?_purgeIfDue lives]
    by_cases same : other = resident
    · subst same
      split
      · next former cached =>
        exact tracks.handle other livesOther (by simp [cached])
      · rw [Table.get?_put, if_pos rfl]
    · have handle := tracks.handle other livesOther
        (ne_of_eq_of_ne (found livesOther same).symm held)
      split
      · exact handle
      · rw [Table.get?_put, if_neg (differs livesOther same), handle]

/-- Every step that can be taken keeps track. -/
theorem step (tracks : memory.Tracks past) {step : Step} (allowed : memory.Allows step) :
    (memory.step step).Tracks (past ++ [step]) := by
  cases step with
  | create address => exact (tracks.create allowed).quiet fun _ => rfl
  | drop resident => exact (tracks.drop resident).quiet fun _ => rfl
  | insert resident value => exact tracks.insert allowed value
  | get resident => exact tracks.quiet fun _ => rfl
  | purge => exact tracks.purge.quiet fun _ => rfl

/-- And so does every run. -/
theorem run (tracks : memory.Tracks past) (permitted : memory.Permits steps) :
    (memory.run steps).Tracks (past ++ steps) := by
  induction steps generalizing memory past with
  | nil => rwa [List.append_nil]
  | cons step rest ih =>
    have next := ih (tracks.step permitted.1) permitted.2
    rwa [List.append_assoc, List.singleton_append] at next

end Tracks

/-- In every run, a live instance is served the value of the first insertion for it, whoever was at
its address before: to look it up gives that value, to insert another one gives that value too, and
neither a purge on demand nor one that is due takes its entry. What the cache answers for an
instance was inserted for that instance. -/
theorem serves_firstInsert (permitted : initial.Permits steps)
    (lives : resident ∈ (after steps).live) :
    (after steps).answer (.get resident) = firstInsert resident steps ∧
    (∀ value, (after steps).answer (.insert resident value) =
      firstInsert resident (steps ++ [.insert resident value])) ∧
    ((after steps).cache.purge (after steps).isAlive).1.find? resident.address =
      (after steps).cache.find? resident.address ∧
    ((after steps).cache.purgeIfDue (after steps).isAlive).1.find? resident.address =
      (after steps).cache.find? resident.address ∧
    ∀ call value, call.asks? = some resident → (after steps).answer call = some value →
      .insert resident value ∈ steps ++ [call] := by
  have tracks : (after steps).Tracks steps := Tracks.initial.run permitted
  have get : (after steps).answer (.get resident) = firstInsert resident steps :=
    tracks.answer_get lives
  have insert (value : Stamped Term) : (after steps).answer (.insert resident value) =
      firstInsert resident (steps ++ [.insert resident value]) := by
    rw [firstInsert_insert, ← tracks.insert_snd lives value]
    rfl
  refine ⟨get, insert, tracks.find?_purge lives, tracks.find?_purgeIfDue lives, ?_⟩
  intro call value asks answered
  cases call with
  | get asked =>
    obtain rfl : asked = resident := Option.some.inj asks
    exact List.mem_append_left _ (mem_of_firstInsert (get.symm.trans answered))
  | insert asked given =>
    obtain rfl : asked = resident := Option.some.inj asks
    exact mem_of_firstInsert ((insert given).symm.trans answered)
  | _ => cases asks

namespace Reuse

/-- An address that is given out twice: the first instance was dropped and its entry purged. -/
def reuse : List Step :=
  [.create ⟨7⟩, .insert ⟨⟨7⟩, 0⟩ ⟨1, .native (.int 1)⟩, .drop ⟨⟨7⟩, 0⟩, .purge, .create ⟨7⟩,
    .insert ⟨⟨7⟩, 1⟩ ⟨2, .native (.int 2)⟩]

private theorem permitted : initial.Permits reuse := by decide

private theorem lives : ⟨⟨7⟩, 1⟩ ∈ (after reuse).live := by decide

/-- The second instance is not served the value of the first. -/
theorem serves_second :
    initial.Permits reuse ∧ ⟨⟨7⟩, 1⟩ ∈ (after reuse).live ∧
      (after reuse).answer (.get ⟨⟨7⟩, 1⟩) = some ⟨2, .native (.int 2)⟩ ∧
      (after reuse).answer (.insert ⟨⟨7⟩, 1⟩ ⟨3, .native (.int 3)⟩) =
        some ⟨2, .native (.int 2)⟩ := by
  obtain ⟨get, insert, -⟩ := serves_firstInsert permitted lives
  exact ⟨permitted, lives, get, insert _⟩

end Reuse

section Size

/-- The size of the cache against the number at which a purge is due next, and that number against
the most entries of live instances that there were at once. -/
structure Bounded (memory : Memory) (most : Nat) : Prop where
  size : memory.cache.size ≤ max memory.cache.purgeAt InstanceCache.minimumPurge
  purgeAt : memory.cache.purgeAt ≤ max InstanceCache.minimumPurge (2 * most)

/-- A step keeps the bound, if the entries of live instances were counted before it. -/
theorem Bounded.step {most : Nat} (bounded : memory.Bounded most)
    (counted : memory.living.length ≤ most) (step : Step) : (memory.step step).Bounded most := by
  cases step with
  | create address => exact ⟨bounded.size, bounded.purgeAt⟩
  | drop resident => exact ⟨bounded.size, bounded.purgeAt⟩
  | get resident => exact bounded
  | purge =>
    exact ⟨Nat.le_trans (memory.cache.size_purge_le memory.isAlive) bounded.size, bounded.purgeAt⟩
  | insert resident value =>
    refine ⟨InstanceCache.size_insert_le _ _ _ _, ?_⟩
    have before := bounded.purgeAt
    have doubled : 2 * (memory.cache.living memory.isAlive).length ≤ 2 * most :=
      Nat.mul_le_mul_left 2 counted
    have due := memory.cache.purgeAt_insert memory.isAlive resident.address value
    rcases due with same | moved
    · exact same ▸ before
    · refine Nat.le_trans (Nat.le_of_eq moved) ?_
      omega

theorem Bounded.run {most : Nat} (bounded : memory.Bounded most)
    (counted : memory.peak steps ≤ most) : (memory.run steps).Bounded most := by
  induction steps generalizing memory with
  | nil => exact bounded
  | cons step rest ih =>
    obtain ⟨now, later⟩ := Nat.max_le.mp counted
    exact ih (bounded.step now step) later

/-- However instances come and go, the cache never has more than 32 entries, or else at most twice
as many as the most live instances that had entries at once so far. -/
theorem size_le_twice_peak (steps : List Step) :
    (after steps).cache.size ≤ max 32 (2 * initial.peak steps) := by
  have start : initial.Bounded (initial.peak steps) := ⟨Nat.zero_le _, Nat.zero_le _⟩
  have bounded : (after steps).Bounded (initial.peak steps) := start.run (Nat.le_refl _)
  exact Nat.le_trans bounded.size (Nat.max_le.mpr ⟨bounded.purgeAt, Nat.le_max_left _ _⟩)

end Size

end Memory

end Hybrid
