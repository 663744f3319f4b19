/-! # Tables

Finite maps with their entries in the order of first insertion. `get?_put` and `get?_erase` say that
an operation on one key leaves what the others have alone.
-/

namespace Hybrid

/-- A finite map. -/
structure Table (κ α : Type) where
  entries : List (κ × α)

namespace Table

variable {κ α : Type} [DecidableEq κ]

def empty : Table κ α := ⟨[]⟩

/-- The entry of a key. -/
def get? (table : Table κ α) (key : κ) : Option α :=
  table.entries.lookup key

/-- Gives a key an entry, in the place of its old one or at the end. -/
def put (table : Table κ α) (key : κ) (entry : α) : Table κ α :=
  if table.entries.any (·.1 = key) then
    ⟨table.entries.map fun old => if old.1 = key then (key, entry) else old⟩
  else ⟨table.entries ++ [(key, entry)]⟩

/-- Removes the entry of a key. -/
def erase (table : Table κ α) (key : κ) : Table κ α :=
  ⟨table.entries.filter (·.1 ≠ key)⟩

def keys (table : Table κ α) : List κ :=
  table.entries.map (·.1)

def contents (table : Table κ α) : List α :=
  table.entries.map (·.2)

/-- A key that no entry has is looked up in vain. -/
theorem lookup_eq_none {entries : List (κ × α)} {key : κ}
    (absent : entries.any (·.1 = key) = false) : entries.lookup key = none := by
  induction entries with
  | nil => rfl
  | cons old rest ih =>
    simp only [List.any_cons, Bool.or_eq_false_iff, decide_eq_false_iff_not] at absent
    rw [List.lookup_cons, beq_false_of_ne (Ne.symm absent.1)]
    exact ih absent.2

/-- Looking up is in vain exactly for the keys without an entry. -/
theorem lookup_eq_none_iff {entries : List (κ × α)} {key : κ} :
    entries.lookup key = none ↔ key ∉ entries.map (·.1) := by
  rw [List.lookup_eq_none_iff, List.mem_map, not_exists]
  simp only [not_and, bne_iff_ne, ne_comm]

/-- Where no key has two entries, looking one up finds its entry. -/
theorem lookup_eq_some_iff_mem {entries : List (κ × α)} (distinct : (entries.map (·.1)).Nodup)
    {key : κ} {entry : α} : entries.lookup key = some entry ↔ (key, entry) ∈ entries := by
  induction entries with
  | nil => simp
  | cons first rest ih =>
    obtain ⟨absent, distinct⟩ := List.nodup_cons.mp distinct
    rw [List.lookup_cons, List.mem_cons]
    by_cases same : key = first.1
    · subst same
      have elsewhere : (first.1, entry) ∉ rest := fun member =>
        absent (List.mem_map_of_mem (f := (·.1)) member)
      simp [elsewhere, Prod.ext_iff, eq_comm]
    · rw [beq_false_of_ne same, ih distinct]
      simp [Prod.ext_iff, same]

/-- Entries are dropped by their keys. -/
theorem lookup_filter (keep : κ → Bool) (entries : List (κ × α)) (key : κ) :
    (entries.filter fun entry => keep entry.1).lookup key =
      if keep key then entries.lookup key else none := by
  induction entries with
  | nil => simp
  | cons first rest ih =>
    obtain ⟨other, entry⟩ := first
    by_cases same : key = other
    · subst same
      cases kept : keep key <;> simp [kept, ih]
    · cases kept : keep other <;> simp [kept, ih, List.lookup_cons, beq_false_of_ne same]

/-- Each key keeps its place and gets a new entry. -/
theorem lookup_map (update : κ → α → α) (entries : List (κ × α)) (key : κ) :
    (entries.map fun entry => (entry.1, update entry.1 entry.2)).lookup key =
      (entries.lookup key).map (update key) := by
  induction entries with
  | nil => rfl
  | cons first rest ih =>
    obtain ⟨other, entry⟩ := first
    by_cases same : key = other
    · subst same
      simp
    · simp [ih, List.lookup_cons, beq_false_of_ne same]

/-- Replacing the entries of a key gives it the new entry, if it had one. -/
theorem lookup_replace_self {entries : List (κ × α)} {key : κ} (entry : α)
    (present : entries.any (·.1 = key) = true) :
    (entries.map fun old => if old.1 = key then (key, entry) else old).lookup key =
      some entry := by
  induction entries with
  | nil => cases present
  | cons old rest ih =>
    rw [List.map_cons]
    by_cases same : old.1 = key
    · rw [if_pos same, List.lookup_cons_self]
    · rw [if_neg same, List.lookup_cons, beq_false_of_ne (Ne.symm same)]
      exact ih (by simpa [same] using present)

/-- Replacing the entries of a key leaves the other keys alone. -/
theorem lookup_replace_of_ne {entries : List (κ × α)} {key other : κ} (entry : α)
    (differ : other ≠ key) :
    (entries.map fun old => if old.1 = key then (key, entry) else old).lookup other =
      entries.lookup other := by
  induction entries with
  | nil => rfl
  | cons old rest ih =>
    rw [List.map_cons]
    by_cases same : old.1 = key
    · rw [if_pos same, List.lookup_cons, List.lookup_cons, beq_false_of_ne differ,
        beq_false_of_ne (same ▸ differ)]
      exact ih
    · rw [if_neg same, List.lookup_cons, List.lookup_cons, ih]

@[simp] theorem get?_empty (key : κ) : (empty : Table κ α).get? key = none := rfl

/-- Putting an entry changes what its own key has and nothing else. -/
theorem get?_put (table : Table κ α) (key other : κ) (entry : α) :
    (table.put key entry).get? other = if other = key then some entry else table.get? other := by
  unfold put get?
  by_cases present : table.entries.any (·.1 = key) = true
  · rw [if_pos present]
    split
    next same => rw [same, lookup_replace_self entry present]
    next differ => exact lookup_replace_of_ne entry differ
  · rw [if_neg present, List.lookup_append]
    split
    next same =>
      rw [same, lookup_eq_none (Bool.not_eq_true _ ▸ present), List.lookup_cons_self]
      rfl
    next differ =>
      rw [List.lookup_cons, beq_false_of_ne differ]
      exact Option.or_none

/-- Removing a key changes what this key has and nothing else. -/
theorem get?_erase (table : Table κ α) (key other : κ) :
    (table.erase key).get? other = if other = key then none else table.get? other := by
  unfold erase get?
  induction table.entries with
  | nil => simp
  | cons old rest ih =>
    rw [List.filter_cons]
    by_cases dropped : old.1 = key
    · rw [if_neg (by simpa using dropped), ih, List.lookup_cons]
      split
      next => rfl
      next differ => rw [beq_false_of_ne (dropped ▸ differ)]
    · rw [if_pos (by simpa using dropped), List.lookup_cons, List.lookup_cons, ih]
      by_cases same : other = old.1
      · simp [same, dropped]
      · rw [beq_false_of_ne same]

end Table

end Hybrid
