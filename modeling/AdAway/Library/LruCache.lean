import AdAway.Library.LoadingCache
import Mathlib.Data.List.Nodup
import Mathlib.Data.List.TakeDrop

/-!
# A cache with a capacity, used by one thread

A cache of at most `maxSize` values in front of a store. A lookup that misses reads the store and
keeps the value; the value used least recently makes room.

A kept value is not looked up again, so a lookup answers what the store does as long as the cache is
coherent with it: after a change of the store it may be stale. `run_get` compares the cache with
`LoadingCache`: a lookup here is a lookup there that no other thread interrupts, followed by the `trim`
of what makes room.

## Main definitions

* `LruCache` — the cache
* `LruCache.get`, `LruCache.evictAll` — its operations
* `LruCache.Coherent` — what is kept is the store's

## Main results

* `LruCache.get_fst` — a lookup answers what is kept, or else what the store answers
* `LruCache.Coherent.get_fst`, `Coherent.get` — a coherent cache answers what the store does, and
  stays coherent
* `LruCache.run_get` — a lookup is an uninterrupted lookup of `LoadingCache`
-/

variable {κ ν : Type*} [DecidableEq κ]

/-- A cache of at most `maxSize` values, the most recent one first. -/
structure LruCache (κ ν : Type*) (maxSize : ℕ) where
  /-- The kept values with their keys. -/
  entries : List (κ × ν)
  nodup_keys : (entries.map Prod.fst).Nodup
  length_le : entries.length ≤ maxSize

namespace LruCache

variable {maxSize : ℕ} {read : κ → Option ν}

/-- The kept value of a key. -/
def find (entries : List (κ × ν)) (k : κ) : Option ν :=
  (entries.find? fun p => p.1 = k).map Prod.snd

/-- The entries with `p` as the most recent one, without those that do not fit. -/
def keep (maxSize : ℕ) (p : κ × ν) (entries : List (κ × ν)) : List (κ × ν) :=
  (p :: entries.filter fun q => q.1 ≠ p.1).take maxSize

omit [DecidableEq κ] in
/-- The cache with every value dropped. -/
def evictAll (_ : LruCache κ ν maxSize) : LruCache κ ν maxSize := ⟨[], List.nodup_nil, Nat.zero_le _⟩

/-- The cache that has just used `p`. -/
def use (c : LruCache κ ν maxSize) (p : κ × ν) : LruCache κ ν maxSize where
  entries := keep maxSize p c.entries
  nodup_keys := by
    have hcons : ((p :: c.entries.filter fun q => q.1 ≠ p.1).map Prod.fst).Nodup := by
      refine List.nodup_cons.mpr ⟨by simp, ?_⟩
      exact c.nodup_keys.sublist (List.filter_sublist.map _)
    exact hcons.sublist ((List.take_sublist _ _).map _)
  length_le := by
    rw [keep, List.length_take]
    exact Nat.min_le_left _ _

theorem entries_use (c : LruCache κ ν maxSize) (p : κ × ν) :
    (c.use p).entries = keep maxSize p c.entries := rfl

/-- Look a key up in front of the store `read`. -/
def get (read : κ → Option ν) (c : LruCache κ ν maxSize) (k : κ) :
    Option ν × LruCache κ ν maxSize :=
  match find c.entries k with
  | some v => (some v, c.use (k, v))
  | none =>
    match read k with
    | some v => (some v, c.use (k, v))
    | none => (none, c)

/-- **A lookup answers what is kept**, or else what the store does. -/
theorem get_fst (c : LruCache κ ν maxSize) (k : κ) :
    (c.get read k).1 = (find c.entries k).or (read k) := by
  rw [get]
  cases find c.entries k with
  | some v => rfl
  | none => cases read k <;> rfl

/-! ### Coherence -/

/-- What is kept is the store's. -/
def Coherent (read : κ → Option ν) (c : LruCache κ ν maxSize) : Prop :=
  ∀ k v, find c.entries k = some v → read k = some v

/-- A dropped cache is coherent with every store. -/
theorem coherent_evictAll (read : κ → Option ν) (c : LruCache κ ν maxSize) :
    Coherent read c.evictAll := nofun

/-- **A coherent cache answers what the store does.** -/
theorem Coherent.get_fst {c : LruCache κ ν maxSize} (h : Coherent read c) (k : κ) :
    (c.get read k).1 = read k := by
  rw [LruCache.get_fst]
  cases hfind : find c.entries k with
  | none => rfl
  | some v => exact (h k v hfind).symm

/-! ### The cache as a `LoadingCache` -/

theorem find_eq_some_iff {entries : List (κ × ν)} (h : (entries.map Prod.fst).Nodup) {k : κ} {v : ν} :
    find entries k = some v ↔ (k, v) ∈ entries := by
  rw [find, Option.map_eq_some_iff]
  constructor
  · rintro ⟨⟨k', v'⟩, hfind, rfl⟩
    obtain rfl : k' = k := by simpa using List.find?_some hfind
    exact List.mem_of_find?_eq_some hfind
  · intro hmem
    obtain ⟨p, hp⟩ : ∃ p, (entries.find? fun p => p.1 = k) = some p := by
      rw [← Option.isSome_iff_exists, List.find?_isSome]
      exact ⟨(k, v), hmem, by simp⟩
    have hk : p.1 = k := by simpa using List.find?_some hp
    have heq : p = (k, v) := List.inj_on_of_nodup_map h (List.mem_of_find?_eq_some hp) hmem hk
    exact ⟨p, hp, by rw [heq]⟩

theorem find_cons (p : κ × ν) (entries : List (κ × ν)) (k : κ) :
    find (p :: entries) k = if p.1 = k then some p.2 else find entries k := by
  by_cases hk : p.1 = k <;> simp [find, hk]

theorem find_filter_ne (entries : List (κ × ν)) {k k' : κ} (hk : k ≠ k') :
    find (entries.filter fun p => p.1 ≠ k') k = find entries k := by
  induction entries with
  | nil => rfl
  | cons p entries ih =>
    by_cases hp : p.1 = k'
    · have hpk : p.1 ≠ k := fun h => hk (h.symm.trans hp)
      rw [List.filter_cons_of_neg (by simpa using hp), ih, find_cons, if_neg hpk]
    · rw [List.filter_cons_of_pos (by simpa using hp), find_cons, find_cons, ih]

/-- Using an entry changes the value of its key only. -/
theorem find_use_cons (p : κ × ν) (entries : List (κ × ν)) (k : κ) :
    find (p :: entries.filter fun q => q.1 ≠ p.1) k = if p.1 = k then some p.2 else find entries k := by
  rw [find_cons]
  split
  next => rfl
  next hk => rw [find_filter_ne entries fun h => hk h.symm]

/-- What a shortened list of entries still finds. -/
theorem find_take {entries : List (κ × ν)} (h : (entries.map Prod.fst).Nodup) (n : ℕ) (k : κ) :
    find (entries.take n) k
      = if k ∈ (entries.drop n).map Prod.fst then none else find entries k := by
  have hsplit : (((entries.take n) ++ (entries.drop n)).map Prod.fst).Nodup := by
    rwa [List.take_append_drop]
  rw [List.map_append] at hsplit
  have htake : ((entries.take n).map Prod.fst).Nodup := hsplit.of_append_left
  ext v
  rw [find_eq_some_iff htake]
  constructor
  · intro hmem
    have hkept : k ∉ (entries.drop n).map Prod.fst := fun hdrop =>
      List.disjoint_of_nodup_append hsplit (List.mem_map_of_mem hmem) hdrop
    rw [if_neg hkept, find_eq_some_iff h]
    exact List.mem_of_mem_take hmem
  · intro hfind
    split at hfind
    next => cases hfind
    next hkept =>
      have hmem : (k, v) ∈ entries.take n ++ entries.drop n := by
        rw [List.take_append_drop]
        exact (find_eq_some_iff h).mp hfind
      rcases List.mem_append.mp hmem with hmem | hmem
      · exact hmem
      · exact absurd (List.mem_map_of_mem hmem) hkept

variable {ι : Type*} [DecidableEq ι]

/-- Both caches keep the same values. -/
def Agrees (s : LoadingCache.State ι κ ν) (c : LruCache κ ν maxSize) : Prop :=
  ∀ k, s.entries k = find c.entries k

theorem run_trim (read : κ → Option ν) (s : LoadingCache.State ι κ ν) (ks : List κ) :
    ActionSystem.run (LoadingCache.step read) s (ks.map .trim)
      = some { s with entries := fun k => if k ∈ ks then none else s.entries k } := by
  induction ks generalizing s with
  | nil => simp
  | cons k ks ih =>
    rw [List.map_cons, ActionSystem.run, LoadingCache.step, Option.bind_some, ih]
    congr 2
    funext k'
    by_cases hk : k' = k
    · subst hk
      simp
    · simp [hk]

/-- Using an entry that is kept drops nothing. -/
theorem find_use_of_mem (c : LruCache κ ν maxSize) {p : κ × ν} (hp : p ∈ c.entries) (k : κ) :
    find (c.use p).entries k
      = if p.1 = k then some p.2 else find c.entries k := by
  have hlength : (p :: c.entries.filter fun q => q.1 ≠ p.1).length ≤ maxSize := by
    have hlt : (c.entries.filter fun q => q.1 ≠ p.1).length < c.entries.length :=
      List.length_filter_lt_length_iff_exists.mpr ⟨p, hp, by simp⟩
    exact Nat.le_trans hlt c.length_le
  rw [entries_use, keep, List.take_of_length_le hlength, find_use_cons]

/-- The keys that make room when an entry is used. -/
def dropped (c : LruCache κ ν maxSize) (p : κ × ν) : List κ :=
  ((p :: c.entries.filter fun q => q.1 ≠ p.1).drop maxSize).map Prod.fst

theorem find_use (c : LruCache κ ν maxSize) (p : κ × ν) (k : κ) :
    find (c.use p).entries k
      = if k ∈ c.dropped p then none else if p.1 = k then some p.2 else find c.entries k := by
  have hnodup : ((p :: c.entries.filter fun q => q.1 ≠ p.1).map Prod.fst).Nodup :=
    List.nodup_cons.mpr ⟨by simp, c.nodup_keys.sublist (List.filter_sublist.map _)⟩
  rw [entries_use, keep, find_take hnodup, find_use_cons]
  rfl

/-- The steps of a lookup that loads its value. -/
theorem run_load {s : LoadingCache.State ι κ ν} {i : ι} (hi : (s.lookups i).inFlight = false) {k : κ}
    (hentry : s.entries k = none) {v : ν} (hread : read k = some v) :
    ∃ s', ActionSystem.run (LoadingCache.step read) s [.get i k, .create i, .put i] = some s' ∧
      s'.lookups i = .answered k (some v) ∧ s'.entries = Function.update s.entries k (some v) := by
  refine ⟨{ ((s.moveTo i (.missed k)).moveTo i (.loaded k v)).moveTo i (.answered k (some v)) with
    entries := Function.update s.entries k (some v) }, ?_, ?_, rfl⟩
  · simp [ActionSystem.run_cons, LoadingCache.step, hi, hentry, hread, LoadingCache.State.moveTo]
  · exact LoadingCache.State.lookups_moveTo_self ((s.moveTo i (.missed k)).moveTo i (.loaded k v)) i _

/-- A lookup keeps the cache coherent. -/
theorem Coherent.get {c : LruCache κ ν maxSize} (h : Coherent read c) (k : κ) :
    Coherent read (c.get read k).2 := by
  have huse : ∀ v, read k = some v → Coherent read (c.use (k, v)) := by
    intro v hv k' v' hfind
    rw [find_use] at hfind
    split at hfind
    · cases hfind
    · split at hfind
      next hk =>
        obtain rfl : k = k' := hk
        exact hv.trans hfind
      next => exact h k' v' hfind
  rw [LruCache.get]
  cases hfind : find c.entries k with
  | some v => exact huse v (h k v hfind)
  | none =>
    cases hread : read k with
    | some v => exact huse v hread
    | none => exact h

/-- **A lookup is an uninterrupted lookup of `LoadingCache`**, followed by the `trim` of what makes
room. -/
theorem run_get {s : LoadingCache.State ι κ ν} {c : LruCache κ ν maxSize} (h : Agrees s c) {i : ι}
    (hi : (s.lookups i).inFlight = false) (k : κ) :
    ∃ as s', ActionSystem.run (LoadingCache.step read) s as = some s' ∧
      s'.lookups i = .answered k (c.get read k).1 ∧ Agrees s' (c.get read k).2 := by
  rw [get]
  cases hfind : find c.entries k with
  | some v =>
    have hentry : s.entries k = some v := (h k).trans hfind
    refine ⟨[.get i k], s.moveTo i (.answered k (some v)), ?_,
      LoadingCache.State.lookups_moveTo_self s i _, fun k' => ?_⟩
    · simp [ActionSystem.run_cons, LoadingCache.step, hi, hentry]
    · rw [find_use_of_mem c ((find_eq_some_iff c.nodup_keys).mp hfind)]
      split
      next hk =>
        obtain rfl : k = k' := hk
        exact hentry
      next => exact h k'
  | none =>
    have hentry : s.entries k = none := (h k).trans hfind
    cases hread : read k with
    | some v =>
      obtain ⟨loaded, hrun, hlookup, hentries⟩ := run_load hi hentry hread
      let trimmed : LoadingCache.State ι κ ν :=
        { loaded with entries := fun k' => if k' ∈ c.dropped (k, v) then none else loaded.entries k' }
      refine ⟨[.get i k, .create i, .put i] ++ (c.dropped (k, v)).map .trim, trimmed,
        ActionSystem.run_append_eq_some.mpr ⟨loaded, hrun, run_trim read loaded (c.dropped (k, v))⟩,
        hlookup, fun k' => ?_⟩
      rw [find_use c (k, v), ← h k']
      show (if k' ∈ c.dropped (k, v) then none else loaded.entries k') = _
      rw [hentries, Function.update_apply]
      simp only [eq_comm]
    | none =>
      refine ⟨[.get i k, .create i], (s.moveTo i (.missed k)).moveTo i (.answered k none), ?_,
        LoadingCache.State.lookups_moveTo_self _ i _, h⟩
      simp [ActionSystem.run_cons, LoadingCache.step, hi, hentry,
        LoadingCache.State.lookups_moveTo_self, hread]

end LruCache
