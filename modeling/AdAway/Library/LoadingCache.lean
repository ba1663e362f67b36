import AdAway.Library.ActionSystem
import Mathlib.Logic.Function.Basic

/-!
# A loading cache without a lock around the load

A cache in front of a store. A lookup that misses releases the lock, loads the value from the
store, takes the lock again and keeps its value only if the key is still absent. Lookups of several
threads therefore overlap, and the store may change between the load and the moment its value is
kept.

The store is a parameter of each step, so the lemmas hold whatever happens to it in between.
Capacity is the action `trim`, which may drop any key at any time.

## Main definitions

* `LoadingCache.Lookup` — the position of one thread's lookup
* `LoadingCache.step` — the atomic steps of the lookups

## Main results

* `LoadingCache.Holds.step` — what every kept or loaded value satisfies
* `LoadingCache.answered_of_step` — where an answer comes from
* `LoadingCache.Serves.step` — what the answer to one lookup satisfies
-/

namespace LoadingCache

/-- The lookup of one thread. -/
inductive Lookup (κ ν : Type*)
  /-- No lookup yet. -/
  | idle
  /-- The key was absent; the value is not loaded yet. -/
  | missed (k : κ)
  /-- The value is loaded but not kept yet. -/
  | loaded (k : κ) (v : ν)
  /-- The last lookup has returned. -/
  | answered (k : κ) (r : Option ν)
  deriving DecidableEq, Repr

/-- The lookup has begun and not returned. -/
def Lookup.inFlight {κ ν : Type*} : Lookup κ ν → Bool
  | .missed _ | .loaded _ _ => true
  | .idle | .answered _ _ => false

/-- The kept values, and the lookups of the threads. -/
structure State (ι κ ν : Type*) where
  /-- The kept value of each key. -/
  entries : κ → Option ν
  /-- The lookup of each thread. -/
  lookups : ι → Lookup κ ν

/-- The atomic steps. -/
inductive Action (ι κ : Type*)
  /-- Thread `i` looks a key up. -/
  | get (i : ι) (k : κ)
  /-- Thread `i` loads the value it missed. -/
  | create (i : ι)
  /-- Thread `i` keeps the value it loaded, unless another one is there. -/
  | put (i : ι)
  /-- A key is dropped to make room. -/
  | trim (k : κ)
  deriving DecidableEq, Repr

variable {ι κ ν : Type*} [DecidableEq ι] [DecidableEq κ]

/-- Thread `i` is at `l` now. -/
def State.moveTo (c : State ι κ ν) (i : ι) (l : Lookup κ ν) : State ι κ ν :=
  { c with lookups := Function.update c.lookups i l }

omit [DecidableEq κ] in
@[simp] theorem State.lookups_moveTo_self (c : State ι κ ν) (i : ι) (l : Lookup κ ν) :
    (c.moveTo i l).lookups i = l := by
  simp [moveTo]

/-- The cache with every kept value dropped. -/
def State.evictAll (c : State ι κ ν) : State ι κ ν := { c with entries := fun _ => none }

/-- One atomic step over the store `read`. -/
def step (read : κ → Option ν) (c : State ι κ ν) : Action ι κ → Option (State ι κ ν)
  | .get i k =>
    if (c.lookups i).inFlight then none
    else match c.entries k with
      | some v => some (c.moveTo i (.answered k (some v)))
      | none => some (c.moveTo i (.missed k))
  | .create i =>
    match c.lookups i with
    | .missed k =>
      match read k with
      | some v => some (c.moveTo i (.loaded k v))
      | none => some (c.moveTo i (.answered k none))
    | _ => none
  | .put i =>
    match c.lookups i with
    | .loaded k v =>
      match c.entries k with
      | some w => some (c.moveTo i (.answered k (some w)))
      | none =>
        some { c.moveTo i (.answered k (some v)) with
          entries := Function.update c.entries k (some v) }
    | _ => none
  | .trim k => some { c with entries := Function.update c.entries k none }

/-- One atomic step, as a relation. -/
inductive Step (read : κ → Option ν) (c : State ι κ ν) : Action ι κ → State ι κ ν → Prop
  | hit (i k v) (hl : (c.lookups i).inFlight = false) (h : c.entries k = some v) :
      Step read c (.get i k) (c.moveTo i (.answered k (some v)))
  | miss (i k) (hl : (c.lookups i).inFlight = false) (h : c.entries k = none) :
      Step read c (.get i k) (c.moveTo i (.missed k))
  | load (i k v) (hl : c.lookups i = .missed k) (h : read k = some v) :
      Step read c (.create i) (c.moveTo i (.loaded k v))
  | absent (i k) (hl : c.lookups i = .missed k) (h : read k = none) :
      Step read c (.create i) (c.moveTo i (.answered k none))
  | found (i k v w) (hl : c.lookups i = .loaded k v) (h : c.entries k = some w) :
      Step read c (.put i) (c.moveTo i (.answered k (some w)))
  | keep (i k v) (hl : c.lookups i = .loaded k v) (h : c.entries k = none) :
      Step read c (.put i) { c.moveTo i (.answered k (some v)) with
        entries := Function.update c.entries k (some v) }
  | trim (k) : Step read c (.trim k) { c with entries := Function.update c.entries k none }

theorem step_eq_some {read : κ → Option ν} {c c' : State ι κ ν} {a : Action ι κ}
    (h : step read c a = some c') : Step read c a c' := by
  cases a with
  | get i k =>
    rw [step] at h
    split at h
    next => cases h
    next hl =>
      have hl : (c.lookups i).inFlight = false := by simpa using hl
      split at h
      next v hk => exact Option.some.inj h ▸ .hit i k v hl hk
      next hk => exact Option.some.inj h ▸ .miss i k hl hk
  | create i =>
    rw [step] at h
    split at h
    next k hl =>
      split at h
      next v hk => exact Option.some.inj h ▸ .load i k v hl hk
      next hk => exact Option.some.inj h ▸ .absent i k hl hk
    next => cases h
  | put i =>
    rw [step] at h
    split at h
    next k v hl =>
      split at h
      next w hk => exact Option.some.inj h ▸ .found i k v w hl hk
      next hk => exact Option.some.inj h ▸ .keep i k v hl hk
    next => cases h
  | trim k => exact Option.some.inj h ▸ .trim k

/-! ### What is kept or loaded -/

/-- Every kept and every loaded value satisfies `P`. -/
structure Holds (P : κ → ν → Prop) (c : State ι κ ν) : Prop where
  entries : ∀ k v, c.entries k = some v → P k v
  loaded : ∀ i k v, c.lookups i = .loaded k v → P k v

omit [DecidableEq κ] in
theorem Holds.moveTo {P : κ → ν → Prop} {c : State ι κ ν} (hc : Holds P c) {i : ι}
    {l : Lookup κ ν} (hl : ∀ k v, l = .loaded k v → P k v) : Holds P (c.moveTo i l) := by
  refine ⟨hc.entries, fun j k v hj => ?_⟩
  change Function.update c.lookups i l j = .loaded k v at hj
  rcases eq_or_ne j i with rfl | hne
  · rw [Function.update_self] at hj
    exact hl k v hj
  · rw [Function.update_of_ne hne] at hj
    exact hc.loaded j k v hj

omit [DecidableEq ι] in
theorem Holds.update {P : κ → ν → Prop} {c : State ι κ ν} (hc : Holds P c) {k : κ} {r : Option ν}
    (hr : ∀ v, r = some v → P k v) :
    Holds P { c with entries := Function.update c.entries k r } := by
  refine ⟨fun k' v hv => ?_, hc.loaded⟩
  change Function.update c.entries k r k' = some v at hv
  rcases eq_or_ne k' k with rfl | hne
  · rw [Function.update_self] at hv
    exact hr v hv
  · rw [Function.update_of_ne hne] at hv
    exact hc.entries k' v hv

omit [DecidableEq ι] [DecidableEq κ] in
theorem Holds.evictAll {P : κ → ν → Prop} {c : State ι κ ν}
    (hc : ∀ i k v, c.lookups i = .loaded k v → P k v) : Holds P c.evictAll := by
  refine ⟨fun k v hv => ?_, hc⟩
  cases hv

/-- What the store satisfies, the cache keeps satisfying. -/
theorem Holds.step {read : κ → Option ν} {P : κ → ν → Prop} {c c' : State ι κ ν} {a : Action ι κ}
    (hc : Holds P c) (hread : ∀ k v, read k = some v → P k v) (h : step read c a = some c') :
    Holds P c' := by
  cases step_eq_some h with
  | load i k v hl hk =>
    exact hc.moveTo fun k' v' heq => by
      cases heq
      exact hread k v hk
  | keep i k v hl hk =>
    refine (hc.moveTo fun _ _ hl' => by cases hl').update fun w hw => ?_
    obtain rfl := Option.some.inj hw
    exact hc.loaded i k v hl
  | trim k => exact hc.update fun _ hv => by cases hv
  | _ => exact hc.moveTo fun _ _ hl' => by cases hl'

/-! ### Where an answer comes from -/

/-- A lookup that answers "absent" has just read the store. -/
theorem answered_none_of_step {read : κ → Option ν} {c c' : State ι κ ν} {a : Action ι κ}
    (h : step read c a = some c') {i : ι} {k : κ} (hnew : c'.lookups i = .answered k none)
    (hold : c.lookups i ≠ .answered k none) :
    a = .create i ∧ c.lookups i = .missed k ∧ read k = none := by
  have hself : ∀ {j l}, (c.moveTo j l).lookups i = .answered k none →
      i = j ∧ l = .answered k none := by
    intro j l hj
    change Function.update c.lookups j l i = _ at hj
    rcases eq_or_ne i j with rfl | hne
    · rw [Function.update_self] at hj
      exact ⟨rfl, hj⟩
    · rw [Function.update_of_ne hne] at hj
      exact absurd hj hold
  cases step_eq_some h with
  | absent j k' hl hk =>
    obtain ⟨rfl, heq⟩ := hself hnew
    cases heq
    exact ⟨rfl, hl, hk⟩
  | keep j k' v hl hk => cases (hself hnew).2
  | trim => exact absurd hnew hold
  | _ => cases (hself hnew).2

/-- The lookup of `k` has begun and, once it returns, its answer satisfies `Q`. -/
def Serves (k : κ) (Q : Option ν → Prop) : Lookup κ ν → Prop
  | .idle => False
  | .missed k' | .loaded k' _ => k' = k
  | .answered k' r => k' = k ∧ Q r

omit [DecidableEq κ] in
theorem serves_moveTo {c : State ι κ ν} {i j : ι} {k : κ} {Q : Option ν → Prop} {l : Lookup κ ν}
    (hc : Serves k Q (c.lookups i)) (hl : i = j → Serves k Q l) :
    Serves k Q ((c.moveTo j l).lookups i) := by
  change Serves k Q (Function.update c.lookups j l i)
  rcases eq_or_ne i j with rfl | hne
  · rw [Function.update_self]
    exact hl rfl
  · rwa [Function.update_of_ne hne]

/-- The answer to a lookup is what the store answers, or something kept or loaded. -/
theorem Serves.step {read : κ → Option ν} {P : κ → ν → Prop} {c c' : State ι κ ν} {a : Action ι κ}
    {i : ι} {k : κ} {Q : Option ν → Prop} (hs : Serves k Q (c.lookups i))
    (ha : ∀ k', a ≠ .get i k') (hc : Holds P c) (hnone : read k = none → Q none)
    (hsome : ∀ v, P k v → Q (some v)) (h : LoadingCache.step read c a = some c') :
    Serves k Q (c'.lookups i) := by
  cases step_eq_some h with
  | hit j k' v hl hk => exact serves_moveTo hs fun heq => absurd (heq ▸ rfl) (ha k')
  | miss j k' hl hk => exact serves_moveTo hs fun heq => absurd (heq ▸ rfl) (ha k')
  | load j k' v hl hk =>
    refine serves_moveTo hs fun heq => ?_
    rw [heq, hl] at hs
    exact hs
  | absent j k' hl hk =>
    refine serves_moveTo hs fun heq => ?_
    rw [heq, hl] at hs
    obtain rfl : k' = k := hs
    exact ⟨rfl, hnone hk⟩
  | found j k' v w hl hk =>
    refine serves_moveTo hs fun heq => ?_
    rw [heq, hl] at hs
    obtain rfl : k' = k := hs
    exact ⟨rfl, hsome w (hc.entries k' w hk)⟩
  | keep j k' v hl hk =>
    refine serves_moveTo hs fun heq => ?_
    rw [heq, hl] at hs
    obtain rfl : k' = k := hs
    exact ⟨rfl, hsome v (hc.loaded j k' v hl)⟩
  | trim => exact hs

/-- A lookup that begins is served, from the kept value if there is one. -/
theorem serves_get {read : κ → Option ν} {P : κ → ν → Prop} {c c' : State ι κ ν} {i : ι} {k : κ}
    {Q : Option ν → Prop} (hc : Holds P c) (hsome : ∀ v, P k v → Q (some v))
    (h : step read c (.get i k) = some c') : Serves k Q (c'.lookups i) := by
  have hself : ∀ l : Lookup κ ν, (c.moveTo i l).lookups i = l := fun l =>
    Function.update_self (β := fun _ => Lookup κ ν) i l c.lookups
  cases step_eq_some h with
  | hit _ _ v hl hk =>
    rw [hself]
    exact ⟨rfl, hsome v (hc.entries k v hk)⟩
  | miss =>
    rw [hself]
    exact rfl

end LoadingCache
