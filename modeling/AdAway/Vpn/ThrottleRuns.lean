import AdAway.Library.ActionSystem
import AdAway.Vpn.VpnConnectionThrottler
import Mathlib.Algebra.Ring.Int.Defs
import Mathlib.Algebra.Ring.Nat
import Mathlib.Data.List.Chain

/-!
# The throttler over a run of calls

`throttle` takes its reference time before it sleeps. The sleep of one call is therefore part of the
time that the next call finds elapsed, and it is what the two runs below are about.

`ThrottledCalls` is the run of a loop that waits for each call to return, with a clock that does not
go back and a sleep that lasts what was asked for. `ThrottleRequests` is the run under any readings
of the wall clock, of which only the requested sleeps are looked at.

## The values of the timeout

The timeout is doubled up to the maximum and quartered down to the initial value, so it only takes
the values of `timeouts`. Below the maximum it really doubles, which is what keeps two returns apart
there.

## Main definitions

* `timeouts` — the values of the timeout
* `ThrottledCalls`, `KeepsApart` — the returns of a run, and when one more call keeps them apart
* `ThrottleRequests`, `KeepsBounded` — the sleeps of a run, and when one more call bounds its own
* `throttle64` — the method in 64-bit arithmetic

## Main results

* `throttle64_eq` — no overflow for any clock reading below `2 ^ 62`
* `returns_apart_iff` — when successive returns are apart
* `sleeps_bounded_iff` — when the requested sleeps are bounded
-/

namespace AdAway

/-! ### The timeout -/

/-- The initial timeout, doubled at most seven times. -/
def timeouts : List ℤ := (List.range 8).map fun k => initialTimeoutMs * 2 ^ k

theorem timeouts_bounds : ∀ t ∈ timeouts, initialTimeoutMs ≤ t ∧ t ≤ maximumTimeoutMs := by decide

/-- Below the maximum there is room for doubling. -/
theorem timeouts_double_le : ∀ t ∈ timeouts, t < maximumTimeoutMs → t * 2 ≤ maximumTimeoutMs := by
  decide

theorem timeouts_increase : ∀ t ∈ timeouts, min (t * 2) maximumTimeoutMs ∈ timeouts := by decide

theorem timeouts_decrease : ∀ t ∈ timeouts, max (t.tdiv 4) initialTimeoutMs ∈ timeouts := by decide

namespace VpnConnectionThrottler

/-! ### One call -/

theorem timeout_throttle_mem {s : VpnConnectionThrottler} (hs : s.timeout ∈ timeouts) (now : ℤ) :
    (s.throttle now).2.timeout ∈ timeouts := by
  rw [throttle]
  split
  next => exact hs
  next =>
    dsimp only
    split
    next => exact timeouts_increase s.timeout hs
    next =>
      show (if decide (now - s.time > maximumTimeoutMs) = true then initialTimeoutMs
        else max (s.timeout.tdiv 4) initialTimeoutMs) ∈ timeouts
      split
      next => decide
      next => exact timeouts_decrease s.timeout hs

/-- A call that sleeps asks for the rest of the doubled timeout. -/
theorem throttle_of_waits {s : VpnConnectionThrottler} {now : ℤ} (h : s.Waits now) :
    (s.throttle now).1 = some (min (s.timeout * 2) maximumTimeoutMs - (now - s.time)) := by
  rw [throttle, if_neg h.1]
  dsimp only
  rw [if_pos h.2]
  rfl

theorem throttle_of_not_waits {s : VpnConnectionThrottler} {now : ℤ} (h : ¬ s.Waits now) :
    (s.throttle now).1 = none := by
  rw [← Option.not_isSome_iff_eq_none, throttle_isSome_iff]
  exact h

/-! ### 64-bit arithmetic -/

/-- The value of a `long` after an overflow. -/
def long (x : ℤ) : ℤ := x.bmod (2 ^ 64)

/-- `throttle`, with each operation in 64-bit arithmetic. -/
def throttle64 (s : VpnConnectionThrottler) (now : ℤ) : Option ℤ × VpnConnectionThrottler :=
  if s.time = 0 then (none, { s with time := now })
  else
    let elapsedTimeBetweenCall := long (now - s.time)
    if elapsedTimeBetweenCall < s.timeout then
      let timeout := min (long (s.timeout * 2)) maximumTimeoutMs
      (some (long (timeout - elapsedTimeBetweenCall)), ⟨timeout, now⟩)
    else
      (none, { s with time := now }.decreaseTimeout (elapsedTimeBetweenCall > maximumTimeoutMs))

theorem long_eq_self {x : ℤ} (hlow : -2 ^ 63 ≤ x) (hhigh : x < 2 ^ 63) : long x = x :=
  Int.bmod_eq_of_le (by simpa using hlow) (by simpa using hhigh)

/-- **Nothing overflows** while the clock stays below `2 ^ 62`, forward or backward. -/
theorem throttle64_eq {s : VpnConnectionThrottler} (hs : s.timeout ∈ timeouts)
    (htime : 0 ≤ s.time ∧ s.time < 2 ^ 62) {now : ℤ} (hnow : 0 ≤ now ∧ now < 2 ^ 62) :
    s.throttle64 now = s.throttle now := by
  have hbounds := timeouts_bounds s.timeout hs
  have hincreased := timeouts_bounds _ (timeouts_increase s.timeout hs)
  simp only [initialTimeoutMs, maximumTimeoutMs] at hbounds hincreased
  have helapsed : long (now - s.time) = now - s.time := long_eq_self (by omega) (by omega)
  have hdouble : long (s.timeout * 2) = s.timeout * 2 := long_eq_self (by omega) (by omega)
  have hremaining : long (min (s.timeout * 2) maximumTimeoutMs - (now - s.time))
      = min (s.timeout * 2) maximumTimeoutMs - (now - s.time) := by
    rw [maximumTimeoutMs]
    exact long_eq_self (by omega) (by omega)
  simp only [throttle64, throttle, increaseTimeout, helapsed, hdouble, hremaining]

end VpnConnectionThrottler

/-! ### The returns of a loop of calls -/

/-- The end of a call. -/
structure ThrottleReturn where
  /-- When the call returned. -/
  time : ℤ
  /-- The timeout in force when it was made. -/
  timeout : ℤ
  deriving DecidableEq, Repr

/-- A throttler whose calls follow each other, and their returns, the last one first. -/
structure ThrottledCalls where
  throttler : VpnConnectionThrottler
  returns : List ThrottleReturn
  deriving DecidableEq, Repr

namespace ThrottledCalls

/-- No call has been made. -/
def start : ThrottledCalls := ⟨.create, []⟩

/-- A call at the time `now`, at or after the return of the one before. It returns after the sleep
it has asked for. -/
def stepCall (s : ThrottledCalls) (now : ℤ) : Option ThrottledCalls :=
  if s.returns.head?.all (fun r => r.time ≤ now) then
    some ⟨(s.throttler.throttle now).2,
      ⟨now + (s.throttler.throttle now).1.getD 0, s.throttler.timeout⟩ :: s.returns⟩
  else none

/-- A return is the initial timeout after the one before, or the timeout in force. -/
def IsApart (later earlier : ThrottleReturn) : Prop :=
  initialTimeoutMs ≤ later.time - earlier.time ∨ later.timeout ≤ later.time - earlier.time

/-- Any two successive returns are apart. -/
def Apart (s : ThrottledCalls) : Prop := s.returns.IsChain IsApart

/-- The call keeps its return apart from the return `r` of the one before. A call that sleeps does
so below the maximal timeout, and at the maximum when the sleep before was at least the initial
timeout short of it. A call that returns at once does so when the one before has returned at once as
well, and otherwise when it comes at least the initial timeout after its return. -/
def KeepsApartFrom (s : VpnConnectionThrottler) (r : ThrottleReturn) (now : ℤ) : Prop :=
  if s.Waits now then
    s.timeout < maximumTimeoutMs ∨ r.time - s.time ≤ maximumTimeoutMs - initialTimeoutMs
  else (s.time ≠ 0 ∧ r.time = s.time) ∨ initialTimeoutMs ≤ now - r.time

instance (s : VpnConnectionThrottler) (r : ThrottleReturn) (now : ℤ) :
    Decidable (KeepsApartFrom s r now) := by
  unfold KeepsApartFrom; infer_instance

/-- The condition on a call; there is none on the first one. -/
def KeepsApart (s : ThrottledCalls) (now : ℤ) : Prop :=
  ∀ r ∈ s.returns.head?, KeepsApartFrom s.throttler r now

instance (s : ThrottledCalls) (now : ℤ) : Decidable (s.KeepsApart now) := by
  unfold KeepsApart; infer_instance

theorem stepCall_eq_some {s t : ThrottledCalls} {now : ℤ} :
    stepCall s now = some t ↔ (∀ r ∈ s.returns.head?, r.time ≤ now) ∧
      t = ⟨(s.throttler.throttle now).2,
        ⟨now + (s.throttler.throttle now).1.getD 0, s.throttler.timeout⟩ :: s.returns⟩ := by
  rw [stepCall, Option.ite_none_right_eq_some, Option.some_inj, eq_comm (b := t)]
  simp [Option.all_eq_true]

/-- **One call** returns apart from the return before exactly if it meets the condition. -/
theorem isApart_iff {s : VpnConnectionThrottler} (hs : s.timeout ∈ timeouts) {r : ThrottleReturn}
    {now : ℤ} (hnow : r.time ≤ now) :
    IsApart ⟨now + (s.throttle now).1.getD 0, s.timeout⟩ r ↔ KeepsApartFrom s r now := by
  have hbounds := timeouts_bounds s.timeout hs
  have hdouble := timeouts_double_le s.timeout hs
  rw [KeepsApartFrom, IsApart]
  dsimp only
  split
  next hwaits =>
    have hbefore := hwaits.2
    rw [VpnConnectionThrottler.throttle_of_waits hwaits, Option.getD_some]
    -- the sleep before is part of the time elapsed, so it is shorter than the timeout
    simp only [initialTimeoutMs, maximumTimeoutMs] at *
    omega
  next hnot =>
    rw [VpnConnectionThrottler.throttle_of_not_waits hnot, Option.getD_none]
    have hlate : s.time ≠ 0 → s.timeout ≤ now - s.time := by
      intro hzero
      by_contra hlt
      exact hnot ⟨hzero, by omega⟩
    simp only [initialTimeoutMs, maximumTimeoutMs] at *
    omega

/-- **When successive returns are apart.** In a run of calls, each made at or after the return of
the one before, any two successive returns are apart in every state reached exactly if every call of
the run meets the condition. -/
theorem returns_apart_iff {nows : List ℤ} {s : ThrottledCalls}
    (h : ActionSystem.run stepCall start nows = some s) :
    (∀ bs, bs <+: nows → ∀ t, ActionSystem.run stepCall start bs = some t → t.Apart) ↔
      ActionSystem.StepsMeet stepCall KeepsApart start nows := by
  have hapart : ∀ (s : ThrottledCalls) now t, s.throttler.timeout ∈ timeouts → s.Apart →
      stepCall s now = some t → (t.Apart ↔ s.KeepsApart now) := by
    intro s now t htimeout hs hstep
    obtain ⟨hnow, rfl⟩ := stepCall_eq_some.mp hstep
    have hchain : s.returns.IsChain IsApart := hs
    rw [Apart, KeepsApart, List.isChain_cons, and_iff_left hchain]
    exact forall₂_congr fun r hr => isApart_iff htimeout (hnow r hr)
  refine ActionSystem.stepsMeet_iff_forall_prefix_of
    (I := fun s => s.throttler.timeout ∈ timeouts ∧ s.Apart) (P := Apart) (fun s hs => hs.2)
    ?_ ?_ ?_ h
  · intro s now t hs hok hstep
    refine ⟨?_, (hapart s now t hs.1 hs.2 hstep).mpr hok⟩
    obtain ⟨-, rfl⟩ := stepCall_eq_some.mp hstep
    exact VpnConnectionThrottler.timeout_throttle_mem hs.1 now
  · intro s now t hs hstep ht
    exact (hapart s now t hs.1 hs.2 hstep).mp ht
  · exact ⟨by decide, List.isChain_nil⟩

/-- The connection fails half a second after the first call, so that the second one sleeps until
`7000`, and a second after that. -/
def recovering : List ℤ := [5000, 5500, 8000]

theorem returns_apart_iff_recovering : ∃ s, ActionSystem.run stepCall start recovering = some s ∧
    s.Apart := by
  obtain ⟨s, hs⟩ : ∃ s, ActionSystem.run stepCall start recovering = some s := ⟨_, rfl⟩
  have hok : ActionSystem.StepsMeet stepCall KeepsApart start recovering := by decide
  exact ⟨s, hs, (returns_apart_iff hs).mpr hok recovering List.prefix_rfl s hs⟩

/-- The connection fails at once, each time: the second call sleeps for two seconds, which is the
timeout that the third call then finds elapsed. -/
theorem not_returns_apart :
    ¬ ∀ nows s, ActionSystem.run stepCall start nows = some s → s.Apart := by
  intro h
  have hapart := h [5000, 5000, 7000] _ rfl
  exact absurd hapart (by simp [Apart, IsApart, start]; decide)

/-- **A connection that fails at once** is let through every other time: after a call that has
slept for two seconds the next one, made at its return, does not sleep, and leaves the throttler as
it was two calls before. -/
theorem throttle_throttle_failing {time : ℤ} (hzero : time ≠ 0) :
    VpnConnectionThrottler.throttle ⟨initialTimeoutMs, time⟩ time = (some 2000, ⟨2000, time⟩) ∧
    VpnConnectionThrottler.throttle ⟨2000, time⟩ (time + 2000)
      = (none, ⟨initialTimeoutMs, time + 2000⟩) := by
  have helapsed : time + 2000 - time = 2000 := by omega
  constructor
  · rw [VpnConnectionThrottler.throttle, if_neg hzero, Int.sub_self]
    rfl
  · rw [VpnConnectionThrottler.throttle, if_neg hzero, helapsed]
    rfl

end ThrottledCalls

/-! ### The requested sleeps -/

/-- A throttler under any clock readings. -/
structure ThrottleRequests where
  throttler : VpnConnectionThrottler
  /-- The sleep the last call has asked for, `none` if it has returned at once. -/
  requested : Option ℤ
  deriving DecidableEq, Repr

namespace ThrottleRequests

/-- No call has been made. -/
def start : ThrottleRequests := ⟨.create, none⟩

/-- A call at the time `now`. -/
def stepRequest (s : ThrottleRequests) (now : ℤ) : Option ThrottleRequests :=
  some ⟨(s.throttler.throttle now).2, (s.throttler.throttle now).1⟩

/-- The timeout is in its range, and a requested sleep is positive and at most the maximal
timeout. -/
structure Bounded (s : ThrottleRequests) : Prop where
  timeout_ge : initialTimeoutMs ≤ s.throttler.timeout
  timeout_le : s.throttler.timeout ≤ maximumTimeoutMs
  requested_pos : ∀ sleep ∈ s.requested, 0 < sleep
  requested_le : ∀ sleep ∈ s.requested, sleep ≤ maximumTimeoutMs

/-- A call that sleeps finds the clock set back, since the call before, by no more than the doubled
timeout lacks of the maximum. -/
def KeepsBounded (s : ThrottleRequests) (now : ℤ) : Prop :=
  s.throttler.Waits now →
    s.throttler.time - now ≤ maximumTimeoutMs - min (s.throttler.timeout * 2) maximumTimeoutMs

instance (s : ThrottleRequests) (now : ℤ) : Decidable (s.KeepsBounded now) := by
  unfold KeepsBounded; infer_instance

theorem forall_requested {s : VpnConnectionThrottler} {now : ℤ} {P : ℤ → Prop} :
    (∀ sleep ∈ (s.throttle now).1, P sleep) ↔
      (s.Waits now → P (min (s.timeout * 2) maximumTimeoutMs - (now - s.time))) := by
  by_cases hwaits : s.Waits now
  · rw [VpnConnectionThrottler.throttle_of_waits hwaits]
    simp [hwaits]
  · rw [VpnConnectionThrottler.throttle_of_not_waits hwaits]
    simp [hwaits]

/-- A requested sleep is positive, wherever the clock has gone. -/
theorem requested_pos {s : VpnConnectionThrottler} (hs : s.timeout ∈ timeouts) (now : ℤ) :
    ∀ sleep ∈ (s.throttle now).1, 0 < sleep := by
  have hbounds := timeouts_bounds s.timeout hs
  rw [forall_requested]
  intro hwaits
  have hbefore := hwaits.2
  simp only [initialTimeoutMs, maximumTimeoutMs] at *
  omega

/-- **When the requested sleeps are bounded.** Whatever the clock readings, the timeout is in its
range, a requested sleep is positive, and it is at most the maximal timeout in every state reached
exactly if every call of the run meets the condition. -/
theorem sleeps_bounded_iff (nows : List ℤ) :
    (∀ bs, bs <+: nows → ∀ t, ActionSystem.run stepRequest start bs = some t → t.Bounded) ↔
      ActionSystem.StepsMeet stepRequest KeepsBounded start nows := by
  have hbounded : ∀ (s : ThrottleRequests) now t, s.throttler.timeout ∈ timeouts →
      stepRequest s now = some t → (t.Bounded ↔ s.KeepsBounded now) := by
    intro s now t hs hstep
    obtain rfl := Option.some.inj hstep
    have htimeout := VpnConnectionThrottler.timeout_throttle_mem hs now
    have hrange := timeouts_bounds _ htimeout
    have hle : (∀ sleep ∈ (s.throttler.throttle now).1, sleep ≤ maximumTimeoutMs) ↔
        s.KeepsBounded now := by
      rw [forall_requested, KeepsBounded]
      refine imp_congr_right fun _ => ?_
      omega
    exact ⟨fun ht => hle.mp ht.requested_le,
      fun hok => ⟨hrange.1, hrange.2, requested_pos hs now, hle.mpr hok⟩⟩
  have htotal : ∀ s a, (stepRequest s a).isSome = true := fun _ _ => rfl
  obtain ⟨s, hs⟩ := ActionSystem.exists_run_of_total htotal start nows
  refine ActionSystem.stepsMeet_iff_forall_prefix_of
    (I := fun s => s.throttler.timeout ∈ timeouts ∧ s.Bounded) (P := Bounded) (fun s hs => hs.2)
    ?_ ?_ ?_ hs
  · intro s now t hs hok hstep
    refine ⟨?_, (hbounded s now t hs.1 hstep).mpr hok⟩
    obtain rfl := Option.some.inj hstep
    exact VpnConnectionThrottler.timeout_throttle_mem hs.1 now
  · intro s now t hs hstep ht
    exact (hbounded s now t hs.1 hstep).mp ht
  · exact ⟨by decide, by decide, by decide, nofun, nofun⟩

/-- The clock is set back by an hour between two calls. -/
theorem not_sleeps_bounded :
    ¬ ∀ nows s, ActionSystem.run stepRequest start nows = some s → s.Bounded := by
  intro h
  have hbounded := h [7200000, 3600000] _ rfl
  exact absurd (hbounded.requested_le 3602000 (by decide)) (by decide)

end ThrottleRequests

end AdAway
