import Mathlib.Data.Int.Basic

/-!
# How often the VPN connection may be established

`VpnConnectionThrottler.throttle` compares the clock with the last time it was called. A call that
comes before the timeout doubles it and sleeps for the rest; a later call lets the timeout shrink
and returns at once. The very first call always returns at once.

Times are in milliseconds. A call gives the sleep it asks for, and the sleep itself is a step of
whoever calls.

## Main definitions

* `VpnConnectionThrottler`, `throttle` — the fields and the method
* `Waits` — the call sleeps

## Main results

* `throttle_isSome_iff` — which calls sleep
-/

namespace AdAway

/-- `VpnConnectionThrottler.INITIAL_TIMEOUT_MS`. -/
def initialTimeoutMs : ℤ := 1000

/-- `VpnConnectionThrottler.MAXIMUM_TIMEOUT_MS`. -/
def maximumTimeoutMs : ℤ := 128000

/-- The fields of `VpnConnectionThrottler`. -/
structure VpnConnectionThrottler where
  /-- The current timeout before any new connection establishment. -/
  timeout : ℤ
  /-- The last time the throttler was called, `0` if not initialized. -/
  time : ℤ
  deriving DecidableEq, Repr

namespace VpnConnectionThrottler

/-- The constructor. -/
def create : VpnConnectionThrottler := ⟨initialTimeoutMs, 0⟩

/-- `VpnConnectionThrottler.increaseTimeout`. -/
def increaseTimeout (s : VpnConnectionThrottler) : VpnConnectionThrottler :=
  { s with timeout := min (s.timeout * 2) maximumTimeoutMs }

/-- `VpnConnectionThrottler.decreaseTimeout`. -/
def decreaseTimeout (s : VpnConnectionThrottler) (reset : Bool) : VpnConnectionThrottler :=
  { s with
    timeout := if reset then initialTimeoutMs else max (s.timeout.tdiv 4) initialTimeoutMs }

/-- `VpnConnectionThrottler.throttle`, at the time `now`: the time it sleeps, and `none` if it
returns at once. -/
def throttle (s : VpnConnectionThrottler) (now : ℤ) : Option ℤ × VpnConnectionThrottler :=
  if s.time = 0 then (none, { s with time := now })
  else
    let elapsedTimeBetweenCall := now - s.time
    if elapsedTimeBetweenCall < s.timeout then
      let s := { s with time := now }.increaseTimeout
      (some (s.timeout - elapsedTimeBetweenCall), s)
    else (none, { s with time := now }.decreaseTimeout (elapsedTimeBetweenCall > maximumTimeoutMs))

/-- The call is not the first one, and comes before the timeout. -/
def Waits (s : VpnConnectionThrottler) (now : ℤ) : Prop := s.time ≠ 0 ∧ now - s.time < s.timeout

instance (s : VpnConnectionThrottler) (now : ℤ) : Decidable (s.Waits now) := by
  unfold Waits; infer_instance

theorem throttle_isSome_iff (s : VpnConnectionThrottler) (now : ℤ) :
    (s.throttle now).1.isSome = true ↔ s.Waits now := by
  rw [throttle]
  split
  next hzero => exact iff_of_false Bool.false_ne_true fun h => h.1 hzero
  next hzero =>
    dsimp only
    split
    next hbefore => exact iff_of_true rfl ⟨hzero, hbefore⟩
    next hafter => exact iff_of_false Bool.false_ne_true fun h => hafter h.2

end VpnConnectionThrottler

end AdAway
