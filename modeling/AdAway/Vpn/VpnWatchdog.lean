import AdAway.Vpn.DnsServerMapper
import Mathlib.Data.Int.Basic

/-!
# The watchdog of the VPN connection

`VpnWatchdog` looks at the connection when `poll` times out. It then either reports that nothing has
come in since the last check-alive packet, or sends the next one. A packet read from the tunnel only
has its time stored.

Times are readings of the wall clock, in milliseconds. A reading is an input of the method that
takes it, so the clock may go back between two of them.

## Main definitions

* `VpnWatchdog` — the fields
* `initializeWatchdog`, `handleTimeout`, `handlePacket`, `sendPacket`, `getPollTimeout` — the methods
* `Answered` — by its clock, a packet has come in since the last check-alive packet

## Main results

* `handleTimeout_cases` — what a time-out of `poll` may do
* `pollTimeout_bounds` — the poll time-out stays in its range
* `handleTimeout_again` — a report is repeated on the next tunnel
-/

namespace AdAway

/-- `VpnWatchdog.POLL_TIMEOUT_START`. -/
def pollTimeoutStart : ℤ := 1000

/-- `VpnWatchdog.POLL_TIMEOUT_END`. -/
def pollTimeoutEnd : ℤ := 4096000

/-- `VpnWatchdog.POLL_TIMEOUT_WAITING`. -/
def pollTimeoutWaiting : ℤ := 7000

/-- `VpnWatchdog.POLL_TIMEOUT_GROW`. -/
def pollTimeoutGrow : ℤ := 4

/-- `VpnWatchdog.INIT_PENALTY_START`. -/
def initPenaltyStart : ℤ := 0

/-- `VpnWatchdog.INIT_PENALTY_END`. -/
def initPenaltyEnd : ℤ := 5000

/-- `VpnWatchdog.INIT_PENALTY_INC`. -/
def initPenaltyInc : ℤ := 200

/-- A `VpnNetworkException`, by its message. -/
inductive VpnNetworkException
  /-- `"Watchdog timed out"`. -/
  | watchdogTimedOut
  /-- `"Failed to send check-alive packet."`. -/
  | failedToSend
  deriving DecidableEq, Repr

/-- The fields of `VpnWatchdog`. -/
structure VpnWatchdog where
  initPenalty : ℤ
  pollTimeout : ℤ
  lastPacketSent : ℤ
  lastPacketReceived : ℤ
  enabled : Bool
  /-- The target of the check-alive packet, `none` while there is no packet. -/
  checkAlivePacket : Option InetAddress
  deriving DecidableEq

namespace VpnWatchdog

/-- The constructor. -/
def create : VpnWatchdog where
  initPenalty := initPenaltyStart
  pollTimeout := pollTimeoutStart
  lastPacketSent := 0
  lastPacketReceived := 0
  enabled := false
  checkAlivePacket := none

/-- `VpnWatchdog.getPollTimeout`. -/
def getPollTimeout (w : VpnWatchdog) : ℤ :=
  if !w.enabled then -1
  else if w.lastPacketReceived < w.lastPacketSent then pollTimeoutWaiting
  else w.pollTimeout

/-- `VpnWatchdog.setTarget`. -/
def setTarget (w : VpnWatchdog) (target : InetAddress) : VpnWatchdog :=
  { w with checkAlivePacket := some target }

/-- `VpnWatchdog.initialize`. The sleep of the penalty changes nothing. -/
def initializeWatchdog (w : VpnWatchdog) (enabled : Bool) : VpnWatchdog :=
  { w with pollTimeout := pollTimeoutStart, lastPacketSent := 0, enabled := enabled }

/-- `VpnWatchdog.sendPacket`. The packet leaves at the time `sent`, or fails to, if `none`. -/
def sendPacket (w : VpnWatchdog) (sent : Option ℤ) : Option VpnNetworkException × VpnWatchdog :=
  if !w.enabled || w.checkAlivePacket.isNone then (none, w)
  else
    match sent with
    | some now => (none, { w with lastPacketSent := now })
    | none => (some .failedToSend, w)

/-- `VpnWatchdog.handleTimeout`: what it throws, if anything. -/
def handleTimeout (w : VpnWatchdog) (sent : Option ℤ) :
    Option VpnNetworkException × VpnWatchdog :=
  if !w.enabled then (none, w)
  else if w.lastPacketReceived < w.lastPacketSent ∧ w.lastPacketSent ≠ 0 then
    (some .watchdogTimedOut,
      { w with initPenalty := min (w.initPenalty + initPenaltyInc) initPenaltyEnd })
  else
    { w with pollTimeout := min (w.pollTimeout * pollTimeoutGrow) pollTimeoutEnd }.sendPacket sent

/-- `VpnWatchdog.handlePacket`, at the time `now`. -/
def handlePacket (w : VpnWatchdog) (now : ℤ) : VpnWatchdog :=
  if !w.enabled then w else { w with lastPacketReceived := now }

/-- By its clock, a packet has come in since the last check-alive packet, if one was sent at all. -/
def Answered (w : VpnWatchdog) : Prop :=
  w.lastPacketSent = 0 ∨ w.lastPacketSent ≤ w.lastPacketReceived

instance (w : VpnWatchdog) : Decidable w.Answered := by unfold Answered; infer_instance

/-! ### A time-out of `poll` -/

theorem not_answered_iff {w : VpnWatchdog} :
    ¬ w.Answered ↔ w.lastPacketReceived < w.lastPacketSent ∧ w.lastPacketSent ≠ 0 := by
  rw [Answered]
  omega

theorem handleTimeout_of_not_answered {w : VpnWatchdog} (henabled : w.enabled = true)
    (h : ¬ w.Answered) (sent : Option ℤ) :
    w.handleTimeout sent = (some .watchdogTimedOut,
      { w with initPenalty := min (w.initPenalty + initPenaltyInc) initPenaltyEnd }) := by
  rw [handleTimeout, if_neg (by simp [henabled]), if_pos (not_answered_iff.mp h)]

theorem handleTimeout_of_answered {w : VpnWatchdog} (henabled : w.enabled = true)
    (h : w.Answered) (sent : Option ℤ) :
    w.handleTimeout sent =
      { w with pollTimeout := min (w.pollTimeout * pollTimeoutGrow) pollTimeoutEnd }.sendPacket
        sent := by
  rw [handleTimeout, if_neg (by simp [henabled]), if_neg (mt not_answered_iff.mpr (not_not.mpr h))]

/-- `handleTimeout` reports, or it sends a check-alive packet to its target. -/
theorem handleTimeout_cases {w : VpnWatchdog} (henabled : w.enabled = true)
    (htarget : w.checkAlivePacket.isSome = true) (sent : Option ℤ) :
    (¬ w.Answered ∧ (w.handleTimeout sent).1 = some .watchdogTimedOut) ∨
    (w.Answered ∧ sent = none ∧ (w.handleTimeout sent).1 = some .failedToSend) ∨
    (w.Answered ∧ ∃ now, sent = some now ∧ (w.handleTimeout sent).1 = none ∧
      (w.handleTimeout sent).2.lastPacketSent = now) := by
  obtain ⟨target, htarget⟩ := Option.isSome_iff_exists.mp htarget
  by_cases hanswered : w.Answered
  · refine .inr ?_
    rw [handleTimeout_of_answered henabled hanswered]
    simp only [sendPacket, henabled, htarget]
    cases sent with
    | none => exact .inl ⟨hanswered, rfl, rfl⟩
    | some now => exact .inr ⟨hanswered, now, rfl, rfl, rfl⟩
  · rw [handleTimeout_of_not_answered henabled hanswered]
    exact .inl ⟨hanswered, rfl⟩

/-- Sending changes the time of the last packet sent, at most. -/
theorem sendPacket_snd (w : VpnWatchdog) (sent : Option ℤ) :
    ∃ time, (w.sendPacket sent).2 = { w with lastPacketSent := time } := by
  rw [sendPacket.eq_def]
  split
  next => exact ⟨w.lastPacketSent, rfl⟩
  next =>
    cases sent with
    | none => exact ⟨w.lastPacketSent, rfl⟩
    | some now => exact ⟨now, rfl⟩

/-- A watchdog that is disabled reports nothing. -/
theorem handleTimeout_of_disabled {w : VpnWatchdog} (hdisabled : w.enabled = false)
    (sent : Option ℤ) : w.handleTimeout sent = (none, w) := by
  simp [handleTimeout, hdisabled]

/-- `poll` times out only for a watchdog that is enabled. -/
theorem enabled_of_getPollTimeout {w : VpnWatchdog} (h : 0 ≤ w.getPollTimeout) :
    w.enabled = true := by
  by_contra hdisabled
  rw [Bool.not_eq_true] at hdisabled
  simp [getPollTimeout, hdisabled] at h

/-- The poll time-out is at least its start and at most its end. -/
def PollTimeoutBounded (w : VpnWatchdog) : Prop :=
  pollTimeoutStart ≤ w.pollTimeout ∧ w.pollTimeout ≤ pollTimeoutEnd

theorem pollTimeout_bounds {w : VpnWatchdog} (hw : w.PollTimeoutBounded) (sent : Option ℤ) :
    (w.handleTimeout sent).2.PollTimeoutBounded := by
  obtain ⟨hstart, hend⟩ := hw
  rw [pollTimeoutStart] at hstart
  rw [pollTimeoutEnd] at hend
  cases henabled : w.enabled with
  | false =>
    rw [handleTimeout_of_disabled henabled]
    exact ⟨hstart, hend⟩
  | true =>
    by_cases hanswered : w.Answered
    · rw [handleTimeout_of_answered henabled hanswered]
      obtain ⟨time, hsent⟩ := sendPacket_snd
        { w with pollTimeout := min (w.pollTimeout * pollTimeoutGrow) pollTimeoutEnd } sent
      rw [hsent]
      simp only [PollTimeoutBounded, pollTimeoutGrow, pollTimeoutStart, pollTimeoutEnd]
      omega
    · rw [handleTimeout_of_not_answered henabled hanswered]
      exact ⟨hstart, hend⟩

/-- A time-out changes the penalty, the poll time-out and the time of the last packet sent, at most.
-/
theorem handleTimeout_snd (w : VpnWatchdog) (sent : Option ℤ) :
    ∃ penalty timeout time, (w.handleTimeout sent).2 =
      { w with initPenalty := penalty, pollTimeout := timeout, lastPacketSent := time } := by
  cases henabled : w.enabled with
  | false =>
    rw [handleTimeout_of_disabled henabled]
    exact ⟨w.initPenalty, w.pollTimeout, w.lastPacketSent, by rw [← henabled]⟩
  | true =>
    by_cases hanswered : w.Answered
    · rw [handleTimeout_of_answered henabled hanswered]
      obtain ⟨time, hsent⟩ := sendPacket_snd
        { w with pollTimeout := min (w.pollTimeout * pollTimeoutGrow) pollTimeoutEnd } sent
      exact ⟨w.initPenalty, _, time, by rw [hsent, ← henabled]⟩
    · rw [handleTimeout_of_not_answered henabled hanswered]
      exact ⟨_, w.pollTimeout, w.lastPacketSent, by rw [← henabled]⟩

@[simp] theorem checkAlivePacket_handleTimeout (w : VpnWatchdog) (sent : Option ℤ) :
    (w.handleTimeout sent).2.checkAlivePacket = w.checkAlivePacket := by
  obtain ⟨penalty, timeout, time, h⟩ := w.handleTimeout_snd sent
  rw [h]

@[simp] theorem lastPacketReceived_handleTimeout (w : VpnWatchdog) (sent : Option ℤ) :
    (w.handleTimeout sent).2.lastPacketReceived = w.lastPacketReceived := by
  obtain ⟨penalty, timeout, time, h⟩ := w.handleTimeout_snd sent
  rw [h]

@[simp] theorem enabled_handleTimeout (w : VpnWatchdog) (sent : Option ℤ) :
    (w.handleTimeout sent).2.enabled = w.enabled := by
  obtain ⟨penalty, timeout, time, h⟩ := w.handleTimeout_snd sent
  rw [h]

/-- A time-out that throws has sent no packet. -/
theorem lastPacketSent_handleTimeout {w : VpnWatchdog} {sent : Option ℤ}
    (h : (w.handleTimeout sent).1 ≠ none) :
    (w.handleTimeout sent).2.lastPacketSent = w.lastPacketSent := by
  cases henabled : w.enabled with
  | false => rw [handleTimeout_of_disabled henabled]
  | true =>
    by_cases hanswered : w.Answered
    · rw [handleTimeout_of_answered henabled hanswered, sendPacket.eq_def] at h ⊢
      split at h
      next => exact absurd rfl h
      next hready =>
        rw [if_neg hready]
        cases sent with
        | none => rfl
        | some now => exact absurd rfl h
    · rw [handleTimeout_of_not_answered henabled hanswered]

/-- **A report is repeated** at the first time-out of the next tunnel, if no packet is read before:
it leaves the times of the packets as they are. -/
theorem handleTimeout_again {w : VpnWatchdog} (henabled : w.enabled = true) (h : ¬ w.Answered)
    (sent sent' : Option ℤ) (target : InetAddress) :
    (((w.handleTimeout sent).2.setTarget target).handleTimeout sent').1 =
      some .watchdogTimedOut := by
  rw [handleTimeout_of_not_answered henabled h]
  generalize hnext : setTarget _ target = next
  have hnextEnabled : next.enabled = true := hnext ▸ henabled
  have hlate : ¬ next.Answered := hnext ▸ h
  rw [handleTimeout_of_not_answered hnextEnabled hlate]

end VpnWatchdog

end AdAway
