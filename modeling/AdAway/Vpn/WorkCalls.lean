import AdAway.Vpn.DnsAliases
import AdAway.Vpn.VpnServiceControls
import AdAway.Vpn.VpnWatchdog
import AdAway.Vpn.VpnWorker
import Mathlib.Algebra.Ring.Nat

/-!
# The calls of `work`

A run of `VpnWorker.work`, call by call, with what each call may return or throw, and with the
statuses it notifies. It refines the loop of the worker: `stepWork` only says that a connection
fails, and here is what fails.

## What a call may throw

A checked exception is thrown where the source declares one: `InterruptedException` by the sleep of
`throttle`, `VpnNetworkException` by `handleTimeout`, `IOException` by `doOne` and by closing the
tunnel. Any call but the sleep may throw an unchecked exception. Three calls throw one by what the
source itself does: the cast of `DnsPacketProxy.initialize`, `configureVpn`, and the search for the
tunnel interface. `VpnService.Builder.establish` gives `null` when the application is not, or no
longer, prepared as a VPN, and `runVpn` uses it unchecked.

An exception that leaves `runVpn` closes the tunnel on its way; what that throws is suppressed.

## Main definitions

* `findVpnNetworkInterface` — the interface to monitor
* `WorkRun`, `WorkAction`, `stepCall` — a run of `work`
* `LeavesStopped` — a run that has ended has notified `STOPPED`
* `Caught` — the condition on one step

## Main results

* `findVpnNetworkInterface_ok_iff` — when there is an interface to monitor
* `stepWork_of_stepCall` — a run of `work` is one of the loop of the worker
* `leavesStopped_iff` — in which runs `work` leaves with `STOPPED`
-/

namespace AdAway

/-! ### The interface to monitor -/

/-- The group of `VpnConnectionMonitor.TUNNEL_PATTERN`, `tun([0-9]+)`, for a name that matches. -/
def tunnelGroup : List Char → Option (List Char)
  | 't' :: 'u' :: 'n' :: group => if group ≠ [] ∧ group.all Char.isDigit then some group else none
  | _ => none

/-- `Integer.parseInt` of digits; `none` when it throws. -/
def parseInt (digits : List Char) : Option ℕ :=
  let value := digits.foldl (fun n c => n * 10 + (c.toNat - '0'.toNat)) 0
  if value < 2 ^ 31 then some value else none

/-- `VpnConnectionMonitor.pickLastVpnNetworkInterface`; `none` when it throws. -/
def pickLastVpnNetworkInterface (current : Option (List Char)) (other : List Char) :
    Option (Option (List Char)) :=
  match tunnelGroup other with
  | none => some current
  | some otherGroup =>
    match current with
    | none => some (some other)
    | some name =>
      match tunnelGroup name with
      | none => some (some other)
      | some currentGroup => do
        let currentTunnelNumber ← parseInt currentGroup
        let otherTunnelNumber ← parseInt otherGroup
        return some (if otherTunnelNumber > currentTunnelNumber then other else name)

/-- An exception that `work` does not catch. -/
inductive UncheckedException
  | classCastException
  | nullPointerException
  | illegalStateException
  | illegalArgumentException
  | other
  deriving DecidableEq, Repr

/-- `VpnConnectionMonitor.findVpnNetworkInterface`, with the names of the network interfaces, or
none for a `SocketException`. -/
def findVpnNetworkInterface (networkInterfaces : Option (List (List Char))) :
    Except UncheckedException (List Char) :=
  match networkInterfaces with
  | none => .error .illegalStateException
  | some names =>
    match names.foldlM pickLastVpnNetworkInterface none with
    -- a `NumberFormatException`
    | none => .error .illegalArgumentException
    | some none => .error .illegalStateException
    | some (some vpnNetworkInterface) => .ok vpnNetworkInterface

/-! ### The calls -/

/-- `AdBlockMethod`, which says the class of the ad block model. -/
inductive AdBlockMethod
  | undefined
  | root
  | vpn
  deriving DecidableEq, Repr

/-- What a call throws. -/
inductive Thrown
  | interruptedException
  | vpnNetworkException (e : VpnNetworkException)
  | ioException
  | unchecked (e : UncheckedException)
  deriving DecidableEq, Repr

/-- The call that a run of `work` makes next. -/
inductive WorkCall
  /-- `DnsPacketProxy.initialize`. -/
  | initializeProxy
  /-- `VpnWatchdog.initialize`. -/
  | initializeWatchdog
  | throttle
  /-- The sleep of `throttle`. -/
  | sleep
  | establish
  /-- `VpnConnectionMonitor.initialize`. -/
  | initializeMonitor
  | setTarget
  | doOne
  /-- The tunnel is closed, after the last `doOne`. -/
  | close
  | ended
  deriving DecidableEq, Repr

/-- What `configureVpn` finds. -/
structure VpnNetwork where
  /-- The calls of the builder that the platform does not refuse. -/
  accepts : BuilderCall → Bool
  isIpv6Enabled : Bool
  dnsServers : List InetAddress

/-- `configureVpn`; `none` when it throws. -/
def VpnNetwork.configure (network : VpnNetwork) : Option (List InetAddress) :=
  (configureVpn network.accepts network.isIpv6Enabled network.dnsServers).map Prod.fst

/-- `DnsServerMapper.getDefaultDnsServerAddress`. -/
def getDefaultDnsServerAddress (dnsServers : List InetAddress) : InetAddress :=
  dnsServers.getLastD ⟨[1, 1, 1, 1], Or.inl rfl⟩

/-- A run of `work`. -/
structure WorkRun where
  connectionThrottler : VpnConnectionThrottler
  vpnWatchDog : VpnWatchdog
  /-- The DNS servers of `dnsServerMapper`. -/
  dnsServers : List InetAddress
  call : WorkCall
  /-- The interrupt flag of its thread. -/
  interrupted : Bool
  /-- The calls of `notifyVpnStatus`, the last one first. -/
  notified : List VpnStatus

/-- What happens next: how the call ends, or an interrupt. -/
inductive WorkAction
  /-- `shutdownNow`. -/
  | interrupt
  | initializeProxy (adBlockMethod : AdBlockMethod)
  | initializeWatchdog (enabled : Bool)
  | throttle (now : ℤ)
  /-- The sleep is over. -/
  | wake
  /-- With the answer of the builder: whether it gives an interface or `null`. -/
  | establish (network : VpnNetwork) (isInterface : Bool)
  | initializeMonitor (networkInterfaces : Option (List (List Char)))
  | setTarget
  /-- `doOne`, in which `poll` times out. A check-alive packet leaves at the time `sent`, if any. -/
  | timeout (sent : Option ℤ)
  /-- `doOne`, which reads a packet at the time `now`. -/
  | packet (now : ℤ)
  /-- `doOne`, in which neither happens. -/
  | doOne (deviceOpened : Bool)
  | close
  | throws (e : Thrown)

namespace WorkRun

/-- A run as submitted, over the fields of the worker as they are. -/
def submitted (connectionThrottler : VpnConnectionThrottler) (vpnWatchDog : VpnWatchdog)
    (dnsServers : List InetAddress) : WorkRun where
  connectionThrottler := connectionThrottler
  vpnWatchDog := vpnWatchDog
  dnsServers := dnsServers
  call := .initializeProxy
  interrupted := false
  notified := []

def goto (s : WorkRun) (call : WorkCall) : WorkRun := { s with call := call }

/-- `VpnService.notifyVpnStatus`. -/
def notifyVpnStatus (s : WorkRun) (status : VpnStatus) : WorkRun :=
  { s with notified := status :: s.notified }

/-- `work` leaves its loop, and notifies that it is stopped. -/
def leave (s : WorkRun) : WorkRun := (s.notifyVpnStatus .stopped).goto .ended

/-- The `catch` clauses of `work`. -/
def raise (s : WorkRun) : Thrown → WorkRun
  | .interruptedException => s.leave
  | .vpnNetworkException _ | .ioException =>
    (s.notifyVpnStatus .reconnectingNetworkError).goto .throttle
  | .unchecked _ => s.goto .ended

/-- The call may throw this. -/
def MayThrow (s : WorkRun) : Thrown → Prop
  | .interruptedException => s.call = .sleep ∧ s.interrupted = true
  -- by `handleTimeout`, when `poll` times out
  | .vpnNetworkException _ => False
  | .ioException => s.call = .doOne ∨ s.call = .close
  | .unchecked _ => s.call ≠ .sleep ∧ s.call ≠ .ended

instance (s : WorkRun) (e : Thrown) : Decidable (s.MayThrow e) := by
  cases e <;> unfold MayThrow <;> infer_instance

/-- `throttle` has returned. -/
def throttled (s : WorkRun) : WorkRun := (s.notifyVpnStatus .starting).goto .establish

/-- The call made next may end so. -/
def Makes (s : WorkRun) : WorkAction → Prop
  | .interrupt => True
  | .initializeProxy _ => s.call = .initializeProxy
  | .initializeWatchdog _ => s.call = .initializeWatchdog
  | .throttle _ => s.call = .throttle
  | .wake => s.call = .sleep ∧ s.interrupted = false
  | .establish _ _ => s.call = .establish
  | .initializeMonitor _ => s.call = .initializeMonitor
  | .setTarget => s.call = .setTarget
  -- a negative time-out lets `poll` wait for ever
  | .timeout _ => s.call = .doOne ∧ 0 ≤ s.vpnWatchDog.getPollTimeout
  | .packet _ | .doOne _ => s.call = .doOne
  | .close => s.call = .close
  | .throws e => s.MayThrow e

instance (s : WorkRun) (a : WorkAction) : Decidable (s.Makes a) := by
  cases a <;> unfold Makes <;> infer_instance

/-- The run after the call. -/
def after (s : WorkRun) : WorkAction → WorkRun
  | .interrupt => { s with interrupted := true }
  | .initializeProxy adBlockMethod =>
    if adBlockMethod = .vpn then s.goto .initializeWatchdog
    else s.raise (.unchecked .classCastException)
  | .initializeWatchdog enabled =>
    { s with vpnWatchDog := s.vpnWatchDog.initializeWatchdog enabled }.goto .throttle
  | .throttle now =>
    let t := { s with connectionThrottler := (s.connectionThrottler.throttle now).2 }
    if (s.connectionThrottler.throttle now).1.isSome then t.goto .sleep else t.throttled
  | .wake => s.throttled
  | .establish network isInterface =>
    match network.configure with
    | none => s.raise (.unchecked (if (tunnelSubnet network.accepts).isNone
        then .illegalStateException else .illegalArgumentException))
    | some dnsServers =>
      let t := { s with dnsServers := dnsServers }
      if isInterface then t.goto .initializeMonitor
      else t.raise (.unchecked .nullPointerException)
  | .initializeMonitor networkInterfaces =>
    match findVpnNetworkInterface networkInterfaces with
    | .ok _ => s.goto .setTarget
    | .error e => s.raise (.unchecked e)
  | .setTarget =>
    let target := getDefaultDnsServerAddress s.dnsServers
    ({ s with vpnWatchDog := s.vpnWatchDog.setTarget target }.notifyVpnStatus .running).goto .doOne
  | .timeout sent =>
    let t := { s with vpnWatchDog := (s.vpnWatchDog.handleTimeout sent).2 }
    match (s.vpnWatchDog.handleTimeout sent).1 with
    | none => t
    | some e => t.raise (.vpnNetworkException e)
  | .packet now => { s with vpnWatchDog := s.vpnWatchDog.handlePacket now }
  | .doOne deviceOpened => if deviceOpened then s else s.goto .close
  | .close => (s.notifyVpnStatus .stopping).leave
  | .throws e => s.raise e

end WorkRun

/-- One call. -/
def stepCall (s : WorkRun) (a : WorkAction) : Option WorkRun :=
  if s.Makes a then some (s.after a) else none

theorem stepCall_eq_some {s t : WorkRun} {a : WorkAction} :
    stepCall s a = some t ↔ s.Makes a ∧ t = s.after a := by
  rw [stepCall, Option.ite_none_right_eq_some, Option.some_inj, eq_comm (b := t)]

/-! ### What there is to monitor -/

/-- The name is that of a tunnel interface. -/
def isTunnel (name : List Char) : Bool := (tunnelGroup name).isSome

/-- The number of a tunnel interface; `none` when it is no tunnel interface or does not fit. -/
def tunnelNumber (name : List Char) : Option ℕ := (tunnelGroup name).bind parseInt

/-- There is a tunnel interface, and when there are several the numbers of all of them fit. -/
def FindsTunnel (names : List (List Char)) : Prop :=
  let tunnels := names.filter isTunnel
  tunnels ≠ [] ∧ (tunnels.length = 1 ∨ ∀ name ∈ tunnels, (tunnelNumber name).isSome = true)

instance (names : List (List Char)) : Decidable (FindsTunnel names) := by
  unfold FindsTunnel; infer_instance

theorem pickLast_of_isNone {other : List Char} (hother : isTunnel other = false)
    (current : Option (List Char)) : pickLastVpnNetworkInterface current other = some current := by
  rw [isTunnel, Option.isSome_eq_false_iff, Option.isNone_iff_eq_none] at hother
  simp [pickLastVpnNetworkInterface, hother]

theorem pickLast_none {other : List Char} (hother : isTunnel other = true) :
    pickLastVpnNetworkInterface none other = some (some other) := by
  obtain ⟨group, hgroup⟩ := Option.isSome_iff_exists.mp hother
  simp [pickLastVpnNetworkInterface, hgroup]

/-- Of two tunnel interfaces one is picked, when both numbers fit. -/
theorem pickLast_some {name other : List Char} (hname : isTunnel name = true)
    (hother : isTunnel other = true) :
    pickLastVpnNetworkInterface (some name) other = do
      let currentTunnelNumber ← tunnelNumber name
      let otherTunnelNumber ← tunnelNumber other
      return some (if otherTunnelNumber > currentTunnelNumber then other else name) := by
  obtain ⟨currentGroup, hname⟩ := Option.isSome_iff_exists.mp hname
  obtain ⟨otherGroup, hother⟩ := Option.isSome_iff_exists.mp hother
  simp [pickLastVpnNetworkInterface, tunnelNumber, hname, hother]

/-- Only the tunnel interfaces are looked at. -/
theorem foldlM_pickLast_filter (names : List (List Char)) (current : Option (List Char)) :
    names.foldlM pickLastVpnNetworkInterface current =
      (names.filter isTunnel).foldlM pickLastVpnNetworkInterface
        current := by
  induction names generalizing current with
  | nil => rfl
  | cons other names ih =>
    by_cases hother : isTunnel other = true
    · rw [List.filter_cons_of_pos hother, List.foldlM_cons, List.foldlM_cons]
      exact congrArg _ (funext ih)
    · rw [List.filter_cons_of_neg hother, List.foldlM_cons,
        pickLast_of_isNone (Bool.eq_false_iff.mpr hother)]
      exact ih current

/-- Once there is a tunnel interface, one is found, unless there is another and a number does not
fit. -/
theorem foldlM_pickLast_some {name : List Char} (hname : isTunnel name = true)
    {tunnels : List (List Char)} (htunnels : ∀ other ∈ tunnels, isTunnel other = true) :
    (∃ found, tunnels.foldlM pickLastVpnNetworkInterface (some name) = some (some found)) ↔
      tunnels = [] ∨ ∀ other ∈ name :: tunnels, (tunnelNumber other).isSome = true := by
  induction tunnels generalizing name with
  | nil => simp
  | cons other tunnels ih =>
    have hother := htunnels other List.mem_cons_self
    have hrest : ∀ next ∈ tunnels, isTunnel next = true := fun next hnext =>
      htunnels next (List.mem_cons_of_mem other hnext)
    rw [List.foldlM_cons, pickLast_some hname hother]
    cases hcurrent : tunnelNumber name with
    | none => simp [hcurrent]
    | some currentTunnelNumber =>
      cases hnumber : tunnelNumber other with
      | none => simp [hnumber]
      | some otherTunnelNumber =>
        have hpicked : ∀ picked, picked = other ∨ picked = name →
            ((∃ found, tunnels.foldlM pickLastVpnNetworkInterface (some picked) =
                some (some found)) ↔
              ∀ next ∈ tunnels, (tunnelNumber next).isSome = true) := by
          rintro picked (rfl | rfl)
          · rw [ih hother hrest]
            cases tunnels <;> simp [hnumber]
          · rw [ih hname hrest]
            cases tunnels <;> simp [hcurrent]
        simp only [Option.bind_eq_bind, Option.bind_some, Option.pure_def]
        rw [hpicked _ (by split <;> simp)]
        simp [hcurrent, hnumber]

/-- **When there is an interface to monitor.** -/
theorem findVpnNetworkInterface_ok_iff (names : List (List Char)) :
    (∃ found, findVpnNetworkInterface (some names) = .ok found) ↔ FindsTunnel names := by
  have hfound : (∃ found, findVpnNetworkInterface (some names) = .ok found) ↔
      ∃ found, names.foldlM pickLastVpnNetworkInterface none = some (some found) := by
    refine exists_congr fun found => ?_
    rw [findVpnNetworkInterface]
    split
    next h => simp [h]
    next h => simp [h]
    next h => simp [h]
  rw [hfound, foldlM_pickLast_filter, FindsTunnel]
  have htunnels : ∀ other ∈ names.filter isTunnel,
      isTunnel other = true := fun other hother => (List.mem_filter.mp hother).2
  generalize names.filter isTunnel = tunnels at htunnels
  cases tunnels with
  | nil => simp
  | cons name tunnels =>
    have hname := htunnels name List.mem_cons_self
    rw [List.foldlM_cons, pickLast_none hname]
    simp only [Option.bind_eq_bind, Option.bind_some]
    rw [foldlM_pickLast_some hname fun other hother =>
      htunnels other (List.mem_cons_of_mem name hother)]
    simp

/-! ### The loop of the worker -/

/-- Where the loop of the worker stands. -/
def WorkCall.workState : WorkCall → WorkState
  | .initializeProxy | .initializeWatchdog => .initializing
  | .throttle => .throttle
  | .sleep => .sleeping
  | .establish | .initializeMonitor | .setTarget => .establish
  | .doOne | .close => .polling
  | .ended => .ended

/-- The loop of the worker. -/
def WorkRun.loop (s : WorkRun) : WorkLoop := ⟨s.call.workState, s.interrupted⟩

theorem WorkRun.state_loop {s : WorkRun} {call : WorkCall} (hcall : s.call = call) :
    s.loop.state = call.workState := congrArg WorkCall.workState hcall

theorem stepWork_unchecked {s : WorkRun} (hsleep : s.call ≠ .sleep) (hended : s.call ≠ .ended)
    (e : UncheckedException) :
    stepWork s.connectionThrottler s.loop .uncheckedException =
      some (s.connectionThrottler, (s.raise (.unchecked e)).loop) := by
  refine if_pos ⟨?_, ?_⟩ <;> (rw [WorkRun.loop]; cases hcall : s.call <;> simp_all [WorkCall.workState])

theorem stepWork_networkException {s : WorkRun} (hcall : s.call.workState = .polling) :
    stepWork s.connectionThrottler s.loop .networkException =
      some (s.connectionThrottler, (s.raise .ioException).loop) :=
  if_pos (Or.inr hcall)

/-- What a call throws is an event of the loop. -/
theorem stepWork_raise {s : WorkRun} {e : Thrown} (he : s.MayThrow e) :
    ∃ event, stepWork s.connectionThrottler s.loop event =
      some ((s.raise e).connectionThrottler, (s.raise e).loop) := by
  cases e with
  | interruptedException =>
    exact ⟨.interruptedException, if_pos ⟨s.state_loop he.1, he.2⟩⟩
  | vpnNetworkException e => exact absurd he id
  | ioException =>
    refine ⟨.networkException, stepWork_networkException ?_⟩
    rcases he with hcall | hcall <;> rw [hcall] <;> rfl
  | unchecked e => exact ⟨.uncheckedException, stepWork_unchecked he.1 he.2 e⟩

/-- **A run of `work` is one of the loop of the worker**: a call is an interrupt, nothing, or a step
of it. -/
theorem stepWork_of_stepCall {s t : WorkRun} {a : WorkAction} (h : stepCall s a = some t) :
    (a = .interrupt ∧ t.loop = s.loop.interrupt) ∨
    (t.connectionThrottler = s.connectionThrottler ∧ t.loop = s.loop) ∨
    ∃ e, stepWork s.connectionThrottler s.loop e = some (t.connectionThrottler, t.loop) := by
  obtain ⟨hcall, rfl⟩ := stepCall_eq_some.mp h
  cases a with
  | interrupt => exact .inl ⟨rfl, rfl⟩
  | initializeProxy adBlockMethod =>
    have hcall : s.call = .initializeProxy := hcall
    refine .inr ?_
    rw [WorkRun.after]
    split
    next => exact .inl ⟨rfl, by rw [WorkRun.loop, WorkRun.loop, hcall]; rfl⟩
    next =>
      exact .inr ⟨_, stepWork_unchecked (by simp [hcall]) (by simp [hcall]) _⟩
  | initializeWatchdog enabled => exact .inr (.inr ⟨.initialized, if_pos (s.state_loop hcall)⟩)
  | throttle now =>
    refine .inr (.inr ⟨.throttle now, ?_⟩)
    have hstate : s.loop.state = .throttle := s.state_loop hcall
    rw [stepWork, if_pos hstate, WorkRun.after]
    split <;> rfl
  | wake =>
    have hawake : s.loop.interrupted = false := hcall.2
    exact .inr (.inr ⟨.wake, if_pos ⟨s.state_loop hcall.1, by simp [hawake]⟩⟩)
  | establish network isInterface =>
    have hcall : s.call = .establish := hcall
    have hdies : ∀ dnsServers e, ∃ event, stepWork s.connectionThrottler s.loop event =
        some (s.connectionThrottler,
          ({ s with dnsServers := dnsServers }.raise (.unchecked e)).loop) := fun dnsServers e =>
      ⟨_, stepWork_unchecked (by simp [hcall]) (by simp [hcall]) e⟩
    refine .inr ?_
    rw [WorkRun.after]
    split
    next => exact .inr (hdies s.dnsServers _)
    next dnsServers _ =>
      dsimp only
      split
      next => exact .inl ⟨rfl, by rw [WorkRun.loop, WorkRun.loop, hcall]; rfl⟩
      next => exact .inr (hdies dnsServers _)
  | initializeMonitor networkInterfaces =>
    have hcall : s.call = .initializeMonitor := hcall
    refine .inr ?_
    rw [WorkRun.after]
    split
    next => exact .inl ⟨rfl, by rw [WorkRun.loop, WorkRun.loop, hcall]; rfl⟩
    next =>
      exact .inr ⟨_, stepWork_unchecked (by simp [hcall]) (by simp [hcall]) _⟩
  | setTarget => exact .inr (.inr ⟨.established, if_pos (s.state_loop hcall)⟩)
  | timeout sent =>
    have hcall : s.call = .doOne := hcall.1
    refine .inr ?_
    rw [WorkRun.after]
    split
    next => exact .inl ⟨rfl, rfl⟩
    next => exact .inr ⟨_, stepWork_networkException (by rw [hcall]; rfl)⟩
  | packet now => exact .inr (.inl ⟨rfl, rfl⟩)
  | doOne deviceOpened =>
    have hcall : s.call = .doOne := hcall
    refine .inr (.inl ?_)
    rw [WorkRun.after]
    split
    next => exact ⟨rfl, rfl⟩
    next => exact ⟨rfl, by rw [WorkRun.loop, WorkRun.loop, hcall]; rfl⟩
  | close => exact .inr (.inr ⟨.doOne false, if_pos (s.state_loop hcall)⟩)
  | throws e => exact .inr (.inr (stepWork_raise hcall))

/-! ### Leaving `work` -/

/-- A run that has ended has notified `STOPPED`, and nothing after it. -/
def LeavesStopped (s : WorkRun) : Prop := s.call = .ended → s.notified.head? = some .stopped

/-- The call does not end with an exception that `work` does not catch, nor with an interface that
is `null`. -/
def Caught : WorkAction → Prop
  | .initializeProxy adBlockMethod => adBlockMethod = .vpn
  | .establish network isInterface => network.configure.isSome = true ∧ isInterface = true
  | .initializeMonitor networkInterfaces => ∃ names ∈ networkInterfaces, FindsTunnel names
  | .throws (.unchecked _) => False
  | _ => True

/-- The run goes on, having notified at most one status, which is not `STOPPED`. -/
def WorkRun.GoesOn (s t : WorkRun) : Prop :=
  t.call ≠ .ended ∧ (t.notified = s.notified ∨
    ∃ status, status ≠ .stopped ∧ t.notified = status :: s.notified)

/-- The run has ended, and has notified `STOPPED` last. -/
def WorkRun.Leaves (s : WorkRun) : Prop := s.call = .ended ∧ s.notified.head? = some .stopped

/-- The run ends without notifying it. -/
def WorkRun.Dies (s t : WorkRun) : Prop := t.call = .ended ∧ t.notified = s.notified

/-- A call lets the run go on, leave or die; and it dies of what is not caught. -/
theorem after_cases {s : WorkRun} {a : WorkAction} (ha : s.Makes a) (hended : s.call ≠ .ended) :
    (Caught a ∧ s.GoesOn (s.after a)) ∨ (Caught a ∧ (s.after a).Leaves) ∨
      (¬ Caught a ∧ s.Dies (s.after a)) := by
  cases a with
  | interrupt => exact .inl ⟨trivial, hended, .inl rfl⟩
  | initializeProxy adBlockMethod =>
    rw [WorkRun.after]
    split
    next hvpn => exact .inl ⟨hvpn, nofun, .inl rfl⟩
    next hvpn => exact .inr (.inr ⟨hvpn, rfl, rfl⟩)
  | initializeWatchdog enabled => exact .inl ⟨trivial, nofun, .inl rfl⟩
  | throttle now =>
    rw [WorkRun.after]
    refine .inl ⟨trivial, ?_⟩
    split
    next => exact ⟨nofun, .inl rfl⟩
    next => exact ⟨nofun, .inr ⟨.starting, nofun, rfl⟩⟩
  | wake => exact .inl ⟨trivial, nofun, .inr ⟨.starting, nofun, rfl⟩⟩
  | establish network isInterface =>
    rw [WorkRun.after, Caught]
    split
    next hconfigure => exact .inr (.inr ⟨by simp [hconfigure], rfl, rfl⟩)
    next hconfigure =>
      dsimp only
      split
      next hinterface => exact .inl ⟨by simp [hconfigure, hinterface], nofun, .inl rfl⟩
      next hnull => exact .inr (.inr ⟨by simp [hnull], rfl, rfl⟩)
  | initializeMonitor networkInterfaces =>
    have hcaught : Caught (.initializeMonitor networkInterfaces) ↔
        ∃ found, findVpnNetworkInterface networkInterfaces = .ok found := by
      cases networkInterfaces with
      | none => simp [Caught, findVpnNetworkInterface]
      | some names => simp [Caught, findVpnNetworkInterface_ok_iff]
    rw [WorkRun.after, hcaught]
    split
    next found hfound => exact .inl ⟨⟨found, hfound⟩, nofun, .inl rfl⟩
    next e hfound => exact .inr (.inr ⟨by simp [hfound], rfl, rfl⟩)
  | setTarget => exact .inl ⟨trivial, nofun, .inr ⟨.running, nofun, rfl⟩⟩
  | timeout sent =>
    rw [WorkRun.after]
    refine .inl ⟨trivial, ?_⟩
    split
    next => exact ⟨hended, .inl rfl⟩
    next => exact ⟨nofun, .inr ⟨.reconnectingNetworkError, nofun, rfl⟩⟩
  | packet now => exact .inl ⟨trivial, hended, .inl rfl⟩
  | doOne deviceOpened =>
    rw [WorkRun.after]
    refine .inl ⟨trivial, ?_⟩
    split
    next => exact ⟨hended, .inl rfl⟩
    next => exact ⟨nofun, .inl rfl⟩
  | close => exact .inr (.inl ⟨trivial, rfl, rfl⟩)
  | throws e =>
    cases e with
    | interruptedException => exact .inr (.inl ⟨trivial, rfl, rfl⟩)
    | vpnNetworkException e => exact absurd ha id
    | ioException => exact .inl ⟨trivial, nofun, .inr ⟨.reconnectingNetworkError, nofun, rfl⟩⟩
    | unchecked e => exact .inr (.inr ⟨id, rfl, rfl⟩)

theorem after_of_ended {s : WorkRun} {a : WorkAction} (ha : s.Makes a) (hended : s.call = .ended) :
    a = .interrupt := by
  cases a with
  | interrupt => rfl
  | throws e => cases e <;> simp_all [WorkRun.Makes, WorkRun.MayThrow]
  | _ => simp_all [WorkRun.Makes]

/-- The run can go on unless it has ended: `LeavesStopped`, and nothing is left to be done after
`STOPPED`. -/
structure WorkRun.Notifies (s : WorkRun) : Prop where
  leavesStopped : LeavesStopped s
  goesOn : s.call ≠ .ended → s.notified.head? ≠ some .stopped

/-- **One call** that is caught keeps the statuses in order. -/
theorem WorkRun.notifies_step {s t : WorkRun} {a : WorkAction} (hs : s.Notifies) (hok : Caught a)
    (h : stepCall s a = some t) : t.Notifies := by
  obtain ⟨ha, rfl⟩ := stepCall_eq_some.mp h
  by_cases hended : s.call = .ended
  · obtain rfl := after_of_ended ha hended
    exact ⟨hs.leavesStopped, hs.goesOn⟩
  · rcases after_cases ha hended with ⟨-, hcall, hnotified⟩ | ⟨-, hcall, hstopped⟩ | ⟨hnot, -⟩
    · refine ⟨fun hend => absurd hend hcall, fun _ => ?_⟩
      rcases hnotified with hnotified | ⟨status, hstatus, hnotified⟩
      · rw [hnotified]
        exact hs.goesOn hended
      · simpa [hnotified] using hstatus
    · exact ⟨fun _ => hstopped, fun hgoes => absurd hcall hgoes⟩
    · exact absurd hok hnot

/-- A call that is not caught ends the run, with whatever was notified before. -/
theorem WorkRun.caught_of_leavesStopped {s t : WorkRun} {a : WorkAction} (hs : s.Notifies)
    (h : stepCall s a = some t) (ht : LeavesStopped t) : Caught a := by
  obtain ⟨ha, rfl⟩ := stepCall_eq_some.mp h
  by_cases hended : s.call = .ended
  · obtain rfl := after_of_ended ha hended
    trivial
  · rcases after_cases ha hended with ⟨hok, -⟩ | ⟨hok, -⟩ | ⟨-, hdead, hnotified⟩
    · exact hok
    · exact hok
    · have hstopped := ht hdead
      rw [hnotified] at hstopped
      exact absurd hstopped (hs.goesOn hended)

/-- A run that has not ended is not stuck: its next call can be caught. -/
theorem WorkRun.exists_caught {s : WorkRun} (h : s.call ≠ .ended) :
    ∃ a, a ≠ .interrupt ∧ Caught a ∧ s.Makes a := by
  cases hcall : s.call with
  | initializeProxy => exact ⟨.initializeProxy .vpn, nofun, rfl, hcall⟩
  | initializeWatchdog => exact ⟨.initializeWatchdog true, nofun, trivial, hcall⟩
  | throttle => exact ⟨.throttle 0, nofun, trivial, hcall⟩
  | sleep =>
    cases hinterrupted : s.interrupted with
    | true => exact ⟨.throws .interruptedException, nofun, trivial, hcall, hinterrupted⟩
    | false => exact ⟨.wake, nofun, trivial, hcall, hinterrupted⟩
  | establish => exact ⟨.establish ⟨fun _ => true, true, []⟩ true, nofun, ⟨rfl, rfl⟩, hcall⟩
  | initializeMonitor =>
    exact ⟨.initializeMonitor (some [['t', 'u', 'n', '0']]), nofun, ⟨_, rfl, by decide⟩, hcall⟩
  | setTarget => exact ⟨.setTarget, nofun, trivial, hcall⟩
  | doOne => exact ⟨.doOne true, nofun, trivial, hcall⟩
  | close => exact ⟨.close, nofun, trivial, hcall⟩
  | ended => exact absurd hcall h

/-- **When `work` leaves with `STOPPED`.** In a run of `work`, over any fields of the worker, every
state is one that has not ended, or that has notified `STOPPED` last, exactly if no call ends with
an exception that `work` does not catch, nor with an interface that is `null`. -/
theorem leavesStopped_iff (connectionThrottler : VpnConnectionThrottler) (vpnWatchDog : VpnWatchdog)
    (dnsServers : List InetAddress) {as : List WorkAction} {s : WorkRun}
    (h : ActionSystem.run stepCall (.submitted connectionThrottler vpnWatchDog dnsServers) as =
      some s) :
    (∀ bs, bs <+: as → ∀ t, ActionSystem.run stepCall
        (.submitted connectionThrottler vpnWatchDog dnsServers) bs = some t → LeavesStopped t) ↔
      ∀ a ∈ as, Caught a := by
  rw [← ActionSystem.stepsMeet_iff_forall_mem h]
  refine ActionSystem.stepsMeet_iff_forall_prefix_of (I := WorkRun.Notifies)
    (fun s hs => hs.leavesStopped) (fun s a t hs hok => WorkRun.notifies_step hs hok)
    (fun s a t hs => WorkRun.caught_of_leavesStopped hs) ?_ h
  exact ⟨nofun, nofun⟩

/-- A network with the DNS servers `10.0.0.53` and `fd00::53`. -/
def dualStack : VpnNetwork := ⟨fun _ => true, true, twoServers⟩

/-- From the submission to the call of `establish`. -/
def throttledOnce : List WorkAction := [.initializeProxy .vpn, .initializeWatchdog true, .throttle 5000]

/-- From there to `doOne`. -/
def connecting : List WorkAction :=
  [.establish dualStack true, .initializeMonitor (some [['l', 'o'], ['t', 'u', 'n', '0']]), .setTarget]

/-- The tunnel fails, is established again, and is closed. -/
def reconnected : List WorkAction :=
  throttledOnce ++ connecting ++ [.throws .ioException, .throttle 65000] ++ connecting ++
    [.doOne false, .close]

theorem leavesStopped_iff_reconnected : ∃ s, ActionSystem.run stepCall
    (.submitted .create .create []) reconnected = some s ∧ LeavesStopped s := by
  obtain ⟨s, hs⟩ : ∃ s, ActionSystem.run stepCall (.submitted .create .create []) reconnected =
    some s := ⟨_, rfl⟩
  have hcaught : ∀ a ∈ reconnected, Caught a := by
    simp [reconnected, throttledOnce, connecting, Caught]
    decide
  exact ⟨s, hs, (leavesStopped_iff _ _ _ hs).mpr hcaught reconnected List.prefix_rfl s hs⟩

/-- The application is no longer prepared as a VPN, so that the builder gives `null`: the run ends
with `STARTING`. -/
theorem not_leavesStopped : ¬ ∀ connectionThrottler vpnWatchDog dnsServers as s,
    ActionSystem.run stepCall (.submitted connectionThrottler vpnWatchDog dnsServers) as = some s →
    LeavesStopped s := by
  intro h
  have hstopped := h .create .create [] (throttledOnce ++ [.establish dualStack false]) _ rfl rfl
  exact absurd hstopped (by decide)

end AdAway
