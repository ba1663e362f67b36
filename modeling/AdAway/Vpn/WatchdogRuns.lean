import AdAway.Vpn.WorkCalls

/-!
# The watchdog over the tunnels of a run

`work` initializes its watchdog once, before its loop. The times of the last packets then outlive the
tunnel they belong to: a check-alive packet that went unanswered on one tunnel is still unanswered
when the next one has just been established, and the first time-out of `poll` there is reported
without a check-alive packet of its own. Each report leaves the times as they are, so that it is
repeated until some packet is read.

A packet that has been read may also not count: the clock may have been set back since the
check-alive packet was sent.

`ProbedRun` is a run of `work` with the history of its tunnels: which were established, and which
packets were sent and read, at which readings of the clock. When a watchdog that is enabled looks at
its fields, they are the readings of the last packets of this history; so what it reports is
determined by the history, and the history says whether it should have.

## Main definitions

* `WatchdogEvent`, `ProbedRun`, `stepProbed` — a run of `work`, with its history
* `ReportsProbed` — each report comes after a check-alive packet, and before any packet read
* `Overdue` — by the clock, the last check-alive packet has gone unanswered
* `KeepsProbed` — the condition on one step
* `Stamped` — the fields of the watchdog are the readings of the history

## Main results

* `stamped_step` — a call keeps `Stamped`
* `reportsProbed_step_iff` — what one step keeps
* `reportsProbed_iff` — in which runs each connection gets its own check
-/

namespace AdAway

/-! ### The history -/

/-- What happens on the tunnels of a run, with the reading of the clock. -/
inductive WatchdogEvent
  | established
  /-- A check-alive packet is sent. -/
  | sent (now : ℤ)
  /-- A packet is read. -/
  | received (now : ℤ)
  deriving DecidableEq, Repr

/-- When the last check-alive packet was sent; the last event comes first. -/
def lastSent : List WatchdogEvent → Option ℤ
  | [] => none
  | .sent now :: _ => some now
  | .established :: earlier | .received _ :: earlier => lastSent earlier

/-- When the last packet was read. -/
def lastReceived : List WatchdogEvent → Option ℤ
  | [] => none
  | .received now :: _ => some now
  | .established :: earlier | .sent _ :: earlier => lastReceived earlier

/-- A check-alive packet was sent last: no tunnel has been established and no packet read since. -/
def Probed (events : List WatchdogEvent) : Prop := ∃ now, events.head? = some (.sent now)

/-- By the clock, no packet was read since the last check-alive packet. -/
def Overdue (events : List WatchdogEvent) : Prop :=
  ∃ sent ∈ lastSent events, sent ≠ 0 ∧ ∀ received ∈ lastReceived events, received < sent

instance (events : List WatchdogEvent) : Decidable (Overdue events) := by
  unfold Overdue; infer_instance

/-- A run of `work`, with its history. -/
structure ProbedRun where
  work : WorkRun
  /-- What has happened, the last event first. -/
  events : List WatchdogEvent
  /-- What had happened at each report of the watchdog, the last one first. -/
  reports : List (List WatchdogEvent)

namespace ProbedRun

/-- The run as submitted. The last packet of the runs before is the one that its field tells. -/
def submitted (connectionThrottler : VpnConnectionThrottler) (vpnWatchDog : VpnWatchdog)
    (dnsServers : List InetAddress) : ProbedRun :=
  ⟨.submitted connectionThrottler vpnWatchDog dnsServers,
    [.received vpnWatchDog.lastPacketReceived], []⟩

/-- The events after a call. -/
def eventsAfter (s : ProbedRun) : WorkAction → List WatchdogEvent
  | .establish _ _ => .established :: s.events
  | .packet now => .received now :: s.events
  | .timeout (some now) =>
    if (s.work.vpnWatchDog.handleTimeout (some now)).1 = none ∧
        s.work.vpnWatchDog.checkAlivePacket.isSome then .sent now :: s.events
    else s.events
  | _ => s.events

/-- The reports after a call. -/
def reportsAfter (s : ProbedRun) : WorkAction → List (List WatchdogEvent)
  | .timeout sent =>
    if (s.work.vpnWatchDog.handleTimeout sent).1 = some .watchdogTimedOut then s.events :: s.reports
    else s.reports
  | _ => s.reports

end ProbedRun

/-- One call. -/
def stepProbed (s : ProbedRun) (a : WorkAction) : Option ProbedRun :=
  (stepCall s.work a).map fun work => ⟨work, s.eventsAfter a, s.reportsAfter a⟩

theorem stepProbed_eq_some {s t : ProbedRun} {a : WorkAction} :
    stepProbed s a = some t ↔
      s.work.Makes a ∧ t = ⟨s.work.after a, s.eventsAfter a, s.reportsAfter a⟩ := by
  rw [stepProbed, Option.map_eq_some_iff]
  simp only [stepCall_eq_some]
  constructor
  · rintro ⟨work, ⟨ha, rfl⟩, rfl⟩
    exact ⟨ha, rfl⟩
  · rintro ⟨ha, rfl⟩
    exact ⟨_, ⟨ha, rfl⟩, rfl⟩

/-- Each report comes after a check-alive packet of its tunnel, and before any packet read since. -/
def ReportsProbed (s : ProbedRun) : Prop := ∀ report ∈ s.reports, Probed report

/-- `poll` times out on a tunnel that has just been established only if no check-alive packet of the
run is overdue, and after a packet was read only if the clock was not set back since the last
check-alive packet. -/
def KeepsProbed (s : ProbedRun) : WorkAction → Prop
  | .timeout _ =>
    match s.events with
    | .established :: earlier => ¬ Overdue earlier
    | .received now :: earlier => ∀ sent ∈ lastSent earlier, sent = 0 ∨ sent ≤ now
    | .sent _ :: _ | [] => True
  | _ => True

instance (s : ProbedRun) : (a : WorkAction) → Decidable (KeepsProbed s a)
  | .timeout _ => by unfold KeepsProbed; dsimp only; split <;> infer_instance
  | .interrupt | .initializeProxy _ | .initializeWatchdog _ | .throttle _ | .wake | .establish _ _
  | .initializeMonitor _ | .setTarget | .packet _ | .doOne _ | .close | .throws _ =>
    instDecidableTrue

/-- A time-out keeps the reports in order if what is overdue was sent last. -/
theorem keepsProbed_timeout_iff {s : ProbedRun} {sent : Option ℤ} :
    KeepsProbed s (.timeout sent) ↔ (Overdue s.events → Probed s.events) := by
  rw [KeepsProbed]
  rcases s.events with _ | ⟨_ | now | now, earlier⟩
  · refine iff_of_true trivial ?_
    rintro ⟨time, htime, -⟩
    cases htime
  · have hnot : ¬ Probed (.established :: earlier) := nofun
    exact ⟨fun h hoverdue => absurd hoverdue h, fun h hoverdue => hnot (h hoverdue)⟩
  · exact iff_of_true trivial fun _ => ⟨now, rfl⟩
  · have hnot : ¬ Probed (.received now :: earlier) := nofun
    have hoverdue : Overdue (.received now :: earlier) ↔
        ∃ time ∈ lastSent earlier, time ≠ 0 ∧ now < time := by
      simp [Overdue, lastSent, lastReceived]
    rw [hoverdue]
    constructor
    · rintro h ⟨time, htime, hzero, hlt⟩
      rcases h time htime with hz | hle
      · exact absurd hz hzero
      · omega
    · intro h time htime
      by_contra hlate
      exact hnot (h ⟨time, htime, by omega, by omega⟩)

/-! ### The fields of the watchdog -/

/-- The watchdog has a target while `poll` may time out. -/
def HasTarget (s : WorkRun) : Prop := s.call = .doOne → s.vpnWatchDog.checkAlivePacket.isSome = true

theorem hasTarget_step {s : WorkRun} (hs : HasTarget s) {a : WorkAction} (ha : s.Makes a) :
    HasTarget (s.after a) := by
  cases a with
  | interrupt => exact hs
  | initializeProxy adBlockMethod =>
    rw [WorkRun.after]
    split <;> rintro ⟨⟩
  | initializeWatchdog enabled => rintro ⟨⟩
  | throttle now =>
    rw [WorkRun.after]
    split <;> rintro ⟨⟩
  | wake => rintro ⟨⟩
  | establish network isInterface =>
    rw [WorkRun.after]
    split
    next => rintro ⟨⟩
    next =>
      dsimp only
      split <;> rintro ⟨⟩
  | initializeMonitor networkInterfaces =>
    rw [WorkRun.after]
    split <;> rintro ⟨⟩
  | setTarget => exact fun _ => rfl
  | timeout sent =>
    rw [WorkRun.after]
    split
    next => exact fun _ => by simpa using hs ha.1
    next => rintro ⟨⟩
  | packet now =>
    intro hcall
    rw [WorkRun.after, VpnWatchdog.handlePacket]
    split <;> exact hs hcall
  | doOne deviceOpened =>
    rw [WorkRun.after]
    split
    next => exact hs
    next => rintro ⟨⟩
  | close => rintro ⟨⟩
  | throws e =>
    cases e with
    | vpnNetworkException e => exact absurd ha id
    | _ => rintro ⟨⟩

/-- The watchdog has been initialized, and the run goes on. -/
def WorkCall.isWatched : WorkCall → Bool
  | .initializeProxy | .initializeWatchdog | .ended => false
  | .throttle | .sleep | .establish | .initializeMonitor | .setTarget | .doOne | .close => true

/-- Before the watchdog is initialized nothing has happened yet. After that, if it is enabled, its
fields are the readings of the clock at the last packets of the history. -/
structure Stamped (s : ProbedRun) : Prop where
  submitted : s.work.call = .initializeProxy ∨ s.work.call = .initializeWatchdog →
    s.events = [.received s.work.vpnWatchDog.lastPacketReceived]
  stamps : s.work.call.isWatched = true → s.work.vpnWatchDog.enabled = true →
    s.work.vpnWatchDog.lastPacketSent = (lastSent s.events).getD 0 ∧
      lastReceived s.events = some s.work.vpnWatchDog.lastPacketReceived

theorem stamped_of_ended {s : ProbedRun} (hcall : s.work.call = .ended) : Stamped s where
  submitted := by
    rw [hcall]
    rintro (h | h) <;> cases h
  stamps := by
    rw [hcall]
    exact fun hwatched => absurd hwatched Bool.false_ne_true

/-- What is overdue by the history is so by the fields. -/
theorem Stamped.overdue_iff {s : ProbedRun} (hs : Stamped s) (hcall : s.work.call = .doOne)
    (henabled : s.work.vpnWatchDog.enabled = true) :
    Overdue s.events ↔ ¬ s.work.vpnWatchDog.Answered := by
  obtain ⟨hsent, hreceived⟩ := hs.stamps (by rw [hcall]; rfl) henabled
  rw [VpnWatchdog.not_answered_iff, hsent, Overdue, hreceived]
  cases lastSent s.events with
  | none => simp
  | some time =>
    simp only [Option.mem_some_iff, exists_eq_left', forall_eq', Option.getD_some]
    exact and_comm

/-- A call that is none of the watchdog's, once it is initialized. -/
theorem Stamped.goto {s : ProbedRun} (hs : Stamped s) (hcall : s.work.call.isWatched = true)
    {work : WorkRun} (hwork : work.call.isWatched = true ∨ work.call = .ended)
    (hsent : work.vpnWatchDog.lastPacketSent = s.work.vpnWatchDog.lastPacketSent)
    (hreceived : work.vpnWatchDog.lastPacketReceived = s.work.vpnWatchDog.lastPacketReceived)
    (henabled : work.vpnWatchDog.enabled = s.work.vpnWatchDog.enabled) {events : List WatchdogEvent}
    (hlastSent : lastSent events = lastSent s.events)
    (hlastReceived : lastReceived events = lastReceived s.events)
    {reports : List (List WatchdogEvent)} : Stamped ⟨work, events, reports⟩ where
  submitted := by
    rintro (h | h)
    all_goals
      rw [show work.call = _ from h] at hwork
      rcases hwork with hwork | hwork <;> cases hwork
  stamps := by
    intro _ hon
    rw [hsent, hreceived, hlastSent, hlastReceived]
    exact hs.stamps hcall (henabled ▸ hon)

/-- A time-out keeps the fields in step: a check-alive packet is sent, or the times stay. -/
theorem stamped_timeout {s : ProbedRun} {sent : Option ℤ} (htarget : HasTarget s.work)
    (hs : Stamped s) (ha : s.work.Makes (.timeout sent)) :
    Stamped ⟨s.work.after (.timeout sent), s.eventsAfter (.timeout sent),
      s.reportsAfter (.timeout sent)⟩ := by
  obtain ⟨hcall, hpoll⟩ := ha
  have hwatched : s.work.call.isWatched = true := by rw [hcall]; rfl
  have henabled := VpnWatchdog.enabled_of_getPollTimeout hpoll
  rw [WorkRun.after]
  split
  next hnone =>
    -- the watchdog has not thrown, so its packet has left
    rcases VpnWatchdog.handleTimeout_cases henabled (htarget hcall) sent with
      ⟨-, hthrown⟩ | ⟨-, -, hthrown⟩ | ⟨-, now, rfl, -, hsent⟩
    · cases hnone.symm.trans hthrown
    · cases hnone.symm.trans hthrown
    have hevents : s.eventsAfter (.timeout (some now)) = .sent now :: s.events :=
      if_pos ⟨hnone, htarget hcall⟩
    rw [hevents]
    refine ⟨fun h => ?_, fun _ hon => ⟨hsent, ?_⟩⟩
    · rcases h with h | h <;> cases hcall.symm.trans h
    · show lastReceived s.events =
        some (s.work.vpnWatchDog.handleTimeout (some now)).2.lastPacketReceived
      rw [VpnWatchdog.lastPacketReceived_handleTimeout]
      exact (hs.stamps hwatched henabled).2
  next e hthrown =>
    have hsent : (s.work.vpnWatchDog.handleTimeout sent).2.lastPacketSent
        = s.work.vpnWatchDog.lastPacketSent :=
      VpnWatchdog.lastPacketSent_handleTimeout (hthrown ▸ Option.some_ne_none e)
    have hevents : s.eventsAfter (.timeout sent) = s.events := by
      cases sent with
      | none => rfl
      | some now => exact if_neg fun h => Option.some_ne_none e (hthrown.symm.trans h.1)
    rw [hevents]
    exact hs.goto hwatched (.inl rfl) hsent (VpnWatchdog.lastPacketReceived_handleTimeout _ sent)
      (VpnWatchdog.enabled_handleTimeout _ sent) rfl rfl

/-- **One call** keeps the fields in step with the history. -/
theorem stamped_step {s t : ProbedRun} {a : WorkAction} (htarget : HasTarget s.work)
    (hs : Stamped s) (h : stepProbed s a = some t) : Stamped t := by
  obtain ⟨ha, rfl⟩ := stepProbed_eq_some.mp h
  cases a with
  | interrupt => exact ⟨hs.submitted, hs.stamps⟩
  | initializeProxy adBlockMethod =>
    have hcall : s.work.call = .initializeProxy := ha
    rw [WorkRun.after]
    split
    next =>
      exact ⟨fun _ => hs.submitted (.inl hcall), fun hwatched => absurd hwatched Bool.false_ne_true⟩
    next => exact stamped_of_ended rfl
  | initializeWatchdog enabled =>
    have hcall : s.work.call = .initializeWatchdog := ha
    have hevents := hs.submitted (.inr hcall)
    refine ⟨?_, fun _ _ => ?_⟩
    · rintro (h | h) <;> cases h
    · show 0 = (lastSent s.events).getD 0 ∧ lastReceived s.events = _
      rw [hevents]
      exact ⟨rfl, rfl⟩
  | throttle now =>
    have hcall : s.work.call = .throttle := ha
    rw [WorkRun.after]
    split
    all_goals refine hs.goto (by rw [hcall]; rfl) (.inl ?_) ?_ ?_ ?_ ?_ ?_ <;> rfl
  | wake =>
    have hcall : s.work.call = .sleep := ha.1
    refine hs.goto (by rw [hcall]; rfl) (.inl ?_) ?_ ?_ ?_ ?_ ?_ <;> rfl
  | establish network isInterface =>
    have hcall : s.work.call = .establish := ha
    rw [WorkRun.after]
    split
    next => refine hs.goto (by rw [hcall]; rfl) (.inr ?_) ?_ ?_ ?_ ?_ ?_ <;> rfl
    next =>
      dsimp only
      split
      next => refine hs.goto (by rw [hcall]; rfl) (.inl ?_) ?_ ?_ ?_ ?_ ?_ <;> rfl
      next => refine hs.goto (by rw [hcall]; rfl) (.inr ?_) ?_ ?_ ?_ ?_ ?_ <;> rfl
  | initializeMonitor networkInterfaces =>
    have hcall : s.work.call = .initializeMonitor := ha
    rw [WorkRun.after]
    split
    next => refine hs.goto (by rw [hcall]; rfl) (.inl ?_) ?_ ?_ ?_ ?_ ?_ <;> rfl
    next => refine hs.goto (by rw [hcall]; rfl) (.inr ?_) ?_ ?_ ?_ ?_ ?_ <;> rfl
  | setTarget =>
    have hcall : s.work.call = .setTarget := ha
    refine hs.goto (by rw [hcall]; rfl) (.inl ?_) ?_ ?_ ?_ ?_ ?_ <;> rfl
  | timeout sent => exact stamped_timeout htarget hs ha
  | packet now =>
    have hcall : s.work.call = .doOne := ha
    refine ⟨fun h => ?_, fun _ hon => ?_⟩
    · have hstays : (s.work.after (.packet now)).call = .doOne := hcall
      rcases h with h | h <;> cases hstays.symm.trans h
    · have henabled : s.work.vpnWatchDog.enabled = true := by
        rw [WorkRun.after, VpnWatchdog.handlePacket] at hon
        dsimp only at hon
        split at hon <;> exact hon
      obtain ⟨hsent, -⟩ := hs.stamps (by rw [hcall]; rfl) henabled
      have hnow : (s.work.after (.packet now)).vpnWatchDog
          = { s.work.vpnWatchDog with lastPacketReceived := now } := by
        simp [WorkRun.after, VpnWatchdog.handlePacket, henabled]
      rw [hnow]
      exact ⟨hsent, rfl⟩
  | doOne deviceOpened =>
    have hcall : s.work.call = .doOne := ha
    rw [WorkRun.after]
    split
    next => exact hs.goto (by rw [hcall]; rfl) (.inl (by rw [hcall]; rfl)) rfl rfl rfl rfl rfl
    next => refine hs.goto (by rw [hcall]; rfl) (.inl ?_) ?_ ?_ ?_ ?_ ?_ <;> rfl
  | close =>
    have hcall : s.work.call = .close := ha
    refine hs.goto (by rw [hcall]; rfl) (.inr ?_) ?_ ?_ ?_ ?_ ?_ <;> rfl
  | throws e =>
    cases e with
    | interruptedException =>
      have hcall : s.work.call = .sleep := ha.1
      refine hs.goto (by rw [hcall]; rfl) (.inr ?_) ?_ ?_ ?_ ?_ ?_ <;> rfl
    | vpnNetworkException e => exact absurd ha id
    | ioException =>
      have hcall : s.work.call.isWatched = true := by
        rcases ha with hcall | hcall <;> (rw [hcall]; rfl)
      refine hs.goto hcall (.inl ?_) ?_ ?_ ?_ ?_ ?_ <;> rfl
    | unchecked e => exact stamped_of_ended rfl

/-! ### The reports -/

/-- **One call** keeps the reports in order exactly if it meets `KeepsProbed`. -/
theorem reportsProbed_step_iff {s t : ProbedRun} {a : WorkAction} (htarget : HasTarget s.work)
    (hstamped : Stamped s) (hs : ReportsProbed s) (h : stepProbed s a = some t) :
    ReportsProbed t ↔ KeepsProbed s a := by
  obtain ⟨ha, rfl⟩ := stepProbed_eq_some.mp h
  cases a with
  | timeout sent =>
    have hsome := htarget ha.1
    have henabled := VpnWatchdog.enabled_of_getPollTimeout ha.2
    rw [keepsProbed_timeout_iff, hstamped.overdue_iff ha.1 henabled]
    rcases VpnWatchdog.handleTimeout_cases henabled hsome sent with
      ⟨hlate, hreport⟩ | ⟨hanswered, -, hfailed⟩ | ⟨hanswered, -, -, hsent, -⟩
    · -- the watchdog reports, on this history
      simp only [ReportsProbed, ProbedRun.reportsAfter, hreport, if_true, List.forall_mem_cons]
      exact (and_iff_left hs).trans ⟨fun h _ => h, fun h => h hlate⟩
    · refine iff_of_true ?_ fun hlate => absurd hanswered hlate
      simp only [ReportsProbed, ProbedRun.reportsAfter, hfailed]
      exact hs
    · refine iff_of_true ?_ fun hlate => absurd hanswered hlate
      simp only [ReportsProbed, ProbedRun.reportsAfter, hsent]
      exact hs
  | _ => exact iff_of_true hs trivial

/-- **When each connection gets its own check.** In a run of `work`, over any fields of the worker,
every report of the watchdog comes after a check-alive packet sent on the current tunnel, with no
packet read since, exactly if every step of the run meets `KeepsProbed`. -/
theorem reportsProbed_iff (connectionThrottler : VpnConnectionThrottler) (vpnWatchDog : VpnWatchdog)
    (dnsServers : List InetAddress) {as : List WorkAction} {s : ProbedRun}
    (h : ActionSystem.run stepProbed (.submitted connectionThrottler vpnWatchDog dnsServers) as =
      some s) :
    (∀ bs, bs <+: as → ∀ t, ActionSystem.run stepProbed
        (.submitted connectionThrottler vpnWatchDog dnsServers) bs = some t → ReportsProbed t) ↔
      ActionSystem.StepsMeet stepProbed KeepsProbed
        (.submitted connectionThrottler vpnWatchDog dnsServers) as := by
  refine ActionSystem.stepsMeet_iff_forall_prefix_of
    (I := fun s => HasTarget s.work ∧ Stamped s ∧ ReportsProbed s) (fun s hs => hs.2.2) ?_ ?_ ?_ h
  · rintro s a t ⟨htarget, hstamped, hs⟩ hok hstep
    refine ⟨?_, stamped_step htarget hstamped hstep,
      (reportsProbed_step_iff htarget hstamped hs hstep).mpr hok⟩
    obtain ⟨ha, rfl⟩ := stepProbed_eq_some.mp hstep
    exact hasTarget_step htarget ha
  · rintro s a t ⟨htarget, hstamped, hs⟩ hstep ht
    exact (reportsProbed_step_iff htarget hstamped hs hstep).mp ht
  · exact ⟨nofun, ⟨fun _ => rfl, nofun⟩, nofun⟩

/-- A tunnel on which nothing comes back: a check-alive packet is sent, and reported. -/
def silent : List WorkAction := connecting ++ [.timeout (some 9000), .timeout none]

/-- The next tunnel has its packets, one of them before the first time-out, and is reported too. -/
def recoveredTunnel : List WorkAction :=
  throttledOnce ++ silent ++ [.throttle 65000] ++ connecting ++
    [.packet 66000, .timeout (some 70000), .timeout none]

theorem reportsProbed_iff_recovered : ∃ s, ActionSystem.run stepProbed
    (.submitted .create .create []) recoveredTunnel = some s ∧ ReportsProbed s ∧
    s.reports.length = 2 := by
  obtain ⟨s, hs⟩ : ∃ s, ActionSystem.run stepProbed (.submitted .create .create []) recoveredTunnel =
    some s := ⟨_, rfl⟩
  have hok : ActionSystem.StepsMeet stepProbed KeepsProbed (.submitted .create .create [])
    recoveredTunnel := by decide
  refine ⟨s, hs, (reportsProbed_iff _ _ _ hs).mpr hok recoveredTunnel List.prefix_rfl s hs, ?_⟩
  obtain rfl := Option.some.inj hs
  rfl

/-- The next tunnel times out once, and is reported without a check of its own. -/
theorem not_reportsProbed : ¬ ∀ connectionThrottler vpnWatchDog dnsServers as s,
    ActionSystem.run stepProbed (.submitted connectionThrottler vpnWatchDog dnsServers) as = some s →
    ReportsProbed s := by
  intro h
  have hprobed := h .create .create []
    (throttledOnce ++ silent ++ [.throttle 65000] ++ connecting ++ [.timeout none]) _ rfl
  obtain ⟨now, hsent⟩ := hprobed
    [.established, .sent 9000, .established, .received 0] List.mem_cons_self
  cases hsent

end AdAway
