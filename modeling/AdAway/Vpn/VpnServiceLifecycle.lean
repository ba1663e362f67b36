import AdAway.Vpn.VpnService

/-!
# The VPN service from creation to destruction

The system creates an instance of `VpnService` to deliver an intent, and destroys it some time after
`stopSelf`, or for reasons of its own. In between the instance handles commands and the calls of its
network callbacks, all on the main thread, in any order.

Two of these do not know of each other. The callbacks are registered from `onCreate` to `onDestroy`
whatever the last command was, so they reconnect a service that has been stopped. And the preference
that tells the rest of the application that the VPN is started is written by the commands only,
while `VpnServiceControls.isRunning` overwrites it whenever no network has the VPN transport — which
is so on purpose while the service waits for a network.

## Main definitions

* `VpnLifecycle` — the instance alive, the workers left by others and the last command handled
* `doWork` — the heartbeat
* `stepLifecycle` — everything that may happen next
* `KeepsStopped`, `QueriesSafely`, `KeepsStarted` — the conditions on one event

## Main results

* `VpnLifecycle.settled_step`, `VpnLifecycle.startedAfterStart_step` — when one event keeps the
  rules
* `worker_stays_stopped_iff` — in which runs `STOP` and the destruction leave no worker
* `status_stays_started_iff` — in which runs `START` leaves the status started
-/

namespace AdAway

namespace VpnControls

/-- `VpnServiceControls.isStarted`. -/
def isStarted (s : VpnControls) : Bool := s.getVpnServiceStatus.isStarted

/-- A query leaves a started status only where some network has the VPN transport. -/
theorem isStarted_isRunning (s : VpnControls) :
    s.isRunning.2.isStarted = true ↔ s.isStarted = true ∧ s.networkVpn = true := by
  by_cases h : s.Running
  · rw [isRunning_of_running h]
    exact iff_of_true h.1 h
  · obtain ⟨-, -, -, hst⟩ := isRunning_of_not_running h
    refine iff_of_false (fun ht => ?_) h
    rw [isStarted, hst] at ht
    cases ht

theorem isStarted_start (s : VpnControls) :
    s.start.2.isStarted = true ↔ s.isStarted = true ∧ s.networkVpn = true := by
  have hsame : s.start.2.isStarted = s.isRunning.2.isStarted := by
    rw [start]
    split
    next heq => rw [heq]
    next heq =>
      rw [heq]
      rfl
  rw [hsame, isStarted_isRunning]

theorem workerStarted_start (s : VpnControls) : s.start.2.workerStarted = s.workerStarted := by
  by_cases h : s.Running
  · rw [start_of_running h]
  · exact (start_of_not_running h).2.1

end VpnControls

namespace VpnService

/-- The constructor of `VpnService`: a worker of its own, and no network type. -/
def create (controls : VpnControls) : VpnService where
  controls := { controls with workerStarted := false, published := none }
  availableNetworkTypes := ∅

/-- The calls of the two `NetworkTypeCallback`s. -/
def networkCallback (s : VpnService) : NetworkCallback → VpnService
  | .onAvailable type _ => s.addNetworkType type
  | .onLost type _ => s.removeNetworkType type

/-- The callback ends in `reconnect`. -/
def Reconnects (s : VpnService) : NetworkCallback → Prop
  | .onAvailable _ _ => s.availableNetworkTypes = ∅
  | .onLost type _ => s.availableNetworkTypes.erase type ≠ ∅

instance (s : VpnService) (c : NetworkCallback) : Decidable (s.Reconnects c) := by
  cases c <;> (unfold Reconnects; infer_instance)

theorem workerStarted_networkCallback {s : VpnService} {c : NetworkCallback}
    (h : s.controls.workerStarted = false) :
    (s.networkCallback c).controls.workerStarted = true ↔ s.Reconnects c := by
  cases c with
  | onAvailable type _ =>
    rw [networkCallback, addNetworkType]
    split
    next hempty => exact iff_of_true rfl hempty
    next hne => exact iff_of_false (by simp [h]) hne
  | onLost type _ =>
    rw [networkCallback, removeNetworkType]
    dsimp only
    split
    next hempty => exact iff_of_false Bool.false_ne_true (not_not_intro hempty)
    next hne => exact iff_of_true rfl hne

/-- The callbacks do not write the preference. -/
theorem isStarted_networkCallback (s : VpnService) (c : NetworkCallback) :
    (s.networkCallback c).controls.isStarted = s.controls.isStarted := by
  cases c with
  | onAvailable type _ =>
    rw [networkCallback, addNetworkType]
    split <;> rfl
  | onLost type _ =>
    rw [networkCallback, removeNetworkType]
    dsimp only
    split <;> rfl

end VpnService

/-! ### The system -/

/-- The service as the system creates and destroys it. -/
structure VpnLifecycle where
  /-- The instance alive, or the last one. -/
  service : VpnService
  /-- An instance is alive. -/
  alive : Bool
  /-- The workers that instances have left started when they were destroyed. -/
  leftWorkers : ℕ
  /-- The last of `START` and `STOP` that an instance has handled. -/
  lastCommand : Option Command
  deriving DecidableEq

namespace VpnLifecycle

/-- The preference, the intents and the networks change, and the service does not. -/
def setControls (s : VpnLifecycle) (controls : VpnControls) : VpnLifecycle :=
  { s with service := { s.service with controls := controls } }

/-- A new instance, whose `onCreate` finds the active network with the given transports. -/
def onCreate (s : VpnLifecycle) (activeNetwork : Finset NetworkType) : VpnLifecycle :=
  { s with
    service := (VpnService.create s.service.controls).initializeNetworkTypes activeNetwork
    alive := true }

/-- `VpnService.onStartCommand`. The system restarts the service with a `null` intent. -/
def onStartCommand (s : VpnLifecycle) (intent : Option Command) : VpnLifecycle :=
  let command := intent.getD .start
  { s.setControls (s.service.controls.onStartCommand command).2 with
    lastCommand := if command = .unknown then s.lastCommand else some command }

/-- `VpnService.onDestroy`. It unregisters the callbacks and leaves the worker as it is. -/
def onDestroy (s : VpnLifecycle) : VpnLifecycle :=
  { s.setControls { s.service.controls with workerStarted := false } with
    alive := false
    leftWorkers := s.leftWorkers + s.service.controls.workerStarted.toNat }

/-- The system kills the process, with every thread in it. -/
def kill (s : VpnLifecycle) : VpnLifecycle :=
  { s.setControls { s.service.controls with workerStarted := false } with
    alive := false
    leftWorkers := 0 }

/-- `VpnServiceHeartbeat.doWork`. -/
def doWork (s : VpnLifecycle) : VpnLifecycle :=
  if s.service.controls.isStarted ∧ ¬ s.alive then s.setControls s.service.controls.start.2 else s

/-- The application is installed. -/
def installed : VpnLifecycle where
  service := .create .installed
  alive := false
  leftWorkers := 0
  lastCommand := none

end VpnLifecycle

/-- What may happen next. -/
inductive LifecycleEvent
  /-- The system creates the service. -/
  | onCreate (activeNetwork : Finset NetworkType)
  /-- The service receives the first intent that `VpnServiceControls` has sent. -/
  | deliver
  /-- The service receives an intent of the system. -/
  | onStartCommand (intent : Option Command)
  /-- A network becomes available or is lost. -/
  | callback (c : NetworkCallback)
  /-- The system destroys the service. -/
  | onDestroy
  /-- The system kills the process. -/
  | kill
  /-- A call of `VpnServiceControls.start` or `stop`. -/
  | call (c : VpnCall)
  /-- A call of `VpnServiceControls.isRunning`. -/
  | isRunning
  /-- The heartbeat. -/
  | doWork
  /-- The VPN transport comes or goes. -/
  | network (vpn : Bool)
  deriving DecidableEq

/-- One step. The service acts only while it is alive. -/
def stepLifecycle (s : VpnLifecycle) : LifecycleEvent → Option VpnLifecycle
  | .onCreate activeNetwork => if s.alive then none else some (s.onCreate activeNetwork)
  | .deliver =>
    match s.service.controls.intents with
    | [] => none
    | command :: rest =>
      if s.alive then
        some ((s.setControls { s.service.controls with intents := rest }).onStartCommand command)
      else none
  | .onStartCommand intent => if s.alive then some (s.onStartCommand intent) else none
  | .callback c =>
    if s.alive then some { s with service := s.service.networkCallback c } else none
  | .onDestroy => if s.alive then some s.onDestroy else none
  | .kill => some s.kill
  | .call .start => some (s.setControls s.service.controls.start.2)
  | .call .stop => some (s.setControls s.service.controls.stop)
  | .isRunning => some (s.setControls s.service.controls.isRunning.2)
  | .doWork => some s.doWork
  | .network vpn => some (s.setControls { s.service.controls with networkVpn := vpn })

namespace VpnLifecycle

/-- A delivery hands the first intent under way to the service. -/
theorem stepLifecycle_deliver {s t : VpnLifecycle} (h : stepLifecycle s .deliver = some t) :
    ∃ command rest, t =
      (s.setControls { s.service.controls with intents := rest }).onStartCommand command := by
  rw [stepLifecycle] at h
  split at h
  next => cases h
  next command rest _ =>
    obtain ⟨-, rfl⟩ := by simpa using h
    exact ⟨command, rest, rfl⟩

/-! ### Once stopped, or destroyed -/

/-- After `STOP` the worker is not started, and destroyed instances have left none. -/
structure Settled (s : VpnLifecycle) : Prop where
  stopped : s.lastCommand = some .stop → s.service.controls.workerStarted = false
  left : s.leftWorkers = 0

theorem settled_installed : installed.Settled := ⟨fun _ => rfl, rfl⟩

theorem Settled.setControls {s : VpnLifecycle} (hs : s.Settled) {controls : VpnControls}
    (hw : controls.workerStarted = s.service.controls.workerStarted) :
    (s.setControls controls).Settled :=
  ⟨fun hstop => hw.trans (hs.stopped hstop), hs.left⟩

theorem Settled.onStartCommand {s : VpnLifecycle} (hs : s.Settled) (intent : Option Command) :
    (s.onStartCommand intent).Settled := by
  refine ⟨fun hstop => ?_, hs.left⟩
  rcases intent with _ | command
  · cases hstop
  · cases command with
    | start => cases hstop
    | stop => rfl
    | unknown => exact hs.stopped hstop

end VpnLifecycle

/-- No callback reconnects after `STOP`, and no instance is destroyed with its worker started. -/
def KeepsStopped (s : VpnLifecycle) : LifecycleEvent → Prop
  | .callback c => s.lastCommand = some .stop → ¬ s.service.Reconnects c
  | .onDestroy => s.service.controls.workerStarted = false
  | _ => True

instance (s : VpnLifecycle) (e : LifecycleEvent) : Decidable (KeepsStopped s e) := by
  cases e <;> (unfold KeepsStopped; infer_instance)

namespace VpnLifecycle

theorem settled_callback {s : VpnLifecycle} {c : NetworkCallback} (hs : s.Settled) :
    Settled { s with service := s.service.networkCallback c } ↔
      (s.lastCommand = some .stop → ¬ s.service.Reconnects c) := by
  constructor
  · intro ht hstop hreconnects
    have hstarted := (VpnService.workerStarted_networkCallback (hs.stopped hstop)).mpr hreconnects
    exact absurd ((ht.stopped hstop).symm.trans hstarted) Bool.false_ne_true
  · intro hok
    refine ⟨fun hstop => ?_, hs.left⟩
    refine Bool.eq_false_iff.mpr fun hstarted => hok hstop ?_
    exact (VpnService.workerStarted_networkCallback (hs.stopped hstop)).mp hstarted

theorem settled_onDestroy {s : VpnLifecycle} (hs : s.Settled) :
    s.onDestroy.Settled ↔ s.service.controls.workerStarted = false := by
  have hleft : s.onDestroy.leftWorkers = s.service.controls.workerStarted.toNat :=
    (congrArg (· + _) hs.left).trans (Nat.zero_add _)
  constructor
  · intro ht
    exact Bool.toNat_eq_zero.mp (hleft.symm.trans ht.left)
  · intro hw
    exact ⟨fun _ => rfl, hleft.trans (Bool.toNat_eq_zero.mpr hw)⟩

/-- **One event** leaves no worker behind exactly when it meets `KeepsStopped`. -/
theorem settled_step {s t : VpnLifecycle} {e : LifecycleEvent} (hs : s.Settled)
    (h : stepLifecycle s e = some t) : t.Settled ↔ KeepsStopped s e := by
  cases e with
  | onCreate activeNetwork =>
    obtain ⟨-, rfl⟩ := by simpa [stepLifecycle] using h
    exact iff_of_true ⟨fun _ => rfl, hs.left⟩ trivial
  | deliver =>
    obtain ⟨command, rest, rfl⟩ := stepLifecycle_deliver h
    have hrest : (s.setControls { s.service.controls with intents := rest }).Settled :=
      hs.setControls rfl
    exact iff_of_true (hrest.onStartCommand command) trivial
  | onStartCommand intent =>
    obtain ⟨-, rfl⟩ := by simpa [stepLifecycle] using h
    exact iff_of_true (hs.onStartCommand intent) trivial
  | callback c =>
    obtain ⟨-, rfl⟩ := by simpa [stepLifecycle] using h
    exact settled_callback hs
  | onDestroy =>
    obtain ⟨-, rfl⟩ := by simpa [stepLifecycle] using h
    exact settled_onDestroy hs
  | kill =>
    obtain rfl := Option.some.inj h
    exact iff_of_true ⟨fun _ => rfl, rfl⟩ trivial
  | call c =>
    refine iff_of_true ?_ trivial
    cases c with
    | start =>
      obtain rfl := Option.some.inj h
      exact hs.setControls s.service.controls.workerStarted_start
    | stop =>
      obtain rfl := Option.some.inj h
      exact hs.setControls rfl
  | isRunning =>
    obtain rfl := Option.some.inj h
    exact iff_of_true (hs.setControls s.service.controls.isRunning_frame.2.1) trivial
  | doWork =>
    obtain rfl := Option.some.inj h
    refine iff_of_true ?_ trivial
    rw [doWork]
    split
    next => exact hs.setControls s.service.controls.workerStarted_start
    next => exact hs
  | network vpn =>
    obtain rfl := Option.some.inj h
    exact iff_of_true (hs.setControls rfl) trivial

end VpnLifecycle

/-- **Once stopped, or destroyed.** In every state of a run, the worker is not started while `STOP`
is the last command handled, and no destroyed instance has left its worker started, exactly when no
callback of the run reconnects after a `STOP` and the service is never destroyed with its worker
started. A worker is started while `VpnWorker` has an executor; a loop that outlives its `stop` is
not counted here, and is the subject of `WorkCalls`. -/
theorem worker_stays_stopped_iff {as : List LifecycleEvent} {u : VpnLifecycle}
    (h : ActionSystem.run stepLifecycle .installed as = some u) :
    (∀ bs, bs <+: as → ∀ t, ActionSystem.run stepLifecycle .installed bs = some t →
      (t.lastCommand = some .stop → t.service.controls.workerStarted = false) ∧
        t.leftWorkers = 0) ↔
    ActionSystem.StepsMeet stepLifecycle KeepsStopped .installed as := by
  refine ActionSystem.stepsMeet_iff_forall_prefix_of (I := VpnLifecycle.Settled)
    (fun s hs => ⟨hs.stopped, hs.left⟩) (fun s e t hs hok ht => ?_) (fun s e t hs ht hP => ?_)
    VpnLifecycle.settled_installed h
  · exact (VpnLifecycle.settled_step hs ht).mpr hok
  · exact (VpnLifecycle.settled_step hs ht).mp ⟨hP.1, hP.2⟩

/-- The service is started, stopped, and destroyed once it has stopped. -/
def startedAndStopped : List LifecycleEvent :=
  [.call .start, .onCreate {.wifi}, .deliver, .network true, .call .stop, .deliver, .onDestroy]

theorem worker_stays_stopped_iff_startedAndStopped : ∃ u : VpnLifecycle,
    ActionSystem.run stepLifecycle .installed startedAndStopped = some u ∧
    ∀ bs, bs <+: startedAndStopped → ∀ t,
      ActionSystem.run stepLifecycle .installed bs = some t →
      (t.lastCommand = some .stop → t.service.controls.workerStarted = false) ∧
        t.leftWorkers = 0 := by
  obtain ⟨u, hu⟩ : ∃ u : VpnLifecycle,
      ActionSystem.run stepLifecycle .installed startedAndStopped = some u := ⟨_, rfl⟩
  exact ⟨u, hu, (worker_stays_stopped_iff hu).mpr (by decide)⟩

/-- Wi-Fi comes back between `stopSelf` and `onDestroy`, so the service reconnects and is destroyed
with its worker started. -/
theorem not_worker_stays_stopped :
    (¬ ∀ (as : List LifecycleEvent) (t : VpnLifecycle),
      ActionSystem.run stepLifecycle .installed as = some t → t.lastCommand = some .stop →
      t.service.controls.workerStarted = false) ∧
    ¬ ∀ (as : List LifecycleEvent) (t : VpnLifecycle),
      ActionSystem.run stepLifecycle .installed as = some t → t.alive = false →
      t.leftWorkers = 0 := by
  constructor
  · intro h
    have hreconnected := h [.call .start, .onCreate ∅, .deliver, .call .stop, .deliver,
      .callback (.onAvailable .wifi 1)] _ rfl rfl
    exact absurd hreconnected (by decide)
  · intro h
    have hdestroyed := h [.call .start, .onCreate ∅, .deliver, .call .stop, .deliver,
      .callback (.onAvailable .wifi 1), .onDestroy] _ rfl rfl
    exact absurd hdestroyed (by decide)

/-! ### While started -/

/-- No query is made while the VPN transport is missing and `START` is the last command handled. The
methods that start the service make one too. -/
def QueriesSafely (s : VpnLifecycle) : LifecycleEvent → Prop
  | .isRunning | .call .start => s.lastCommand = some .start → s.service.controls.networkVpn = true
  | .doWork =>
    s.lastCommand = some .start → s.alive = false → s.service.controls.networkVpn = true
  | _ => True

/-- If the heartbeat fires after `START` and finds no service, it sends `START`. -/
def Restarts (s : VpnLifecycle) : LifecycleEvent → Prop
  | .doWork => s.lastCommand = some .start → s.alive = false →
      s.doWork.service.controls.intents = s.service.controls.intents ++ [.start]
  | _ => True

/-- While `START` is the last command handled, no query is made without the VPN transport, and the
heartbeat does not fire for a service that is not alive. -/
def KeepsStarted (s : VpnLifecycle) : LifecycleEvent → Prop
  | .isRunning | .call .start => s.lastCommand = some .start → s.service.controls.networkVpn = true
  | .doWork => ¬ (s.lastCommand = some .start ∧ s.alive = false)
  | _ => True

instance (s : VpnLifecycle) (e : LifecycleEvent) : Decidable (KeepsStarted s e) := by
  unfold KeepsStarted
  split <;> infer_instance

namespace VpnLifecycle

/-- After `START` the status is a started one. -/
def StartedAfterStart (s : VpnLifecycle) : Prop :=
  s.lastCommand = some .start → s.service.controls.isStarted = true

theorem StartedAfterStart.onStartCommand {s : VpnLifecycle} (hs : s.StartedAfterStart)
    (intent : Option Command) : (s.onStartCommand intent).StartedAfterStart := by
  intro hstart
  rcases intent with _ | command
  · rfl
  · cases command with
    | start => rfl
    | stop => cases hstart
    | unknown => exact hs hstart

/-- A query or a call that makes one. -/
theorem startedAfterStart_query {s : VpnLifecycle} {controls : VpnControls}
    (hs : s.StartedAfterStart)
    (hquery : controls.isStarted = true ↔
      s.service.controls.isStarted = true ∧ s.service.controls.networkVpn = true) :
    (s.setControls controls).StartedAfterStart ↔
      (s.lastCommand = some .start → s.service.controls.networkVpn = true) := by
  constructor
  · intro ht hstart
    exact (hquery.mp (ht hstart)).2
  · intro hok hstart
    exact hquery.mpr ⟨hs hstart, hok hstart⟩

theorem startedAfterStart_doWork {s : VpnLifecycle} (hs : s.StartedAfterStart) :
    s.doWork.StartedAfterStart ↔
      (s.lastCommand = some .start → s.alive = false →
        s.service.controls.networkVpn = true) := by
  rw [doWork]
  split
  next hguard =>
    have halive : s.alive = false := by simpa using hguard.2
    rw [startedAfterStart_query hs s.service.controls.isStarted_start]
    simp [halive]
  next hguard =>
    refine iff_of_true hs fun hstart halive => ?_
    exact absurd ⟨hs hstart, by simp [halive]⟩ hguard

/-- **One event** keeps the status of a started service exactly when it queries safely. -/
theorem startedAfterStart_step {s t : VpnLifecycle} {e : LifecycleEvent}
    (hs : s.StartedAfterStart) (h : stepLifecycle s e = some t) :
    t.StartedAfterStart ↔ QueriesSafely s e := by
  cases e with
  | onCreate activeNetwork =>
    obtain ⟨-, rfl⟩ := by simpa [stepLifecycle] using h
    exact iff_of_true hs trivial
  | deliver =>
    obtain ⟨command, rest, rfl⟩ := stepLifecycle_deliver h
    have hrest : (s.setControls
        { s.service.controls with intents := rest }).StartedAfterStart := hs
    exact iff_of_true (hrest.onStartCommand command) trivial
  | onStartCommand intent =>
    obtain ⟨-, rfl⟩ := by simpa [stepLifecycle] using h
    exact iff_of_true (hs.onStartCommand intent) trivial
  | callback c =>
    obtain ⟨-, rfl⟩ := by simpa [stepLifecycle] using h
    refine iff_of_true (fun hstart => ?_) trivial
    exact (s.service.isStarted_networkCallback c).trans (hs hstart)
  | onDestroy =>
    obtain ⟨-, rfl⟩ := by simpa [stepLifecycle] using h
    exact iff_of_true hs trivial
  | kill =>
    obtain rfl := Option.some.inj h
    exact iff_of_true hs trivial
  | call c =>
    cases c with
    | start =>
      obtain rfl := Option.some.inj h
      exact startedAfterStart_query hs s.service.controls.isStarted_start
    | stop =>
      obtain rfl := Option.some.inj h
      exact iff_of_true hs trivial
  | isRunning =>
    obtain rfl := Option.some.inj h
    exact startedAfterStart_query hs s.service.controls.isStarted_isRunning
  | doWork =>
    obtain rfl := Option.some.inj h
    exact startedAfterStart_doWork hs
  | network vpn =>
    obtain rfl := Option.some.inj h
    exact iff_of_true hs trivial

/-- With a started status, the heartbeat sends `START` to a service that is not alive exactly when no
network has the VPN transport. -/
theorem doWork_restarts_iff {s : VpnLifecycle} (hstarted : s.service.controls.isStarted = true)
    (halive : s.alive = false) :
    s.doWork.service.controls.intents = s.service.controls.intents ++ [.start] ↔
      s.service.controls.networkVpn = false := by
  have hwork : s.doWork = s.setControls s.service.controls.start.2 :=
    if_pos ⟨hstarted, by simp [halive]⟩
  rw [hwork]
  by_cases hrunning : s.service.controls.Running
  · rw [VpnControls.start_of_running hrunning]
    refine iff_of_false (fun hsent => ?_) (by simp [hrunning.2])
    exact absurd (congrArg List.length hsent) (by simp [setControls])
  · have hnetwork : s.service.controls.networkVpn = false := by
      rw [VpnControls.Running] at hrunning
      exact Bool.eq_false_iff.mpr fun hvpn => hrunning ⟨hstarted, hvpn⟩
    exact iff_of_true (VpnControls.start_of_not_running hrunning).1 hnetwork

/-- A heartbeat after `START` either writes the preference or does not restart the service. -/
theorem keepsStarted_iff {s : VpnLifecycle} (hs : s.StartedAfterStart) (e : LifecycleEvent) :
    KeepsStarted s e ↔ QueriesSafely s e ∧ Restarts s e := by
  cases e with
  | doWork =>
    constructor
    · exact fun hnot => ⟨fun hstart halive => absurd ⟨hstart, halive⟩ hnot,
        fun hstart halive => absurd ⟨hstart, halive⟩ hnot⟩
    · rintro ⟨hsafe, hrestarts⟩ ⟨hstart, halive⟩
      have hnetwork := (doWork_restarts_iff (hs hstart) halive).mp (hrestarts hstart halive)
      exact absurd ((hsafe hstart halive).symm.trans hnetwork) (by decide)
  | call c => cases c <;> exact (and_iff_left trivial).symm
  | _ => exact (and_iff_left trivial).symm

end VpnLifecycle

/-- **While started.** In every state of a run in which `START` is the last command handled the
status is a started one, and every heartbeat of the run that fires then for a service that is not
alive sends `START`, exactly when no query of the run is made after `START` without the VPN transport
and no heartbeat fires then for a service that is not alive: such a heartbeat makes a query itself,
and does not send `START` if the query finds the transport. -/
theorem status_stays_started_iff {as : List LifecycleEvent} {u : VpnLifecycle}
    (h : ActionSystem.run stepLifecycle .installed as = some u) :
    ((∀ bs, bs <+: as → ∀ t, ActionSystem.run stepLifecycle .installed bs = some t →
        t.lastCommand = some .start → t.service.controls.isStarted = true) ∧
      ∀ before after t, as = before ++ .doWork :: after →
        ActionSystem.run stepLifecycle .installed before = some t →
        t.lastCommand = some .start → t.alive = false →
        t.doWork.service.controls.intents = t.service.controls.intents ++ [.start]) ↔
    ActionSystem.StepsMeet stepLifecycle KeepsStarted .installed as := by
  have hinstalled : VpnLifecycle.installed.StartedAfterStart := nofun
  have hstatus : (∀ bs, bs <+: as → ∀ t, ActionSystem.run stepLifecycle .installed bs = some t →
        t.lastCommand = some .start → t.service.controls.isStarted = true) ↔
      ActionSystem.StepsMeet stepLifecycle QueriesSafely .installed as :=
    ActionSystem.stepsMeet_iff_forall_prefix (I := VpnLifecycle.StartedAfterStart)
      (fun s e t hs ht => VpnLifecycle.startedAfterStart_step hs ht) hinstalled h
  rw [hstatus]
  simp only [ActionSystem.stepsMeet_iff_forall_append]
  constructor
  · rintro ⟨hsafe, hrestarts⟩ before e after t happ ht
    -- the status is a started one where the event happens
    have hstarted : t.StartedAfterStart :=
      hstatus.mpr (ActionSystem.stepsMeet_iff_forall_append.mpr hsafe) before
        ⟨e :: after, happ.symm⟩ t ht
    refine (VpnLifecycle.keepsStarted_iff hstarted e).mpr ⟨hsafe before e after t happ ht, ?_⟩
    cases e with
    | doWork => exact hrestarts before after t happ ht
    | _ => trivial
  · intro hkeeps
    have hstep : ∀ s e s', s.StartedAfterStart → KeepsStarted s e →
        stepLifecycle s e = some s' → s'.StartedAfterStart := by
      intro s e s' hs hok hstep
      exact (VpnLifecycle.startedAfterStart_step hs hstep).mpr
        ((VpnLifecycle.keepsStarted_iff hs e).mp hok).1
    have hinv : ∀ before e after t, as = before ++ e :: after →
        ActionSystem.run stepLifecycle .installed before = some t → t.StartedAfterStart := by
      intro before e after t happ ht
      refine ActionSystem.invariant_run_of_stepsMeet hstep hinstalled ?_ ht
      refine ActionSystem.stepsMeet_iff_forall_append.mpr fun before' e' after' s hbefore hs => ?_
      refine hkeeps before' e' (after' ++ e :: after) s ?_ hs
      rw [happ, hbefore, List.append_assoc, List.cons_append]
    constructor
    · intro before e after t happ ht
      exact ((VpnLifecycle.keepsStarted_iff (hinv before e after t happ ht) e).mp
        (hkeeps before e after t happ ht)).1
    · intro before after t happ ht
      exact ((VpnLifecycle.keepsStarted_iff (hinv before _ after t happ ht) .doWork).mp
        (hkeeps before _ after t happ ht)).2

/-- The service is started, queried while its tunnel is open, and killed; the heartbeat has run
before. -/
def startedAndKilled : List LifecycleEvent :=
  [.call .start, .onCreate {.wifi}, .deliver, .network true, .isRunning, .doWork, .kill,
    .network false]

theorem status_stays_started_iff_startedAndKilled : ∃ u : VpnLifecycle,
    ActionSystem.run stepLifecycle .installed startedAndKilled = some u ∧
    (∀ bs, bs <+: startedAndKilled → ∀ t,
      ActionSystem.run stepLifecycle .installed bs = some t →
      t.lastCommand = some .start → t.service.controls.isStarted = true) ∧
    ∀ before after t, startedAndKilled = before ++ .doWork :: after →
      ActionSystem.run stepLifecycle .installed before = some t →
      t.lastCommand = some .start → t.alive = false →
      t.doWork.service.controls.intents = t.service.controls.intents ++ [.start] := by
  obtain ⟨u, hu⟩ : ∃ u : VpnLifecycle,
      ActionSystem.run stepLifecycle .installed startedAndKilled = some u := ⟨_, rfl⟩
  exact ⟨u, hu, (status_stays_started_iff hu).mpr (by decide)⟩

/-- The last network is lost, so the service closes its tunnel and waits. The home screen asks
`isRunning`, and from then on the heartbeat takes the service for stopped. -/
theorem not_status_stays_started :
    ¬ ∀ (as : List LifecycleEvent) (t : VpnLifecycle),
      ActionSystem.run stepLifecycle .installed as = some t → t.lastCommand = some .start →
      t.service.controls.isStarted = true ∧
        (t.alive = false →
          t.doWork.service.controls.intents = t.service.controls.intents ++ [.start]) := by
  intro h
  have hqueried := h [.call .start, .onCreate {.wifi}, .deliver, .network true,
    .callback (.onLost .wifi 1), .network false, .isRunning, .callback (.onAvailable .wifi 2),
    .network true, .kill] _ rfl rfl
  exact absurd hqueried.1 (by decide)

end AdAway
