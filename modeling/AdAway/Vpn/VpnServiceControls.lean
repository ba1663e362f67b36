import AdAway.Library.ActionSystem
import Mathlib.Data.Int.Basic
import Mathlib.Data.List.Basic

/-!
# Starting and stopping the VPN service

`VpnServiceControls` is called from the user interface, the boot receiver and the heartbeat. It does
not act on the VPN itself: `stop` always sends an intent to `VpnService`, and `start` sends one
unless it believes the VPN to be running already. The service receives the intents in order, each at
some later time, and starts or stops the `VpnWorker`.

What `start` believes is a preference, `pref_vpn_service_status`, which the *service* writes on
delivery, and whether some network of the device has the VPN transport. Neither knows of the intents
still under way.

## Main definitions

* `VpnStatus`, `Command` — the two enumerations
* `VpnControls` — the preference, the networks, the intents under way and the worker
* `isRunning`, `start`, `stop`, `onStartCommand` — the methods
* `stepVpnControls` — calls, deliveries and network changes

## Main results

* `fromCode_toCode` — the preference reads back as written
* `VpnControls.Consistent.step` — a started status means a started worker
* `worker_matches_iff` — when the worker ends up as the last call asked
-/

namespace AdAway

/-! ### Status and commands -/

/-- The statuses of the VPN service. -/
inductive VpnStatus
  | starting
  | running
  | stopping
  | waitingForNetwork
  | reconnecting
  | reconnectingNetworkError
  | stopped
  deriving DecidableEq, Repr

/-- `VpnStatus.values`, in the order of the source. -/
def VpnStatus.values : List VpnStatus :=
  [.starting, .running, .stopping, .waitingForNetwork, .reconnecting, .reconnectingNetworkError,
    .stopped]

/-- `VpnStatus.toCode`. -/
def VpnStatus.toCode : VpnStatus → ℤ
  | .starting => 10
  | .running => 11
  | .stopping => 20
  | .waitingForNetwork => 21
  | .reconnecting => 22
  | .reconnectingNetworkError => 23
  | .stopped => 0

/-- `VpnStatus.fromCode`. -/
def VpnStatus.fromCode (code : ℤ) : VpnStatus :=
  (VpnStatus.values.find? fun vpnStatus => vpnStatus.toCode = code).getD .stopped

/-- `VpnStatus.isStarted`. -/
def VpnStatus.isStarted (status : VpnStatus) : Bool := status ≠ .stopped

@[simp] theorem VpnStatus.fromCode_toCode (status : VpnStatus) :
    VpnStatus.fromCode status.toCode = status := by
  cases status <;> rfl

/-- The command an intent carries. -/
inductive Command
  /-- Start the ad-blocking. -/
  | start
  /-- Stop the ad-blocking. -/
  | stop
  /-- Unknown command. -/
  | unknown
  deriving DecidableEq, Repr

/-- What `onStartCommand` tells the system about restarting the service. -/
inductive StartResult
  | sticky
  | notSticky
  deriving DecidableEq, Repr

/-! ### The methods -/

/-- What the controls and the service read and write. -/
structure VpnControls where
  /-- The preference `pref_vpn_service_status`. -/
  statusCode : ℤ
  /-- Some network of the device has the VPN transport. -/
  networkVpn : Bool
  /-- The intents sent to the service and not delivered yet. -/
  intents : List Command
  /-- `VpnWorker` has an executor. -/
  workerStarted : Bool
  /-- The heartbeat is scheduled. -/
  heartbeat : Bool
  /-- The status the service has published last. -/
  published : Option VpnStatus
  deriving DecidableEq, Repr

namespace VpnControls

/-- `PreferenceHelper.getVpnServiceStatus`. -/
def getVpnServiceStatus (s : VpnControls) : VpnStatus := .fromCode s.statusCode

/-- `PreferenceHelper.setVpnServiceStatus`. -/
def setVpnServiceStatus (s : VpnControls) (status : VpnStatus) : VpnControls :=
  { s with statusCode := status.toCode }

@[simp] theorem getVpnServiceStatus_set (s : VpnControls) (status : VpnStatus) :
    (s.setVpnServiceStatus status).getVpnServiceStatus = status :=
  VpnStatus.fromCode_toCode status

/-- The answer of `isRunning`, as a condition on the state. -/
def Running (s : VpnControls) : Prop :=
  s.getVpnServiceStatus.isStarted = true ∧ s.networkVpn = true

instance (s : VpnControls) : Decidable s.Running := by unfold Running; infer_instance

/-- `VpnServiceControls.isRunning`. -/
def isRunning (s : VpnControls) : Bool × VpnControls :=
  let status := s.getVpnServiceStatus
  if status.isStarted ∧ !s.networkVpn then
    (VpnStatus.stopped.isStarted, s.setVpnServiceStatus .stopped)
  else (status.isStarted, s)

/-- `VpnServiceControls.start`. -/
def start (s : VpnControls) : Bool × VpnControls :=
  match s.isRunning with
  | (true, s) => (true, s)
  | (false, s) => (true, { s with intents := s.intents ++ [.start], heartbeat := true })

/-- `VpnServiceControls.stop`. -/
def stop (s : VpnControls) : VpnControls :=
  { s with heartbeat := false, intents := s.intents ++ [.stop] }

/-- `VpnService.startVpn`. -/
def startVpn (s : VpnControls) : VpnControls :=
  { s.setVpnServiceStatus .running with published := some .starting, workerStarted := true }

/-- `VpnService.stopVpn`. -/
def stopVpn (s : VpnControls) : VpnControls :=
  { s.setVpnServiceStatus .stopped with workerStarted := false, published := some .stopped }

/-- `VpnService.onStartCommand`. -/
def onStartCommand (s : VpnControls) : Command → StartResult × VpnControls
  | .start => (.sticky, s.startVpn)
  | .stop => (.notSticky, s.stopVpn)
  | .unknown => (.notSticky, s)

/-- The application is installed: the default status, no intent, no worker. -/
def installed : VpnControls where
  statusCode := 0
  networkVpn := false
  intents := []
  workerStarted := false
  heartbeat := false
  published := none

end VpnControls

/-! ### The system -/

/-- A call of one of the two controls. -/
inductive VpnCall
  | start
  | stop
  deriving DecidableEq, Repr

/-- What may happen next. -/
inductive VpnEvent
  /-- A call of `start` or `stop`. -/
  | call (c : VpnCall)
  /-- A call of `isRunning` from elsewhere. -/
  | isRunning
  /-- The service receives the first intent under way. -/
  | deliver
  /-- The networks of the device change. -/
  | network (vpn : Bool)
  deriving DecidableEq, Repr

/-- One step. -/
def stepVpnControls (s : VpnControls) : VpnEvent → Option VpnControls
  | .call .start => some s.start.2
  | .call .stop => some s.stop
  | .isRunning => some s.isRunning.2
  | .deliver =>
    match s.intents with
    | [] => none
    | command :: rest => some ({ s with intents := rest }.onStartCommand command).2
  | .network vpn => some { s with networkVpn := vpn }

namespace VpnControls

/-! ### What the methods do -/

/-- A delivery hands the first intent under way to the service. -/
theorem stepVpnControls_deliver {s s' : VpnControls} (h : stepVpnControls s .deliver = some s') :
    ∃ command rest, s.intents = command :: rest ∧
      s' = ({ s with intents := rest }.onStartCommand command).2 := by
  rw [stepVpnControls] at h
  split at h
  next => cases h
  next command rest hintents => exact ⟨command, rest, hintents, (Option.some.inj h).symm⟩

theorem isRunning_of_running {s : VpnControls} (h : s.Running) : s.isRunning = (true, s) := by
  simp [isRunning, h.1, h.2]

theorem isRunning_of_not_running {s : VpnControls} (h : ¬ s.Running) :
    s.isRunning.1 = false ∧ s.isRunning.2.intents = s.intents ∧
      s.isRunning.2.workerStarted = s.workerStarted ∧
      s.isRunning.2.getVpnServiceStatus.isStarted = false := by
  cases hst : s.getVpnServiceStatus.isStarted with
  | false => simp [isRunning, hst]
  | true =>
    have hnet : s.networkVpn = false := by
      simpa [Running, hst] using h
    have heq : s.isRunning = (false, s.setVpnServiceStatus .stopped) :=
      if_pos ⟨hst, by rw [hnet]; rfl⟩
    rw [heq, getVpnServiceStatus_set]
    exact ⟨rfl, rfl, rfl, rfl⟩

/-- `isRunning` leaves the intents and the worker alone, and a started status only as it was. -/
theorem isRunning_frame (s : VpnControls) :
    s.isRunning.2.intents = s.intents ∧ s.isRunning.2.workerStarted = s.workerStarted ∧
      (s.isRunning.2.getVpnServiceStatus.isStarted = true →
        s.getVpnServiceStatus.isStarted = true) := by
  by_cases h : s.Running
  · rw [isRunning_of_running h]
    exact ⟨rfl, rfl, id⟩
  · obtain ⟨-, hi, hw, hst⟩ := isRunning_of_not_running h
    refine ⟨hi, hw, fun ht => ?_⟩
    rw [hst] at ht
    cases ht

theorem start_of_running {s : VpnControls} (h : s.Running) : s.start.2 = s := by
  rw [start, isRunning_of_running h]

theorem start_of_not_running {s : VpnControls} (h : ¬ s.Running) :
    s.start.2.intents = s.intents ++ [.start] ∧ s.start.2.workerStarted = s.workerStarted ∧
      s.start.2.getVpnServiceStatus.isStarted = false := by
  obtain ⟨hr, hi, hw, hst⟩ := isRunning_of_not_running h
  have hstart : s.start.2 =
      { s.isRunning.2 with intents := s.isRunning.2.intents ++ [.start], heartbeat := true } := by
    rw [start]
    split
    next heq => rw [heq] at hr; cases hr
    next heq => rw [heq]
  rw [hstart]
  exact ⟨congrArg (· ++ _) hi, hw, hst⟩

/-! ### What the deliveries under way will do -/

/-- What an intent makes of the worker. -/
def afterCommand (worker : Bool) : Command → Bool
  | .start => true
  | .stop => false
  | .unknown => worker

/-- Whether the worker is started once the intents under way are delivered. -/
def willBeStarted (s : VpnControls) : Bool := s.intents.foldl afterCommand s.workerStarted

theorem willBeStarted_append {s s' : VpnControls} {command : Command}
    (hi : s'.intents = s.intents ++ [command]) (hw : s'.workerStarted = s.workerStarted) :
    s'.willBeStarted = afterCommand s.willBeStarted command := by
  rw [willBeStarted, hi, hw, List.foldl_append]
  rfl

theorem workerStarted_onStartCommand (s : VpnControls) (command : Command) :
    (s.onStartCommand command).2.workerStarted = afterCommand s.workerStarted command ∧
      (s.onStartCommand command).2.intents = s.intents := by
  cases command <;> exact ⟨rfl, rfl⟩

/-- Deliveries, checks and network changes leave the outcome as it is. -/
theorem willBeStarted_step {s s' : VpnControls} {e : VpnEvent} (h : stepVpnControls s e = some s')
    (he : ∀ c, e ≠ .call c) : s'.willBeStarted = s.willBeStarted := by
  cases e with
  | call c => exact absurd rfl (he c)
  | isRunning =>
    obtain rfl := Option.some.inj h
    obtain ⟨hi, hw, -⟩ := isRunning_frame s
    rw [willBeStarted, hi, hw]
    rfl
  | deliver =>
    obtain ⟨command, rest, hintents, rfl⟩ := stepVpnControls_deliver h
    obtain ⟨hw, hi⟩ := workerStarted_onStartCommand { s with intents := rest } command
    rw [willBeStarted, willBeStarted, hw, hi, hintents]
    rfl
  | network vpn =>
    obtain rfl := Option.some.inj h
    rfl

/-- What a call makes of the outcome: `start` is lost when it takes the VPN for running. -/
theorem willBeStarted_call {s s' : VpnControls} {c : VpnCall}
    (h : stepVpnControls s (.call c) = some s') :
    s'.willBeStarted = match c with
      | .start => if s.Running then s.willBeStarted else true
      | .stop => false := by
  cases c with
  | start =>
    obtain rfl := Option.some.inj h
    show s.start.2.willBeStarted = if s.Running then s.willBeStarted else true
    by_cases hr : s.Running
    · rw [start_of_running hr, if_pos hr]
    · obtain ⟨hi, hw, -⟩ := start_of_not_running hr
      rw [willBeStarted_append hi hw, if_neg hr]
      rfl
  | stop =>
    obtain rfl := Option.some.inj h
    exact (willBeStarted_append rfl rfl : s.stop.willBeStarted = afterCommand s.willBeStarted .stop)

/-! ### The status and the worker -/

/-- The preference claims no more than the worker does, and no intent is of an unknown command. -/
structure Consistent (s : VpnControls) : Prop where
  worker : s.getVpnServiceStatus.isStarted = true → s.workerStarted = true
  known : ∀ command ∈ s.intents, command ≠ .unknown

theorem consistent_installed : installed.Consistent :=
  ⟨nofun, fun _ h => absurd h List.not_mem_nil⟩

theorem Consistent.step {s s' : VpnControls} {e : VpnEvent} (hs : s.Consistent)
    (h : stepVpnControls s e = some s') : s'.Consistent := by
  have hsent : ∀ {command : Command}, command ≠ .unknown →
      ∀ command' ∈ s.intents ++ [command], command' ≠ .unknown := by
    intro command hc command' hmem
    rcases List.mem_append.mp hmem with hmem | hmem
    · exact hs.known command' hmem
    · exact List.mem_singleton.mp hmem ▸ hc
  cases e with
  | call c =>
    cases c with
    | start =>
      obtain rfl := Option.some.inj h
      by_cases hr : s.Running
      · rwa [start_of_running hr]
      · obtain ⟨hi, -, hst⟩ := start_of_not_running hr
        refine ⟨fun ht => ?_, hi ▸ hsent Command.noConfusion⟩
        rw [hst] at ht
        cases ht
    | stop =>
      obtain rfl := Option.some.inj h
      exact ⟨hs.worker, hsent Command.noConfusion⟩
  | isRunning =>
    obtain rfl := Option.some.inj h
    obtain ⟨hi, hw, hst⟩ := isRunning_frame s
    refine ⟨fun ht => ?_, hi ▸ hs.known⟩
    rw [hw]
    exact hs.worker (hst ht)
  | deliver =>
    obtain ⟨command, rest, hintents, rfl⟩ := stepVpnControls_deliver h
    have hrest : ∀ command' ∈ rest, command' ≠ .unknown := fun command' hmem =>
      hs.known command' (hintents ▸ List.mem_cons_of_mem command hmem)
    cases command with
    | start => exact ⟨fun _ => rfl, hrest⟩
    | stop => exact ⟨nofun, hrest⟩
    | unknown => exact ⟨hs.worker, hrest⟩
  | network vpn =>
    obtain rfl := Option.some.inj h
    exact ⟨hs.worker, hs.known⟩

/-- While the VPN is taken for running, only an undelivered `stop` can stop it. -/
theorem Consistent.willBeStarted_iff {s : VpnControls} (hs : s.Consistent) (hr : s.Running) :
    s.willBeStarted = true ↔ s.intents.getLast? ≠ some .stop := by
  rcases List.eq_nil_or_concat s.intents with hnil | ⟨init, command, hconcat⟩
  · rw [willBeStarted, hnil]
    exact iff_of_true (hs.worker hr.1) (by simp)
  · have hknown : command ≠ .unknown := hs.known command (by simp [hconcat])
    rw [willBeStarted, hconcat, List.concat_eq_append, List.foldl_append, List.getLast?_concat]
    cases command with
    | start => exact iff_of_true rfl (by simp)
    | stop => exact iff_of_false Bool.false_ne_true (by simp)
    | unknown => exact absurd rfl hknown

end VpnControls

/-- **The last call and the worker.** Once every intent is delivered, the worker is as the last call
asked exactly when that call was not a `start` made while the VPN was taken for running and the last
intent under way was a `stop`. The worker is started while it has an executor, and the callbacks of
the networks, which start and stop it as well, are not among the events. -/
theorem worker_matches_iff {before after : List VpnEvent} {c : VpnCall} {s u : VpnControls}
    (hbefore : ActionSystem.run stepVpnControls .installed before = some s)
    (hafter : ActionSystem.run stepVpnControls s (.call c :: after) = some u)
    (hlast : ∀ e ∈ after, ∀ c, e ≠ .call c) (hdone : u.intents = []) :
    (u.workerStarted = true ↔ c = .start) ↔
      ¬ (c = .start ∧ (s.getVpnServiceStatus.isStarted = true ∧ s.networkVpn = true) ∧
        s.intents.getLast? = some .stop) := by
  have hs : s.Consistent := ActionSystem.invariant_run (fun _ _ _ hs h => hs.step h)
    VpnControls.consistent_installed hbefore
  obtain ⟨t, hcall, hrest⟩ := ActionSystem.run_cons_eq_some.mp hafter
  have hkept : u.willBeStarted = t.willBeStarted := by
    refine ActionSystem.invariant_run_of_stepsMeet
      (I := fun v => v.willBeStarted = t.willBeStarted) ?_ rfl
      (ActionSystem.stepsMeet_of_forall_mem (P := fun e => ∀ c, e ≠ .call c) hlast) hrest
    intro v e v' hv he hstep
    exact (VpnControls.willBeStarted_step hstep he).trans hv
  have hu : u.workerStarted = t.willBeStarted := by
    rw [← hkept, VpnControls.willBeStarted, hdone]
    rfl
  rw [hu, VpnControls.willBeStarted_call hcall]
  cases c with
  | stop => simp
  | start =>
    show ((if s.Running then s.willBeStarted else true) = true ↔ VpnCall.start = .start) ↔
      ¬ (VpnCall.start = .start ∧ s.Running ∧ s.intents.getLast? = some .stop)
    by_cases hr : s.Running
    · rw [if_pos hr, hs.willBeStarted_iff hr]
      simp [hr]
    · simp [hr]

theorem worker_matches_iff_started : ∃ u : VpnControls,
    ActionSystem.run stepVpnControls .installed [.call .start, .deliver] = some u ∧
    (u.workerStarted = true ↔ VpnCall.start = .start) := by
  obtain ⟨u, hu⟩ : ∃ u : VpnControls,
      ActionSystem.run stepVpnControls .installed [.call .start, .deliver] = some u := ⟨_, rfl⟩
  have hdone : u.intents = [] := by
    cases hu
    rfl
  have hbefore : ActionSystem.run stepVpnControls .installed [] = some .installed := rfl
  have hiff := worker_matches_iff hbefore hu (by simp) hdone
  exact ⟨u, hu, hiff.mpr (by decide)⟩

/-- The restart of the preferences: `stop` and `start` in a row while the VPN runs. The `stop` is
delivered after `start` has found the VPN running. -/
theorem not_worker_matches :
    ¬ ∀ (before after : List VpnEvent) (c : VpnCall) (s u : VpnControls),
      ActionSystem.run stepVpnControls .installed before = some s →
      ActionSystem.run stepVpnControls s (.call c :: after) = some u →
      (∀ e ∈ after, ∀ c, e ≠ .call c) → u.intents = [] →
      (u.workerStarted = true ↔ c = .start) := by
  intro h
  have hrestart := h [.call .start, .deliver, .network true, .isRunning, .call .stop] [.deliver]
    .start _ _ rfl rfl (by simp) rfl
  exact absurd (hrestart.mpr rfl) (by decide)

end AdAway
