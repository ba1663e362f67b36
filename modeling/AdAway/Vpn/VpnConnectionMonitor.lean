import AdAway.Library.ActionSystem
import Mathlib.Data.Finset.Prod

/-!
# The loop that watches the VPN interface

`VpnWorker.start` submits `VpnConnectionMonitor.monitor` to a new executor and shuts the previous
one down. The monitor itself is one object for the life of the worker: every submission runs over
the same two fields, the flag `running` and the watched interface. When a loop finds its interface
down, it calls `stop` before it has the service started again.

No method sets `running` back to `true`, so the loop submitted by the start that follows ends at its
first test. And a loop of an executor shut down may still be in its probe: if the probe throws, its
handler resets the interface under the loop that watches it now.

## Granularity

Each access to a field of the monitor is a step of its own, since the loops of executors shut down
earlier may still be on their way, and since `stop` of the worker resets the interface under a loop
that has just found it set. `shutdownNow` only sets the interrupt flag, which a loop notices when it
sleeps. The calls of `start` and `stop` are one step each: what they do to the monitor is a single
write, and the loop they submit or interrupt takes its own steps.

## Main definitions

* `VpnConnectionMonitor`, `MonitorLoop` — what the loops share, and what each has
* `stepLoop` — one step of a loop
* `MonitoredWorker`, `stepMonitoredWorker` — the worker, its loop and the loops shut down
* `KeepsMonitoring` — the condition on one step

## Main results

* `MonitorLoop.monitoring_stepLoop`, `MonitoredWorker.monitored_step` — what one step preserves
* `no_later_detection` — after a detection no new loop ever detects anything
* `monitor_keeps_running_iff` — in which runs a started worker is monitored
-/

namespace AdAway

/-! ### The loop -/

/-- What the loops share: the fields of the monitor, and what it reads and calls. -/
structure VpnConnectionMonitor where
  running : Bool
  /-- The interface to monitor, `none` if not initialized. -/
  networkInterface : Option ℕ
  /-- The interfaces of the device that are up. -/
  up : Finset ℕ
  /-- The interfaces that a loop has found down. -/
  detected : List ℕ
  /-- The calls of `VpnServiceControls.start`. -/
  startCalls : ℕ
  deriving DecidableEq

namespace VpnConnectionMonitor

/-- The constructor. -/
def create (up : Finset ℕ) : VpnConnectionMonitor where
  running := true
  networkInterface := none
  up := up
  detected := []
  startCalls := 0

/-- `VpnConnectionMonitor.initialize`, with the interface it finds. Without one it throws, and the
field stays as it is. -/
def initializeMonitor (m : VpnConnectionMonitor) (found : Option ℕ) : VpnConnectionMonitor :=
  match found with
  | none => m
  | some networkInterface => { m with networkInterface := some networkInterface }

/-- `VpnConnectionMonitor.reset`. -/
def reset (m : VpnConnectionMonitor) : VpnConnectionMonitor := { m with networkInterface := none }

/-- `VpnConnectionMonitor.stop`. -/
def stop (m : VpnConnectionMonitor) : VpnConnectionMonitor := { m with running := false }

/-- The watched interface is down. -/
def Down (m : VpnConnectionMonitor) : Prop := ∃ i ∈ m.networkInterface, i ∉ m.up

instance (m : VpnConnectionMonitor) : Decidable m.Down := by unfold Down; infer_instance

end VpnConnectionMonitor

/-- Where a run of `monitor` stands. -/
inductive MonitorState
  /-- At the test of `running`. -/
  | test
  /-- At the test of the interface. -/
  | check
  /-- At `isUp`. -/
  | probe
  /-- At the text of the log, after `stop`. -/
  | log
  /-- At the name of the interface in the log. -/
  | name
  /-- At the start of the service. -/
  | start
  | sleep
  /-- In the handler of `SocketException`. -/
  | failed
  | ended
  deriving DecidableEq, Repr

/-- One run of `monitor`. -/
structure MonitorLoop where
  state : MonitorState
  /-- The interrupt flag of its thread. -/
  interrupted : Bool
  /-- It has found an interface down. -/
  hasDetected : Bool
  deriving DecidableEq, Repr

namespace MonitorLoop

/-- The loop as submitted. -/
def submitted : MonitorLoop := ⟨.test, false, false⟩

/-- `shutdownNow`, for the thread of the loop. -/
def interrupt (l : MonitorLoop) : MonitorLoop := { l with interrupted := true }

def goto (l : MonitorLoop) (state : MonitorState) : MonitorLoop := { l with state := state }

/-- The loop has not been left. -/
def Running (l : MonitorLoop) : Prop := l.state ≠ .failed ∧ l.state ≠ .ended

instance (l : MonitorLoop) : Decidable l.Running := by unfold Running; infer_instance

end MonitorLoop

/-- The steps of a loop. -/
inductive LoopEvent
  | test
  | check
  | isUp
  /-- `isUp` throws. -/
  | socketException
  | log
  | getName
  | start
  /-- The delay is over. -/
  | wake
  /-- The sleep is interrupted. -/
  | interruptedException
  /-- The handler of `SocketException`. -/
  | recover
  deriving DecidableEq, Repr

/-- One step of a run of `monitor`. A field that is `null` where it is dereferenced ends the run. -/
def stepLoop (m : VpnConnectionMonitor) (l : MonitorLoop) :
    LoopEvent → Option (VpnConnectionMonitor × MonitorLoop)
  | .test =>
    if l.state = .test then some (m, l.goto (if m.running then .check else .ended)) else none
  | .check =>
    if l.state = .check then
      some (m, l.goto (if m.networkInterface.isSome then .probe else .sleep))
    else none
  | .isUp =>
    if l.state = .probe then
      match m.networkInterface with
      | none => some (m, l.goto .ended)
      | some i =>
        if i ∈ m.up then some (m, l.goto .sleep)
        else some ({ m.stop with detected := m.detected ++ [i] },
          { l.goto .log with hasDetected := true })
    else none
  | .socketException =>
    if l.state = .probe ∧ m.networkInterface.isSome then some (m, l.goto .failed) else none
  | .log =>
    if l.state = .log then some (m, l.goto (if m.networkInterface.isSome then .name else .start))
    else none
  | .getName =>
    if l.state = .name then some (m, l.goto (if m.networkInterface.isSome then .start else .ended))
    else none
  | .start =>
    if l.state = .start then some ({ m with startCalls := m.startCalls + 1 }, l.goto .sleep)
    else none
  | .wake => if l.state = .sleep ∧ ¬ l.interrupted then some (m, l.goto .test) else none
  | .interruptedException =>
    if l.state = .sleep ∧ l.interrupted then some (m, l.goto .ended) else none
  | .recover =>
    if l.state = .failed then
      some (
        if m.networkInterface.isSome then { m.reset with startCalls := m.startCalls + 1 } else m,
        l.goto .ended)
    else none

/-! ### The worker -/

/-- `VpnWorker`, as far as its monitor goes. -/
structure MonitoredWorker where
  monitor : VpnConnectionMonitor
  /-- The loop of the executor, `none` if the worker is not started. -/
  executor : Option MonitorLoop
  /-- The loops of the executors shut down. -/
  shutDown : List MonitorLoop
  /-- The interface of the last tunnel established since the worker was stopped. -/
  tunnel : Option ℕ
  deriving DecidableEq

namespace MonitoredWorker

/-- `VpnWorker.setExecutor`. -/
def setExecutor (s : MonitoredWorker) (executor : Option MonitorLoop) : MonitoredWorker :=
  { s with executor := executor, shutDown := s.executor.toList.map .interrupt ++ s.shutDown }

/-- `VpnWorker.start`. -/
def start (s : MonitoredWorker) : MonitoredWorker := s.setExecutor (some .submitted)

/-- `VpnWorker.stop`. -/
def stop (s : MonitoredWorker) : MonitoredWorker :=
  { s with monitor := s.monitor.reset, tunnel := none }.setExecutor none

/-- A tunnel has been established, and `initialize` finds this interface. -/
def established (s : MonitoredWorker) (found : Option ℕ) : MonitoredWorker :=
  { s with monitor := s.monitor.initializeMonitor found, tunnel := found.or s.tunnel }

/-- The constructor of `VpnWorker`. -/
def create (up : Finset ℕ) : MonitoredWorker := ⟨.create up, none, [], none⟩

end MonitoredWorker

/-- What may happen next. -/
inductive MonitorAction
  | start
  | stop
  /-- A tunnel has been established. -/
  | established (found : Option ℕ)
  | interfaceUp (networkInterface : ℕ)
  | interfaceDown (networkInterface : ℕ)
  /-- The loop of the executor takes a step. -/
  | loop (e : LoopEvent)
  /-- A loop shut down earlier takes a step. -/
  | oldLoop (n : ℕ) (e : LoopEvent)
  deriving DecidableEq, Repr

/-- One step. -/
def stepMonitoredWorker (s : MonitoredWorker) : MonitorAction → Option MonitoredWorker
  | .start => some s.start
  | .stop => some s.stop
  | .established found => some (s.established found)
  | .interfaceUp i => some { s with monitor := { s.monitor with up := insert i s.monitor.up } }
  | .interfaceDown i => some { s with monitor := { s.monitor with up := s.monitor.up.erase i } }
  | .loop e =>
    s.executor.bind fun l => (stepLoop s.monitor l e).map fun r =>
      { s with monitor := r.1, executor := some r.2 }
  | .oldLoop n e =>
    s.shutDown[n]?.bind fun l => (stepLoop s.monitor l e).map fun r =>
      { s with monitor := r.1, shutDown := s.shutDown.set n r.2 }

/-- The step finds the watched interface down. -/
def Detects (m : VpnConnectionMonitor) (e : LoopEvent) : Prop := e = .isUp ∧ m.Down

instance (m : VpnConnectionMonitor) (e : LoopEvent) : Decidable (Detects m e) := by
  unfold Detects; infer_instance

theorem stepLoop_isUp {m m' : VpnConnectionMonitor} {l l' : MonitorLoop}
    (h : stepLoop m l .isUp = some (m', l')) :
    l.state = .probe ∧
      ((m.networkInterface = none ∧ m' = m ∧ l' = l.goto .ended) ∨
        (m.networkInterface ≠ none ∧ ¬ m.Down ∧ m' = m ∧ l' = l.goto .sleep) ∨
        (m.Down ∧ m'.running = false ∧ m'.detected ≠ [] ∧
          l' = { l.goto .log with hasDetected := true })) := by
  rw [stepLoop] at h
  split at h
  next hstate =>
    refine ⟨hstate, ?_⟩
    split at h
    next hnone =>
      obtain ⟨rfl, rfl⟩ := by simpa using h
      exact .inl ⟨hnone, rfl, rfl⟩
    next i hsome =>
      split at h
      next hup =>
        obtain ⟨rfl, rfl⟩ := by simpa using h
        exact .inr (.inl
          ⟨by simp [hsome], by simp [VpnConnectionMonitor.Down, hsome, hup], rfl, rfl⟩)
      next hdown =>
        obtain ⟨rfl, rfl⟩ := by simpa using h
        exact .inr (.inr ⟨⟨i, hsome, hdown⟩, rfl, by simp, rfl⟩)
  next => cases h

/-- A loop's step leaves `running` as it is, unless it finds the interface down. -/
theorem stepLoop_cases {m m' : VpnConnectionMonitor} {l l' : MonitorLoop} {e : LoopEvent}
    (h : stepLoop m l e = some (m', l')) :
    (¬ Detects m e ∧ m'.running = m.running ∧ m'.detected = m.detected) ∨
      (Detects m e ∧ m'.running = false ∧ m'.detected ≠ []) := by
  cases e with
  | isUp =>
    obtain ⟨-, ⟨hnone, rfl, -⟩ | ⟨-, hup, rfl, -⟩ | ⟨hdown, hrunning, hdetected, -⟩⟩ :=
      stepLoop_isUp h
    · refine .inl ⟨?_, rfl, rfl⟩
      rintro ⟨-, i, hi, -⟩
      rw [hnone] at hi
      cases hi
    · exact .inl ⟨fun hd => hup hd.2, rfl, rfl⟩
    · exact .inr ⟨⟨rfl, hdown⟩, hrunning, hdetected⟩
  | recover =>
    rw [stepLoop] at h
    split at h
    next =>
      obtain ⟨rfl, -⟩ := by simpa using h
      refine .inl ⟨fun hd => absurd hd.1 (by decide), ?_⟩
      split <;> exact ⟨rfl, rfl⟩
    next => cases h
  | _ =>
    obtain ⟨-, rfl, -⟩ := by simpa [stepLoop] using h
    exact .inl ⟨fun hd => absurd hd.1 (by decide), rfl, rfl⟩

/-- The step resets the watched interface. -/
def Resets (m : VpnConnectionMonitor) (e : LoopEvent) : Prop := e = .recover ∧ m.networkInterface ≠ none

instance (m : VpnConnectionMonitor) (e : LoopEvent) : Decidable (Resets m e) := by
  unfold Resets; infer_instance

/-- A loop's step leaves the watched interface as it is, unless it handles an exception, and a
detection on its record. -/
theorem networkInterface_stepLoop {m m' : VpnConnectionMonitor} {l l' : MonitorLoop} {e : LoopEvent}
    (h : stepLoop m l e = some (m', l')) :
    (l'.hasDetected = false → l.hasDetected = false) ∧
      ((¬ Resets m e ∧ m'.networkInterface = m.networkInterface) ∨
        (Resets m e ∧ l.state = .failed ∧ m'.networkInterface = none)) := by
  cases e with
  | isUp =>
    rw [stepLoop] at h
    split at h
    next =>
      split at h
      next =>
        obtain ⟨rfl, rfl⟩ := by simpa using h
        exact ⟨id, .inl ⟨fun hr => absurd hr.1 (by decide), rfl⟩⟩
      next =>
        split at h
        next =>
          obtain ⟨rfl, rfl⟩ := by simpa using h
          exact ⟨id, .inl ⟨fun hr => absurd hr.1 (by decide), rfl⟩⟩
        next =>
          obtain ⟨rfl, rfl⟩ := by simpa using h
          exact ⟨nofun, .inl ⟨fun hr => absurd hr.1 (by decide), rfl⟩⟩
    next => cases h
  | recover =>
    rw [stepLoop] at h
    split at h
    next hfailed =>
      obtain ⟨rfl, rfl⟩ := by simpa using h
      refine ⟨id, ?_⟩
      by_cases hnone : m.networkInterface = none
      · exact .inl ⟨fun hr => hr.2 hnone, by simp [hnone]⟩
      · refine .inr ⟨⟨rfl, hnone⟩, hfailed, ?_⟩
        rw [if_pos (Option.isSome_iff_ne_none.mpr hnone)]
        rfl
    next => cases h
  | _ =>
    obtain ⟨-, rfl, rfl⟩ := by simpa [stepLoop] using h
    exact ⟨id, .inl ⟨fun hr => absurd hr.1 (by decide), rfl⟩⟩

/-- `running` is set until an interface has been found down. -/
def Recorded (m : VpnConnectionMonitor) : Prop := m.running = true ↔ m.detected = []

theorem recorded_stepLoop {m m' : VpnConnectionMonitor} {l l' : MonitorLoop} {e : LoopEvent}
    (hm : Recorded m) (h : stepLoop m l e = some (m', l')) : Recorded m' := by
  obtain ⟨-, hrunning, hdetected⟩ | ⟨-, hrunning, hdetected⟩ := stepLoop_cases h
  · rw [Recorded, hrunning, hdetected]
    exact hm
  · rw [Recorded, hrunning]
    exact iff_of_false Bool.false_ne_true hdetected

/-- The loop has not been left, and a loop that has found no interface down yet will go on. -/
structure MonitorLoop.Monitoring (m : VpnConnectionMonitor) (l : MonitorLoop) : Prop where
  running : l.Running
  goesOn : l.hasDetected = false → m.running = true

/-- The condition on a step of the loop of the executor: at its test nothing has been detected, and
its probe neither throws nor finds the interface reset. -/
def KeepsWatching (m : VpnConnectionMonitor) : LoopEvent → Prop
  | .test => m.detected = []
  | .isUp | .getName => m.networkInterface ≠ none
  | .socketException => False
  | _ => True

instance (m : VpnConnectionMonitor) (e : LoopEvent) : Decidable (KeepsWatching m e) := by
  cases e <;> (unfold KeepsWatching; infer_instance)

namespace MonitorLoop

theorem not_monitoring_ended {m : VpnConnectionMonitor} {l : MonitorLoop} (h : l.state = .ended) :
    ¬ l.Monitoring m := fun hl => hl.running.2 h

/-- A step within the loop. -/
theorem Monitoring.goto {m m' : VpnConnectionMonitor} {l : MonitorLoop} {state : MonitorState}
    (hl : l.Monitoring m) (hstate : state ≠ .failed ∧ state ≠ .ended)
    (hm : m'.running = m.running) : (l.goto state).Monitoring m' :=
  ⟨hstate, fun hfresh => hm.trans (hl.goesOn hfresh)⟩

/-- **One step of the loop** keeps it going exactly when it meets `KeepsWatching`. -/
theorem monitoring_stepLoop {m m' : VpnConnectionMonitor} {l l' : MonitorLoop} {e : LoopEvent}
    (hm : Recorded m) (hl : l.Monitoring m) (hi : l.interrupted = false)
    (h : stepLoop m l e = some (m', l')) : l'.Monitoring m' ↔ KeepsWatching m e := by
  cases e with
  | test =>
    obtain ⟨-, rfl, rfl⟩ := by simpa [stepLoop] using h
    by_cases hrunning : m.running = true
    · rw [if_pos hrunning]
      exact iff_of_true (hl.goto (by decide) rfl) (hm.mp hrunning)
    · rw [if_neg hrunning]
      exact iff_of_false (not_monitoring_ended rfl) fun hnone => hrunning (hm.mpr hnone)
  | check =>
    obtain ⟨-, rfl, rfl⟩ := by simpa [stepLoop] using h
    refine iff_of_true (hl.goto ?_ rfl) trivial
    split <;> decide
  | isUp =>
    obtain ⟨-, ⟨hnone, rfl, rfl⟩ | ⟨hsome, -, rfl, rfl⟩ | ⟨⟨i, hi, -⟩, -, -, rfl⟩⟩ :=
      stepLoop_isUp h
    · exact iff_of_false (not_monitoring_ended rfl) (not_not_intro hnone)
    · exact iff_of_true (hl.goto (by decide) rfl) hsome
    · refine iff_of_true ⟨⟨nofun, nofun⟩, nofun⟩ ?_
      rw [KeepsWatching, hi]
      exact Option.some_ne_none i
  | socketException =>
    obtain ⟨-, rfl, rfl⟩ := by simpa [stepLoop] using h
    exact iff_of_false (fun ht => ht.running.1 rfl) id
  | log =>
    obtain ⟨-, rfl, rfl⟩ := by simpa [stepLoop] using h
    refine iff_of_true (hl.goto ?_ rfl) trivial
    split <;> decide
  | getName =>
    obtain ⟨-, rfl, rfl⟩ := by simpa [stepLoop] using h
    cases hnetwork : m.networkInterface with
    | none => exact iff_of_false (not_monitoring_ended rfl) (not_not_intro hnetwork)
    | some i => exact iff_of_true (hl.goto ⟨nofun, nofun⟩ rfl) (by simp [KeepsWatching, hnetwork])
  | start =>
    obtain ⟨-, rfl, rfl⟩ := by simpa [stepLoop] using h
    exact iff_of_true (hl.goto (by decide) rfl) trivial
  | wake =>
    obtain ⟨-, rfl, rfl⟩ := by simpa [stepLoop] using h
    exact iff_of_true (hl.goto (by decide) rfl) trivial
  | interruptedException =>
    obtain ⟨⟨-, hinterrupted⟩, -⟩ := by simpa [stepLoop] using h
    rw [hi] at hinterrupted
    cases hinterrupted
  | recover =>
    rw [stepLoop] at h
    split at h
    next hfailed => exact absurd hfailed hl.running.1
    next => cases h

end MonitorLoop

theorem interrupted_stepLoop {m m' : VpnConnectionMonitor} {l l' : MonitorLoop} {e : LoopEvent}
    (h : stepLoop m l e = some (m', l')) : l'.interrupted = l.interrupted := by
  cases e with
  | isUp =>
    obtain ⟨-, ⟨-, -, rfl⟩ | ⟨-, -, -, rfl⟩ | ⟨-, -, -, rfl⟩⟩ := stepLoop_isUp h <;> rfl
  | _ =>
    obtain ⟨-, -, rfl⟩ := by simpa [stepLoop] using h
    rfl

/-! ### After a detection -/

/-- The loop has to pass its test before it can find an interface down. -/
def MonitorLoop.BeforeTest (l : MonitorLoop) : Prop := l.state ≠ .check ∧ l.state ≠ .probe

/-- A stopped monitor lets no loop pass. -/
theorem stepLoop_of_stopped {m m' : VpnConnectionMonitor} {l l' : MonitorLoop} {e : LoopEvent}
    (hm : m.running = false) (hl : l.BeforeTest) (h : stepLoop m l e = some (m', l')) :
    m'.running = false ∧ m'.detected = m.detected ∧ l'.BeforeTest := by
  obtain ⟨-, hrunning, hdetected⟩ | ⟨⟨rfl, -⟩, -, -⟩ := stepLoop_cases h
  · refine ⟨hrunning.trans hm, hdetected, ?_⟩
    cases e with
    | test =>
      obtain ⟨-, -, rfl⟩ := by simpa [stepLoop, hm] using h
      exact ⟨nofun, nofun⟩
    | check =>
      obtain ⟨hstate, -⟩ := by simpa [stepLoop] using h
      exact absurd hstate hl.1
    | isUp => exact absurd (stepLoop_isUp h).1 hl.2
    | log | getName =>
      obtain ⟨-, -, rfl⟩ := by simpa [stepLoop] using h
      constructor <;> (show (if _ then _ else _) ≠ _; split <;> nofun)
    | _ =>
      obtain ⟨-, -, rfl⟩ := by simpa [stepLoop] using h
      exact ⟨nofun, nofun⟩
  · exact absurd (stepLoop_isUp h).1 hl.2

namespace MonitoredWorker

theorem loop_cases {s t : MonitoredWorker} {e : LoopEvent}
    (h : stepMonitoredWorker s (.loop e) = some t) :
    ∃ l m' l', s.executor = some l ∧ stepLoop s.monitor l e = some (m', l') ∧
      t = { s with monitor := m', executor := some l' } := by
  obtain ⟨l, hl, hr⟩ := Option.bind_eq_some_iff.mp h
  obtain ⟨⟨m', l'⟩, hstep, ht⟩ := Option.map_eq_some_iff.mp hr
  exact ⟨l, m', l', hl, hstep, ht.symm⟩

theorem oldLoop_cases {s t : MonitoredWorker} {n : ℕ} {e : LoopEvent}
    (h : stepMonitoredWorker s (.oldLoop n e) = some t) :
    ∃ l m' l', s.shutDown[n]? = some l ∧ stepLoop s.monitor l e = some (m', l') ∧
      t = { s with monitor := m', shutDown := s.shutDown.set n l' } := by
  obtain ⟨l, hl, hr⟩ := Option.bind_eq_some_iff.mp h
  obtain ⟨⟨m', l'⟩, hstep, ht⟩ := Option.map_eq_some_iff.mp hr
  exact ⟨l, m', l', hl, hstep, ht.symm⟩

/-- The monitor is stopped, with these detections, and no loop is past its test. -/
structure Stopped (detected : List ℕ) (s : MonitoredWorker) : Prop where
  running : s.monitor.running = false
  recorded : s.monitor.detected = detected
  executor : ∀ l ∈ s.executor, l.BeforeTest
  shutDown : ∀ l ∈ s.shutDown, l.BeforeTest

theorem Stopped.setExecutor {detected : List ℕ} {s : MonitoredWorker} (hs : s.Stopped detected)
    {executor : Option MonitorLoop} (he : ∀ l ∈ executor, l.BeforeTest) :
    (s.setExecutor executor).Stopped detected := by
  refine ⟨hs.running, hs.recorded, he, fun l hl => ?_⟩
  obtain ⟨l', hl', rfl⟩ | hl := by simpa [MonitoredWorker.setExecutor] using hl
  · exact hs.executor l' hl'
  · exact hs.shutDown l hl

theorem Stopped.step {detected : List ℕ} {s t : MonitoredWorker} {a : MonitorAction}
    (hs : s.Stopped detected) (h : stepMonitoredWorker s a = some t) : t.Stopped detected := by
  cases a with
  | start =>
    obtain rfl := Option.some.inj h
    refine hs.setExecutor fun l hl => ?_
    obtain rfl := Option.some.inj hl
    exact ⟨nofun, nofun⟩
  | stop =>
    obtain rfl := Option.some.inj h
    have hreset : Stopped detected { s with monitor := s.monitor.reset, tunnel := none } :=
      ⟨hs.running, hs.recorded, hs.executor, hs.shutDown⟩
    exact hreset.setExecutor nofun
  | established found =>
    obtain rfl := Option.some.inj h
    cases found <;> exact ⟨hs.running, hs.recorded, hs.executor, hs.shutDown⟩
  | interfaceUp i | interfaceDown i =>
    obtain rfl := Option.some.inj h
    exact ⟨hs.running, hs.recorded, hs.executor, hs.shutDown⟩
  | loop e =>
    obtain ⟨l, m', l', hl, hstep, rfl⟩ := loop_cases h
    obtain ⟨hrunning, hdetected, hl'⟩ := stepLoop_of_stopped hs.running (hs.executor l hl) hstep
    refine ⟨hrunning, hdetected.trans hs.recorded, ?_, hs.shutDown⟩
    simpa using hl'
  | oldLoop n e =>
    obtain ⟨l, m', l', hl, hstep, rfl⟩ := oldLoop_cases h
    obtain ⟨hrunning, hdetected, hl'⟩ :=
      stepLoop_of_stopped hs.running (hs.shutDown l (List.mem_of_getElem? hl)) hstep
    refine ⟨hrunning, hdetected.trans hs.recorded, hs.executor, fun l'' hl'' => ?_⟩
    rcases List.mem_or_eq_of_mem_set hl'' with hl'' | rfl
    · exact hs.shutDown l'' hl''
    · exact hl'

end MonitoredWorker

/-- **After a detection.** Once the monitor is stopped and no loop is past its test, no interface is
ever found down again, whatever is started, stopped or established. -/
theorem no_later_detection {s u : MonitoredWorker} {as : List MonitorAction}
    (hs : s.Stopped s.monitor.detected)
    (h : ActionSystem.run stepMonitoredWorker s as = some u) :
    u.monitor.detected = s.monitor.detected :=
  (ActionSystem.invariant_run (fun _ _ _ hs ht => hs.step ht) hs h).recorded

/-! ### Every run -/

/-- If the interface goes down, the next iteration of the loop finds it down. -/
def DetectsNext (s : MonitoredWorker) (l : MonitorLoop) (i : ℕ) : Prop :=
  ∃ v, ActionSystem.run stepMonitoredWorker { s with executor := some (l.goto .test) }
      [.interfaceDown i, .loop .test, .loop .check, .loop .isUp] = some v ∧
    i ∈ v.monitor.detected

theorem detectsNext_iff {s : MonitoredWorker} {l : MonitorLoop} {i : ℕ} (hs : Recorded s.monitor) :
    DetectsNext s l i ↔ s.monitor.running = true ∧ s.monitor.networkInterface = some i := by
  cases hrunning : s.monitor.running with
  | false =>
    refine iff_of_false ?_ fun h => Bool.false_ne_true h.1
    simp [DetectsNext, ActionSystem.run, stepMonitoredWorker, stepLoop, MonitorLoop.goto, hrunning]
  | true =>
    have hnone : s.monitor.detected = [] := hs.mp hrunning
    cases hnetwork : s.monitor.networkInterface with
    | none =>
      refine iff_of_false ?_ (by simp)
      simp [DetectsNext, ActionSystem.run, stepMonitoredWorker, stepLoop, MonitorLoop.goto, hrunning,
        hnetwork]
    | some j =>
      by_cases hdown : j ∈ s.monitor.up.erase i
      · -- the loop watches another interface, which is up
        have hne : j ≠ i := (Finset.mem_erase.mp hdown).1
        refine iff_of_false ?_ (by simpa using hne)
        simp [DetectsNext, ActionSystem.run, stepMonitoredWorker, stepLoop, MonitorLoop.goto,
          hrunning, hnetwork, Finset.mem_erase.mp hdown, hnone]
      · have hdetected : DetectsNext s l i ↔ i = j := by
          simp [DetectsNext, ActionSystem.run, stepMonitoredWorker, stepLoop, MonitorLoop.goto,
            VpnConnectionMonitor.stop, hrunning, hnetwork, hdown, hnone]
        rw [hdetected, Option.some.injEq, eq_comm]
        exact (and_iff_right rfl).symm

/-- The interface of the tunnel is the one watched. -/
def MonitoredWorker.Watched (s : MonitoredWorker) : Prop :=
  ∀ i ∈ s.tunnel, s.monitor.networkInterface = some i

instance (s : MonitoredWorker) : Decidable s.Watched := by
  unfold MonitoredWorker.Watched; infer_instance

/-- No start after a detection, or with a tunnel that is not watched; no step of the loop that leaves
it; and no detection or reset by an old loop while the loop of the executor has found nothing. -/
def KeepsMonitoring (s : MonitoredWorker) : MonitorAction → Prop
  | .start => s.monitor.detected = [] ∧ s.Watched
  | .loop e => KeepsWatching s.monitor e
  | .oldLoop _ e =>
    Detects s.monitor e ∨ Resets s.monitor e → ∀ l ∈ s.executor, l.hasDetected = true
  | _ => True

instance (s : MonitoredWorker) (a : MonitorAction) : Decidable (KeepsMonitoring s a) := by
  cases a <;> (unfold KeepsMonitoring; infer_instance)

namespace MonitoredWorker

/-- What holds of the worker in every run: no loop of an executor that is not shut down has been
interrupted, and no interface is watched but that of the tunnel. -/
structure Consistent (s : MonitoredWorker) : Prop where
  recorded : Recorded s.monitor
  uninterrupted : ∀ l ∈ s.executor, l.interrupted = false
  watches : s.monitor.networkInterface ≠ none → s.monitor.networkInterface = s.tunnel

theorem consistent_create (up : Finset ℕ) : (create up).Consistent :=
  ⟨iff_of_true rfl rfl, nofun, fun h => absurd rfl h⟩

theorem watches_stepLoop {m m' : VpnConnectionMonitor} {l l' : MonitorLoop} {e : LoopEvent}
    {tunnel : Option ℕ} (hm : m.networkInterface ≠ none → m.networkInterface = tunnel)
    (h : stepLoop m l e = some (m', l')) :
    m'.networkInterface ≠ none → m'.networkInterface = tunnel := by
  obtain ⟨-, ⟨-, hsame⟩ | ⟨-, -, hnone⟩⟩ := networkInterface_stepLoop h
  · rw [hsame]
    exact hm
  · exact fun hne => absurd hnone hne

theorem Consistent.step {s t : MonitoredWorker} {a : MonitorAction} (hs : s.Consistent)
    (h : stepMonitoredWorker s a = some t) : t.Consistent := by
  cases a with
  | start =>
    obtain rfl := Option.some.inj h
    refine ⟨hs.recorded, fun l hl => ?_, hs.watches⟩
    obtain rfl := Option.some.inj hl
    rfl
  | stop =>
    obtain rfl := Option.some.inj h
    exact ⟨hs.recorded, nofun, fun hne => absurd rfl hne⟩
  | established found =>
    obtain rfl := Option.some.inj h
    cases found with
    | none => exact ⟨hs.recorded, hs.uninterrupted, hs.watches⟩
    | some i => exact ⟨hs.recorded, hs.uninterrupted, fun _ => rfl⟩
  | interfaceUp i | interfaceDown i =>
    obtain rfl := Option.some.inj h
    exact ⟨hs.recorded, hs.uninterrupted, hs.watches⟩
  | loop e =>
    obtain ⟨l, m', l', hl, hstep, rfl⟩ := loop_cases h
    refine ⟨recorded_stepLoop hs.recorded hstep, fun l'' hl'' => ?_,
      watches_stepLoop hs.watches hstep⟩
    obtain rfl := Option.some.inj hl''
    exact (interrupted_stepLoop hstep).trans (hs.uninterrupted l hl)
  | oldLoop n e =>
    obtain ⟨l, m', l', hl, hstep, rfl⟩ := oldLoop_cases h
    exact ⟨recorded_stepLoop hs.recorded hstep, hs.uninterrupted,
      watches_stepLoop hs.watches hstep⟩

/-- The loop of the executor is monitoring, and watches the tunnel until it has found it down. -/
def Monitored (s : MonitoredWorker) : Prop :=
  ∀ l ∈ s.executor, l.Monitoring s.monitor ∧ (l.hasDetected = false → s.Watched)

/-- What a step of an old loop leaves of the loop of the executor. -/
theorem monitored_oldLoop {s : MonitoredWorker} {m' : VpnConnectionMonitor} {l₀ l₀' : MonitorLoop}
    {e : LoopEvent} {shutDown : List MonitorLoop} (hc : s.Consistent) (hs : s.Monitored)
    (hstep : stepLoop s.monitor l₀ e = some (m', l₀')) :
    Monitored { s with monitor := m', shutDown := shutDown } ↔
      (Detects s.monitor e ∨ Resets s.monitor e → ∀ l ∈ s.executor, l.hasDetected = true) := by
  constructor
  · intro ht hbreaks l hl
    by_contra hdetected
    have hfresh := Bool.eq_false_iff.mpr hdetected
    obtain ⟨hmonitoring, hwatched⟩ := ht l hl
    rcases hbreaks with hdetects | hresets
    · obtain ⟨hnot, -⟩ | ⟨-, hrunning, -⟩ := stepLoop_cases hstep
      · exact hnot hdetects
      · exact absurd (hrunning.symm.trans (hmonitoring.goesOn hfresh)) Bool.false_ne_true
    · obtain ⟨-, ⟨hnot, -⟩ | ⟨-, -, hnone⟩⟩ := networkInterface_stepLoop hstep
      · exact hnot hresets
      · -- the tunnel is still there, and no longer watched
        obtain ⟨i, hi⟩ := Option.ne_none_iff_exists'.mp hresets.2
        have htunnel : s.tunnel = some i := (hc.watches hresets.2).symm.trans hi
        exact absurd (hnone.symm.trans (hwatched hfresh i htunnel)) (by simp)
  · intro hall l hl
    obtain ⟨hmonitoring, hwatched⟩ := hs l hl
    refine ⟨⟨hmonitoring.running, fun hfresh => ?_⟩, fun hfresh => ?_⟩
    · obtain ⟨-, hrunning, -⟩ | ⟨hdetects, -⟩ := stepLoop_cases hstep
      · exact hrunning.trans (hmonitoring.goesOn hfresh)
      · exact absurd ((hall (.inl hdetects) l hl).symm.trans hfresh) Bool.noConfusion
    · obtain ⟨-, ⟨-, hsame⟩ | ⟨hresets, -⟩⟩ := networkInterface_stepLoop hstep
      · exact fun i hi => hsame.trans (hwatched hfresh i hi)
      · exact absurd ((hall (.inr hresets) l hl).symm.trans hfresh) Bool.noConfusion

/-- **One step** leaves a started worker monitored exactly when it meets `KeepsMonitoring`. -/
theorem monitored_step {s t : MonitoredWorker} {a : MonitorAction} (hc : s.Consistent)
    (hs : s.Monitored) (h : stepMonitoredWorker s a = some t) :
    t.Monitored ↔ KeepsMonitoring s a := by
  cases a with
  | start =>
    obtain rfl := Option.some.inj h
    constructor
    · intro ht
      obtain ⟨hl, hwatched⟩ := ht .submitted rfl
      exact ⟨hc.recorded.mp (hl.goesOn rfl), hwatched rfl⟩
    · rintro ⟨hnone, hwatched⟩ l hl
      obtain rfl := Option.some.inj hl
      exact ⟨⟨⟨nofun, nofun⟩, fun _ => hc.recorded.mpr hnone⟩, fun _ => hwatched⟩
  | stop =>
    obtain rfl := Option.some.inj h
    exact iff_of_true nofun trivial
  | established found =>
    obtain rfl := Option.some.inj h
    refine iff_of_true (fun l hl => ?_) trivial
    obtain ⟨hmonitoring, hwatched⟩ := hs l hl
    cases found with
    | none => exact ⟨⟨hmonitoring.running, hmonitoring.goesOn⟩, hwatched⟩
    | some i => exact ⟨⟨hmonitoring.running, hmonitoring.goesOn⟩, fun _ j hj => hj⟩
  | interfaceUp i | interfaceDown i =>
    obtain rfl := Option.some.inj h
    refine iff_of_true (fun l hl => ?_) trivial
    obtain ⟨hmonitoring, hwatched⟩ := hs l hl
    exact ⟨⟨hmonitoring.running, hmonitoring.goesOn⟩, hwatched⟩
  | loop e =>
    obtain ⟨l, m', l', hl, hstep, rfl⟩ := loop_cases h
    obtain ⟨hmonitoring, hwatched⟩ := hs l hl
    show Monitored { s with monitor := m', executor := some l' } ↔ KeepsWatching s.monitor e
    rw [← MonitorLoop.monitoring_stepLoop hc.recorded hmonitoring (hc.uninterrupted l hl) hstep]
    constructor
    · exact fun ht => (ht l' rfl).1
    · intro hl' l'' hl''
      obtain rfl := Option.some.inj hl''
      refine ⟨hl', fun hfresh => ?_⟩
      obtain ⟨hkept, ⟨-, hsame⟩ | ⟨-, hfailed, -⟩⟩ := networkInterface_stepLoop hstep
      · intro i hi
        exact hsame.trans (hwatched (hkept hfresh) i hi)
      · exact absurd hfailed hmonitoring.running.1
  | oldLoop n e =>
    obtain ⟨l, m', l', -, hstep, rfl⟩ := oldLoop_cases h
    exact monitored_oldLoop hc hs hstep

end MonitoredWorker

/-- **The monitor of a started worker.** In every state of a run in which the worker is started, its
loop has not been left and, until it has found an interface down itself, its next iteration would
find down the interface of the tunnel, and that of any tunnel established first. This is so exactly
when the worker is not started again after a detection or with a tunnel that is not watched, the loop
does not come back to its test after a detection, its probe does not throw, and no old loop detects
anything before it or resets the interface. -/
theorem monitor_keeps_running_iff {up : Finset ℕ} {as : List MonitorAction} {u : MonitoredWorker}
    (h : ActionSystem.run stepMonitoredWorker (.create up) as = some u) :
    (∀ bs, bs <+: as → ∀ t, ActionSystem.run stepMonitoredWorker (.create up) bs = some t →
      ∀ l ∈ t.executor, l.Running ∧ (l.hasDetected = false →
        (∀ i ∈ t.tunnel, DetectsNext t l i) ∧ ∀ i, DetectsNext (t.established (some i)) l i)) ↔
    ActionSystem.StepsMeet stepMonitoredWorker KeepsMonitoring (.create up) as := by
  refine ActionSystem.stepsMeet_iff_forall_prefix_of (I := fun s => s.Consistent ∧ s.Monitored)
    ?_ ?_ ?_ ⟨MonitoredWorker.consistent_create up, nofun⟩ h
  · rintro s ⟨hc, hs⟩ l hl
    obtain ⟨hmonitoring, hwatched⟩ := hs l hl
    refine ⟨hmonitoring.running, fun hfresh => ⟨fun i hi => ?_, fun i => ?_⟩⟩
    · exact (detectsNext_iff hc.recorded).mpr ⟨hmonitoring.goesOn hfresh, hwatched hfresh i hi⟩
    · have hrecorded : Recorded (s.established (some i)).monitor := hc.recorded
      exact (detectsNext_iff hrecorded).mpr ⟨hmonitoring.goesOn hfresh, rfl⟩
  · rintro s a t ⟨hc, hs⟩ hok ht
    exact ⟨hc.step ht, (MonitoredWorker.monitored_step hc hs ht).mpr hok⟩
  · rintro s a t ⟨hc, hs⟩ ht hP
    have hrecorded := (hc.step ht).recorded
    refine (MonitoredWorker.monitored_step hc hs ht).mp fun l hl => ?_
    obtain ⟨hrunning, hdetects⟩ := hP l hl
    refine ⟨⟨hrunning, fun hfresh => ?_⟩, fun hfresh i hi => ?_⟩
    · exact ((detectsNext_iff (s := t.established (some 0)) hrecorded).mp
        ((hdetects hfresh).2 0)).1
    · exact ((detectsNext_iff hrecorded).mp ((hdetects hfresh).1 i hi)).2

/-- The tunnel goes down and its loop has the service started again. -/
def firstFailure : List MonitorAction :=
  [.start, .established (some 0), .loop .test, .loop .check, .interfaceDown 0, .loop .isUp,
    .loop .log, .loop .getName, .loop .start]

theorem monitor_keeps_running_iff_firstFailure : ∃ u : MonitoredWorker,
    ActionSystem.run stepMonitoredWorker (.create {0}) firstFailure = some u ∧
    ∀ bs, bs <+: firstFailure → ∀ t,
      ActionSystem.run stepMonitoredWorker (.create {0}) bs = some t →
      ∀ l ∈ t.executor, l.Running ∧ (l.hasDetected = false →
        (∀ i ∈ t.tunnel, DetectsNext t l i) ∧ ∀ i, DetectsNext (t.established (some i)) l i) := by
  obtain ⟨u, hu⟩ : ∃ u : MonitoredWorker,
      ActionSystem.run stepMonitoredWorker (.create {0}) firstFailure = some u := ⟨_, rfl⟩
  exact ⟨u, hu, (monitor_keeps_running_iff hu).mpr (by decide)⟩

/-- The start that follows submits a loop that ends at its first test, so the second failure is not
detected. -/
theorem not_monitor_keeps_running :
    ¬ ∀ (up : Finset ℕ) (as : List MonitorAction) (t : MonitoredWorker),
      ActionSystem.run stepMonitoredWorker (.create up) as = some t →
      ∀ l ∈ t.executor, l.Running := by
  intro h
  have hrestarted := h {0} (firstFailure ++ [.start, .interfaceUp 0, .established (some 0),
    .loop .test]) _ rfl
  exact absurd (hrestarted _ rfl) (by decide)

end AdAway
