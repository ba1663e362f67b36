import AdAway.Library.ActionSystem
import AdAway.Vpn.VpnConnectionThrottler
import Mathlib.Data.List.Basic

/-!
# The work loops of the VPN worker

Each `VpnWorker.start` submits a new run of `work` and only then shuts the executor before down. The
run submitted before may be anywhere: `shutdownNow` sets the interrupt flag of its thread, and the
one place that looks at the flag is the sleep in `throttle`. A loop in `runVpn` polls on, over the
same query queue and the same packets to write as the new one.

## Granularity

The calls of the main thread take two steps, with the steps of any loop in between: `start` submits
and then calls `setExecutor`, `stop` closes the tunnel and then calls `setExecutor`. A loop steps
from one method it calls in `work` and `runVpn` to the next, and one `doOne` is one step. What a
tunnel or the network does to `doOne` is left open, so it may end in any of its ways at any time;
that includes a tunnel that `stop` has closed.

## Main definitions

* `WorkLoop`, `stepWork` — a run of `work`
* `VpnWorker`, `stepVpnWorker` — the worker with every loop submitted to it
* `KeepsExclusive` — the condition on one step

## Main results

* `VpnWorker.exclusive_step` — no loop left behind connects
* `exists_stale_of_not_keepsExclusive` — a step against the condition leads to an overlap
* `work_loops_exclusive` — in which runs one loop polls at a time
-/

namespace AdAway

/-! ### The loop -/

/-- Where a run of `work` stands. -/
inductive WorkState
  /-- The packet proxy and the watchdog are to be initialized. -/
  | initializing
  /-- At `throttle`. -/
  | throttle
  /-- Asleep in `throttle`. -/
  | sleeping
  /-- At `establish`. -/
  | establish
  /-- At `doOne`. -/
  | polling
  | ended
  deriving DecidableEq, Repr

/-- One run of `work`. -/
structure WorkLoop where
  state : WorkState
  /-- The interrupt flag of its thread. -/
  interrupted : Bool
  deriving DecidableEq, Repr

namespace WorkLoop

/-- The loop as submitted. -/
def submitted : WorkLoop := ⟨.initializing, false⟩

/-- `shutdownNow`, for the thread of the loop. -/
def interrupt (l : WorkLoop) : WorkLoop := { l with interrupted := true }

def goto (l : WorkLoop) (state : WorkState) : WorkLoop := { l with state := state }

/-- The loop is in `runVpn`. -/
def InRunVpn (l : WorkLoop) : Prop := l.state = .establish ∨ l.state = .polling

instance (l : WorkLoop) : Decidable l.InRunVpn := by unfold InRunVpn; infer_instance

end WorkLoop

/-- The steps of a loop. -/
inductive WorkEvent
  | initialized
  | throttle (now : ℤ)
  /-- The sleep is over. -/
  | wake
  | interruptedException
  | established
  /-- One iteration, with the answer of `doOne`. -/
  | doOne (deviceOpened : Bool)
  /-- `VpnNetworkException` or `IOException`. -/
  | networkException
  /-- Any other exception, which `work` does not catch. -/
  | uncheckedException
  deriving DecidableEq, Repr

/-- One step of a run of `work`. -/
def stepWork (throttler : VpnConnectionThrottler) (l : WorkLoop) :
    WorkEvent → Option (VpnConnectionThrottler × WorkLoop)
  | .initialized =>
    if l.state = .initializing then some (throttler, l.goto .throttle) else none
  | .throttle now =>
    if l.state = .throttle then
      some ((throttler.throttle now).2,
        l.goto (if (throttler.throttle now).1.isSome then .sleeping else .establish))
    else none
  | .wake =>
    if l.state = .sleeping ∧ ¬ l.interrupted then some (throttler, l.goto .establish) else none
  | .interruptedException =>
    if l.state = .sleeping ∧ l.interrupted then some (throttler, l.goto .ended) else none
  | .established => if l.state = .establish then some (throttler, l.goto .polling) else none
  | .doOne deviceOpened =>
    if l.state = .polling then some (throttler, l.goto (if deviceOpened then .polling else .ended))
    else none
  | .networkException => if l.InRunVpn then some (throttler, l.goto .throttle) else none
  | .uncheckedException =>
    if l.state ≠ .sleeping ∧ l.state ≠ .ended then some (throttler, l.goto .ended) else none

/-! ### The worker -/

/-- `VpnWorker`, with every loop submitted to it. -/
structure VpnWorker where
  connectionThrottler : VpnConnectionThrottler
  /-- The runs of `work`, in the order of the calls of `start`. -/
  loops : List WorkLoop
  /-- The loop of the executor, `none` if not started. -/
  executor : Option ℕ
  /-- The `setExecutor` that the call of the main thread is to end with. -/
  pending : Option (Option ℕ)
  /-- The iterations that a loop has gone on after, once a later `start` had returned. -/
  staleIterations : ℕ
  deriving DecidableEq

namespace VpnWorker

/-- The constructor. -/
def create : VpnWorker := ⟨.create, [], none, none, 0⟩

/-- The calls of `start` that have returned. -/
def returnedStarts (s : VpnWorker) : ℕ :=
  match s.pending with
  | some (some _) => s.loops.length - 1
  | _ => s.loops.length

/-- `VpnWorker.setExecutor`. -/
def setExecutor (s : VpnWorker) (executor : Option ℕ) : VpnWorker :=
  { s with
    executor := executor
    pending := none
    loops := match s.executor with
      | none => s.loops
      | some oldExecutor => s.loops.modify oldExecutor .interrupt }

end VpnWorker

/-- What may happen next. -/
inductive WorkerAction
  /-- The main thread calls `start`, which submits a loop. -/
  | start
  /-- The main thread calls `stop`, which closes the tunnel. -/
  | stop
  /-- The call ends with `setExecutor`. -/
  | setExecutor
  /-- A loop takes a step. -/
  | loop (k : ℕ) (e : WorkEvent)
  deriving DecidableEq, Repr

/-- One step. -/
def stepVpnWorker (s : VpnWorker) : WorkerAction → Option VpnWorker
  | .start =>
    if s.pending = none then
      some { s with loops := s.loops ++ [.submitted], pending := some (some s.loops.length) }
    else none
  | .stop => if s.pending = none then some { s with pending := some none } else none
  | .setExecutor => s.pending.map s.setExecutor
  | .loop k e =>
    s.loops[k]?.bind fun l => (stepWork s.connectionThrottler l e).map fun r =>
      { s with
        connectionThrottler := r.1
        loops := s.loops.set k r.2
        staleIterations :=
          if e = .doOne true ∧ k + 1 < s.returnedStarts then s.staleIterations + 1
          else s.staleIterations }

/-- A `start` finds no loop in `runVpn`, and a loop that a later `start` has left behind does not
get there: its `throttle` makes it sleep, and its sleep is not over before it is interrupted. -/
def KeepsExclusive (s : VpnWorker) : WorkerAction → Prop
  | .start => ∀ l ∈ s.loops, ¬ l.InRunVpn
  | .loop k (.throttle now) => k + 1 < s.loops.length → s.connectionThrottler.Waits now
  | .loop k .wake => ¬ k + 1 < s.loops.length
  | _ => True

instance (s : VpnWorker) (a : WorkerAction) : Decidable (KeepsExclusive s a) := by
  unfold KeepsExclusive
  split <;> infer_instance

namespace VpnWorker

/-- A step of a loop. -/
theorem stepVpnWorker_loop_iff {s t : VpnWorker} {k : ℕ} {e : WorkEvent} :
    stepVpnWorker s (.loop k e) = some t ↔
      ∃ l throttler l', s.loops[k]? = some l ∧
        stepWork s.connectionThrottler l e = some (throttler, l') ∧
        t = { s with
          connectionThrottler := throttler
          loops := s.loops.set k l'
          staleIterations :=
            if e = .doOne true ∧ k + 1 < s.returnedStarts then s.staleIterations + 1
            else s.staleIterations } := by
  constructor
  · intro h
    obtain ⟨l, hl, hr⟩ := Option.bind_eq_some_iff.mp h
    obtain ⟨⟨throttler, l'⟩, hstep, ht⟩ := Option.map_eq_some_iff.mp hr
    exact ⟨l, throttler, l', hl, hstep, ht.symm⟩
  · rintro ⟨l, throttler, l', hl, hstep, rfl⟩
    simp [stepVpnWorker, hl, hstep]

theorem returnedStarts_le (s : VpnWorker) : s.returnedStarts ≤ s.loops.length := by
  rw [returnedStarts]
  split <;> omega

/-- What `setExecutor` does to a loop, at most, is to interrupt it. -/
theorem getElem?_setExecutor (s : VpnWorker) (executor : Option ℕ) (k : ℕ) :
    ((s.setExecutor executor).loops[k]?).map WorkLoop.state = s.loops[k]?.map WorkLoop.state := by
  rw [setExecutor]
  dsimp only
  split
  next => rfl
  next oldExecutor _ =>
    rw [List.getElem?_modify]
    cases s.loops[k]? with
    | none => rfl
    | some l => by_cases hk : oldExecutor = k <;> simp [hk, WorkLoop.interrupt]

theorem length_setExecutor (s : VpnWorker) (executor : Option ℕ) :
    (s.setExecutor executor).loops.length = s.loops.length := by
  rw [setExecutor]
  dsimp only
  split <;> simp

/-! ### While the condition is met -/

/-- No loop that a later `start` has left behind is in `runVpn`, and none has gone on. -/
structure Exclusive (s : VpnWorker) : Prop where
  behind : ∀ k l, s.loops[k]? = some l → k + 1 < s.loops.length → ¬ l.InRunVpn
  stale : s.staleIterations = 0

theorem exclusive_create : create.Exclusive := ⟨nofun, rfl⟩

end VpnWorker

/-- A loop gets to `runVpn` from `throttle` only. -/
theorem inRunVpn_stepWork {throttler throttler' : VpnConnectionThrottler} {l l' : WorkLoop}
    {e : WorkEvent} (h : stepWork throttler l e = some (throttler', l')) (hl' : l'.InRunVpn) :
    l.InRunVpn ∨ e = .wake ∨ ∃ now, e = .throttle now ∧ ¬ throttler.Waits now := by
  cases e with
  | initialized =>
    obtain ⟨-, -, rfl⟩ := by simpa [stepWork] using h
    exact absurd hl' (by simp [WorkLoop.InRunVpn, WorkLoop.goto])
  | throttle now =>
    obtain ⟨-, -, rfl⟩ := by simpa [stepWork] using h
    refine .inr (.inr ⟨now, rfl, fun hwaits => ?_⟩)
    rw [if_pos ((throttler.throttle_isSome_iff now).mpr hwaits)] at hl'
    exact absurd hl' (by simp [WorkLoop.InRunVpn, WorkLoop.goto])
  | wake => exact .inr (.inl rfl)
  | interruptedException =>
    obtain ⟨-, -, rfl⟩ := by simpa [stepWork] using h
    exact absurd hl' (by simp [WorkLoop.InRunVpn, WorkLoop.goto])
  | established =>
    obtain ⟨hstate, -⟩ := by simpa [stepWork] using h
    exact .inl (.inl hstate)
  | doOne deviceOpened =>
    obtain ⟨hstate, -⟩ := by simpa [stepWork] using h
    exact .inl (.inr hstate)
  | networkException =>
    obtain ⟨hrun, -⟩ := by simpa [stepWork] using h
    exact .inl hrun
  | uncheckedException =>
    obtain ⟨-, -, rfl⟩ := by simpa [stepWork] using h
    exact absurd hl' (by simp [WorkLoop.InRunVpn, WorkLoop.goto])

theorem stepWork_doOne {throttler throttler' : VpnConnectionThrottler} {l l' : WorkLoop}
    {deviceOpened : Bool} (h : stepWork throttler l (.doOne deviceOpened) = some (throttler', l')) :
    l.state = .polling := by
  obtain ⟨hstate, -⟩ := by simpa [stepWork] using h
  exact hstate

namespace VpnWorker

/-- **One step** that meets `KeepsExclusive` leaves no loop behind in `runVpn`. -/
theorem exclusive_step {s t : VpnWorker} {a : WorkerAction} (hs : s.Exclusive)
    (hok : KeepsExclusive s a) (h : stepVpnWorker s a = some t) : t.Exclusive := by
  cases a with
  | start =>
    obtain ⟨-, rfl⟩ := by simpa [stepVpnWorker] using h
    refine ⟨fun k l hl hk => ?_, hs.stale⟩
    have hlt : k < s.loops.length := by
      simp only [List.length_append, List.length_singleton] at hk
      omega
    rw [List.getElem?_append_left hlt] at hl
    exact hok l (List.mem_of_getElem? hl)
  | stop =>
    obtain ⟨-, rfl⟩ := by simpa [stepVpnWorker] using h
    exact ⟨hs.behind, hs.stale⟩
  | setExecutor =>
    obtain ⟨executor, -, rfl⟩ := Option.map_eq_some_iff.mp h
    refine ⟨fun k l hl hk => ?_, hs.stale⟩
    rw [length_setExecutor] at hk
    have hstate := getElem?_setExecutor s executor k
    rw [hl] at hstate
    obtain ⟨l', hl', heq⟩ := Option.map_eq_some_iff.mp hstate.symm
    have hbehind := hs.behind k l' hl' hk
    rwa [WorkLoop.InRunVpn, heq] at hbehind
  | loop k e =>
    obtain ⟨l, throttler, l', hl, hstep, rfl⟩ := stepVpnWorker_loop_iff.mp h
    refine ⟨fun j lj hlj hj => ?_, ?_⟩
    · rw [List.length_set] at hj
      by_cases hjk : k = j
      · subst hjk
        rw [List.getElem?_set_self (List.getElem?_eq_some_iff.mp hl).1] at hlj
        obtain rfl := Option.some.inj hlj
        intro hrun
        rcases inRunVpn_stepWork hstep hrun with hrun | rfl | ⟨now, rfl, hwaits⟩
        · exact hs.behind k l hl hj hrun
        · exact hok hj
        · exact hwaits (hok hj)
      · rw [List.getElem?_set_ne hjk] at hlj
        exact hs.behind j lj hlj hj
    · show (if _ then _ else _) = 0
      split
      next hstale =>
        -- an iteration is made in `runVpn`, where no loop left behind is
        obtain ⟨rfl, hk⟩ := hstale
        have hbehind := hs.behind k l hl (by have := s.returnedStarts_le; omega)
        exact absurd (.inr (stepWork_doOne hstep)) hbehind
      next => exact hs.stale

/-- Only the loop submitted last can poll. -/
theorem Exclusive.eq_of_polling {s : VpnWorker} (hs : s.Exclusive) {j k : ℕ} {lj lk : WorkLoop}
    (hj : s.loops[j]? = some lj) (hk : s.loops[k]? = some lk) (hjpolling : lj.state = .polling)
    (hkpolling : lk.state = .polling) : j = k := by
  have hjlast : ¬ j + 1 < s.loops.length := fun h => hs.behind j lj hj h (.inr hjpolling)
  have hklast : ¬ k + 1 < s.loops.length := fun h => hs.behind k lk hk h (.inr hkpolling)
  have hjlt := (List.getElem?_eq_some_iff.mp hj).1
  have hklt := (List.getElem?_eq_some_iff.mp hk).1
  omega

/-! ### Against the condition -/

/-- A loop left behind may poll once more. -/
theorem exists_stale_of_polling {s : VpnWorker} {k : ℕ} {l : WorkLoop} (hpending : s.pending = none)
    (hl : s.loops[k]? = some l) (hk : k + 1 < s.loops.length) (hpolling : l.state = .polling) :
    ∃ u, ActionSystem.run stepVpnWorker s [.loop k (.doOne true)] = some u ∧
      u.staleIterations ≠ 0 := by
  have hstep : stepWork s.connectionThrottler l (.doOne true) =
      some (s.connectionThrottler, l.goto .polling) := if_pos hpolling
  have hreturned : k + 1 < s.returnedStarts := by simpa [returnedStarts, hpending] using hk
  have hloop := stepVpnWorker_loop_iff.mpr ⟨l, _, _, hl, hstep, rfl⟩
  refine ⟨_, ActionSystem.run_cons_eq_some.mpr ⟨_, hloop, rfl⟩, ?_⟩
  show (if _ then _ else _) ≠ 0
  rw [if_pos ⟨rfl, hreturned⟩]
  exact Nat.succ_ne_zero _

theorem exists_stale_of_inRunVpn {s : VpnWorker} {k : ℕ} {l : WorkLoop}
    (hpending : s.pending = none)
    (hl : s.loops[k]? = some l) (hk : k + 1 < s.loops.length) (hrun : l.InRunVpn) :
    ∃ as u, ActionSystem.run stepVpnWorker s as = some u ∧ u.staleIterations ≠ 0 := by
  rcases hrun with hestablish | hpolling
  · have hstep : stepWork s.connectionThrottler l .established =
        some (s.connectionThrottler, l.goto .polling) := if_pos hestablish
    have hlt := (List.getElem?_eq_some_iff.mp hl).1
    obtain ⟨u, hu, hstale⟩ := exists_stale_of_polling (s := { s with
        loops := s.loops.set k (l.goto .polling)
        staleIterations := s.staleIterations }) hpending (List.getElem?_set_self hlt)
      (by rwa [List.length_set]) rfl
    refine ⟨[.loop k .established, .loop k (.doOne true)], u, ?_, hstale⟩
    have hloop := stepVpnWorker_loop_iff.mpr ⟨l, _, _, hl, hstep, rfl⟩
    exact ActionSystem.run_cons_eq_some.mpr ⟨_, hloop, hu⟩
  · obtain ⟨u, hu, hstale⟩ := exists_stale_of_polling hpending hl hk hpolling
    exact ⟨_, u, hu, hstale⟩

/-- A loop left behind in `runVpn` may go on once the call under way has returned. -/
theorem exists_stale {s : VpnWorker} {k : ℕ} {l : WorkLoop} (hl : s.loops[k]? = some l)
    (hk : k + 1 < s.loops.length) (hrun : l.InRunVpn) :
    ∃ as u, ActionSystem.run stepVpnWorker s as = some u ∧ u.staleIterations ≠ 0 := by
  cases hpending : s.pending with
  | none => exact exists_stale_of_inRunVpn hpending hl hk hrun
  | some executor =>
    have hstep : stepVpnWorker s .setExecutor = some (s.setExecutor executor) := by
      simp [stepVpnWorker, hpending]
    have hstate := getElem?_setExecutor s executor k
    rw [hl] at hstate
    obtain ⟨l', hl', heq⟩ := Option.map_eq_some_iff.mp hstate
    have hrun' : l'.InRunVpn := by rwa [WorkLoop.InRunVpn, heq]
    obtain ⟨as, u, hu, hstale⟩ := exists_stale_of_inRunVpn rfl hl'
      (by rwa [length_setExecutor]) hrun'
    exact ⟨.setExecutor :: as, u, ActionSystem.run_cons_eq_some.mpr ⟨_, hstep, hu⟩, hstale⟩

end VpnWorker

/-- **Against the condition.** From a step that does not meet `KeepsExclusive`, the loops can go on
so that one polls once more after a later `start` has returned. -/
theorem exists_stale_of_not_keepsExclusive {s t : VpnWorker} {a : WorkerAction}
    (h : stepVpnWorker s a = some t) (hnot : ¬ KeepsExclusive s a) :
    ∃ bs u, ActionSystem.run stepVpnWorker t bs = some u ∧ u.staleIterations ≠ 0 := by
  cases a with
  | start =>
    obtain ⟨-, rfl⟩ := by simpa [stepVpnWorker] using h
    obtain ⟨l, hl, hrun⟩ := by simpa [KeepsExclusive] using hnot
    obtain ⟨k, hk⟩ := List.getElem?_of_mem hl
    have hlt := (List.getElem?_eq_some_iff.mp hk).1
    refine VpnWorker.exists_stale (k := k) (l := l) ?_ (by simpa using hlt) hrun
    exact (List.getElem?_append_left hlt).trans hk
  | stop => exact absurd trivial hnot
  | setExecutor => exact absurd trivial hnot
  | loop k e =>
    obtain ⟨l, throttler, l', hl, hstep, rfl⟩ := VpnWorker.stepVpnWorker_loop_iff.mp h
    have hlt := (List.getElem?_eq_some_iff.mp hl).1
    have hget : (s.loops.set k l')[k]? = some l' := List.getElem?_set_self hlt
    cases e with
    | throttle now =>
      obtain ⟨hk, hwaits⟩ := by simpa [KeepsExclusive] using hnot
      obtain ⟨-, -, rfl⟩ := by simpa [stepWork] using hstep
      refine VpnWorker.exists_stale hget (by simpa using hk) (.inl ?_)
      exact if_neg fun hsome => hwaits ((s.connectionThrottler.throttle_isSome_iff now).mp hsome)
    | wake =>
      have hk : k + 1 < s.loops.length := by simpa [KeepsExclusive] using hnot
      obtain ⟨-, -, rfl⟩ := by simpa [stepWork] using hstep
      exact VpnWorker.exists_stale hget (by simpa using hk) (.inl rfl)
    | _ => exact absurd trivial hnot

/-- **The work loops.** In a run in which every `start` finds no loop in `runVpn` and no loop left
behind gets there, at most one loop polls, and none goes on after a later `start` has returned. A
step that is not so can be followed by one that goes on. -/
theorem work_loops_exclusive {as : List WorkerAction} {u : VpnWorker}
    (h : ActionSystem.run stepVpnWorker .create as = some u) :
    (ActionSystem.StepsMeet stepVpnWorker KeepsExclusive .create as →
      (∀ (j k : ℕ) (lj lk : WorkLoop), u.loops[j]? = some lj → u.loops[k]? = some lk →
        lj.state = .polling → lk.state = .polling → j = k) ∧ u.staleIterations = 0) ∧
    ∀ a t, stepVpnWorker u a = some t → ¬ KeepsExclusive u a →
      ∃ bs v, ActionSystem.run stepVpnWorker t bs = some v ∧ v.staleIterations ≠ 0 := by
  refine ⟨fun hok => ?_, fun a t ht hnot => exists_stale_of_not_keepsExclusive ht hnot⟩
  have hu : u.Exclusive := ActionSystem.invariant_run_of_stepsMeet
    (fun _ _ _ hs hok ht => VpnWorker.exclusive_step hs hok ht) VpnWorker.exclusive_create hok h
  exact ⟨fun j k lj lk hj hk => hu.eq_of_polling hj hk, hu.stale⟩

/-- The tunnel is closed and its loop has ended before the worker is started again. -/
def restartAfterEnd : List WorkerAction :=
  [.start, .setExecutor, .loop 0 .initialized, .loop 0 (.throttle 5000), .loop 0 .established,
    .loop 0 (.doOne true), .stop, .setExecutor, .loop 0 (.doOne false), .start, .setExecutor,
    .loop 1 .initialized, .loop 1 (.throttle 8000), .loop 1 .established, .loop 1 (.doOne true)]

theorem work_loops_exclusive_restartAfterEnd : ∃ u : VpnWorker,
    ActionSystem.run stepVpnWorker .create restartAfterEnd = some u ∧
    (∀ (j k : ℕ) (lj lk : WorkLoop), u.loops[j]? = some lj → u.loops[k]? = some lk →
      lj.state = .polling → lk.state = .polling → j = k) ∧ u.staleIterations = 0 := by
  obtain ⟨u, hu⟩ : ∃ u : VpnWorker,
      ActionSystem.run stepVpnWorker .create restartAfterEnd = some u := ⟨_, rfl⟩
  exact ⟨u, hu, (work_loops_exclusive hu).1 (by decide)⟩

/-- `reconnect` starts a worker whose loop polls. The loop goes on after `start` has returned, and
polls beside the new one. -/
theorem not_work_loops_exclusive :
    ¬ ∀ (as : List WorkerAction) (u : VpnWorker),
      ActionSystem.run stepVpnWorker .create as = some u →
      (∀ (j k : ℕ) (lj lk : WorkLoop), u.loops[j]? = some lj → u.loops[k]? = some lk →
        lj.state = .polling → lk.state = .polling → j = k) ∧ u.staleIterations = 0 := by
  intro h
  have hreconnected := h [.start, .setExecutor, .loop 0 .initialized, .loop 0 (.throttle 5000),
    .loop 0 .established, .loop 0 (.doOne true), .start, .setExecutor, .loop 0 (.doOne true),
    .loop 1 .initialized, .loop 1 (.throttle 8000), .loop 1 .established] _ rfl
  exact absurd (hreconnected.1 0 1 _ _ rfl rfl rfl rfl) (by decide)

end AdAway
