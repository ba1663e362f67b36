import AdAway.Library.ActionSystem
import Mathlib.Data.List.Basic

/-!
# The tasks of the home screen

`toggleAdBlocking`, `update` and `sync` of `HomeViewModel` return at once while `pending` is true,
and give a task to an executor otherwise. The task raises `pending` first and lowers it last, both
with `postValue`: the value is handed to the main thread, which sets it some time later. So between
the guard and the moment it sees its own task, `pending` is false.

`enableAllSources` has no guard. Its task runs on the disk thread and calls `sync` from there.

## Granularity

The main thread makes a call in one step. A task takes a step to raise `pending` and one to lower
it; its work in between is left open, and it may end either way. `sync` on the disk thread takes two
steps, the guard and the hand-over, since the main thread may set `pending` in between. A thread
takes the first task of its queue; there is one disk thread, and there are three network threads.

## Main definitions

* `LiveData` — a value, and the value posted to the main thread
* `HomeViewModel`, `stepHome` — the flag, the queues and the tasks that run
* `NoGuardedTask`, `CallsAlone` — the conditions on one step

## Main results

* `HomeViewModel.apart_step` — calls made alone keep the tasks apart
* `HomeViewModel.mayOverlap_of_not_callsAlone` — other calls may not
* `pending_guards_iff` — both, and in which runs `pending` covers every task
-/

namespace AdAway

/-! ### The flag -/

/-- A `MutableLiveData`, as far as `postValue` goes. -/
structure LiveData (α : Type) where
  value : α
  /-- The value posted and not set yet. -/
  pendingData : Option α
  deriving DecidableEq, Repr

namespace LiveData

variable {α : Type}

/-- `LiveData.postValue`. A value posted before and not set yet is lost. -/
def postValue (s : LiveData α) (value : α) : LiveData α := { s with pendingData := some value }

/-- The main thread sets the value posted last. -/
def setPosted (s : LiveData α) : Option (LiveData α) :=
  s.pendingData.map fun value => ⟨value, none⟩

end LiveData

/-! ### The tasks -/

/-- The methods that give a task to an executor. -/
inductive HomeCall
  | toggleAdBlocking
  | update
  | sync
  | enableAllSources
  deriving DecidableEq, Repr

/-- Where the task of a guarded call stands. -/
inductive GuardedTaskState
  /-- It is to post `true`. -/
  | submitted
  /-- It is to do its work and to post `false`. -/
  | raised
  deriving DecidableEq, Repr

/-- What the disk thread runs. -/
inductive DiskTask
  | toggle (state : GuardedTaskState)
  /-- At `SourceModel.enableAllSources`. -/
  | enableAllSources
  /-- At the guard of `sync`. -/
  | syncGuard
  /-- At the hand-over of `sync`. -/
  | syncExecute
  deriving DecidableEq, Repr

/-- The calls whose task runs on the disk thread. -/
inductive DiskCall
  | toggle
  | enableAllSources
  deriving DecidableEq, Repr

/-- The calls whose task runs on a network thread. -/
inductive NetworkCall
  | update
  | sync
  deriving DecidableEq, Repr

/-- The flag, and the two executors. -/
structure HomeViewModel where
  pending : LiveData Bool
  diskQueue : List DiskCall
  diskTask : Option DiskTask
  networkQueue : List NetworkCall
  networkTasks : List (NetworkCall × GuardedTaskState)
  deriving DecidableEq, Repr

/-- The network threads of `AppExecutors`. -/
def networkThreads : ℕ := 3

namespace HomeViewModel

/-- The constructor. -/
def create : HomeViewModel := ⟨⟨false, none⟩, [], none, [], []⟩

/-- `HomeViewModel.toggleAdBlocking`. -/
def toggleAdBlocking (s : HomeViewModel) : HomeViewModel :=
  if s.pending.value then s else { s with diskQueue := s.diskQueue ++ [.toggle] }

/-- `HomeViewModel.update`. -/
def update (s : HomeViewModel) : HomeViewModel :=
  if s.pending.value then s else { s with networkQueue := s.networkQueue ++ [.update] }

/-- `HomeViewModel.sync`. -/
def sync (s : HomeViewModel) : HomeViewModel :=
  if s.pending.value then s else { s with networkQueue := s.networkQueue ++ [.sync] }

/-- `HomeViewModel.enableAllSources`. -/
def enableAllSources (s : HomeViewModel) : HomeViewModel :=
  { s with diskQueue := s.diskQueue ++ [.enableAllSources] }

/-- A call on the main thread. -/
def call (s : HomeViewModel) : HomeCall → HomeViewModel
  | .toggleAdBlocking => s.toggleAdBlocking
  | .update => s.update
  | .sync => s.sync
  | .enableAllSources => s.enableAllSources

/-- The disk thread takes a task. -/
def takeDisk : DiskCall → DiskTask
  | .toggle => .toggle .submitted
  | .enableAllSources => .enableAllSources

/-- The next step of the disk thread, where `SourceModel.enableAllSources` answers `enabled`. -/
def diskStep (s : HomeViewModel) (enabled : Bool) : DiskTask → HomeViewModel
  | .toggle .submitted =>
    { s with pending := s.pending.postValue true, diskTask := some (.toggle .raised) }
  | .toggle .raised => { s with pending := s.pending.postValue false, diskTask := none }
  | .enableAllSources => { s with diskTask := if enabled then some .syncGuard else none }
  | .syncGuard => { s with diskTask := if s.pending.value then none else some .syncExecute }
  | .syncExecute => { s with networkQueue := s.networkQueue ++ [.sync], diskTask := none }

/-- The next step of the `n`-th network task. -/
def networkStep (s : HomeViewModel) (n : ℕ) : NetworkCall × GuardedTaskState → HomeViewModel
  | (c, .submitted) =>
    { s with
      pending := s.pending.postValue true
      networkTasks := s.networkTasks.set n (c, .raised) }
  | (_, .raised) =>
    { s with pending := s.pending.postValue false, networkTasks := s.networkTasks.eraseIdx n }

end HomeViewModel

/-- What may happen next. -/
inductive HomeAction
  | call (c : HomeCall)
  /-- The main thread sets the value posted to `pending`. -/
  | setPending
  /-- The disk thread takes its next task. -/
  | takeDisk
  | disk (enabled : Bool)
  /-- A network thread takes the next task. -/
  | takeNetwork
  | network (n : ℕ)
  deriving DecidableEq, Repr

/-- One step. -/
def stepHome (s : HomeViewModel) : HomeAction → Option HomeViewModel
  | .call c => some (s.call c)
  | .setPending => s.pending.setPosted.map fun pending => { s with pending := pending }
  | .takeDisk =>
    match s.diskTask, s.diskQueue with
    | none, c :: rest =>
      some { s with diskQueue := rest, diskTask := some (HomeViewModel.takeDisk c) }
    | _, _ => none
  | .disk enabled => s.diskTask.map fun task => s.diskStep enabled task
  | .takeNetwork =>
    match s.networkQueue with
    | c :: rest =>
      if s.networkTasks.length < networkThreads then
        some { s with
          networkQueue := rest
          networkTasks := s.networkTasks ++ [(c, .submitted)] }
      else none
    | [] => none
  | .network n => s.networkTasks[n]?.map fun task => s.networkStep n task

/-! ### What runs -/

/-- The disk thread runs a guarded task. -/
def DiskTask.isToggle : Option DiskTask → Bool
  | some (.toggle _) => true
  | _ => false

/-- The disk thread is about to hand a network task over. -/
def DiskTask.isSyncExecute : Option DiskTask → Bool
  | some .syncExecute => true
  | _ => false

namespace HomeViewModel

/-- The guarded tasks that run. -/
def running (s : HomeViewModel) : ℕ :=
  s.networkTasks.length + (DiskTask.isToggle s.diskTask).toNat

/-- One guarded task runs at a time, and none while `pending` is false. -/
structure Guarded (s : HomeViewModel) : Prop where
  exclusive : s.running ≤ 1
  covered : s.pending.value = false → s.running = 0

/-- No guarded task has begun. -/
structure Idle (s : HomeViewModel) : Prop where
  pending : s.pending = ⟨false, none⟩
  diskTask : DiskTask.isToggle s.diskTask = false
  networkTasks : s.networkTasks = []

end HomeViewModel

/-- No guarded task begins. -/
def NoGuardedTask (s : HomeViewModel) : HomeAction → Prop
  | .takeDisk => s.diskQueue.head? ≠ some .toggle
  | .takeNetwork => False
  | _ => True

instance (s : HomeViewModel) (a : HomeAction) : Decidable (NoGuardedTask s a) := by
  cases a <;> (unfold NoGuardedTask; infer_instance)

namespace HomeViewModel

theorem Idle.running_eq {s : HomeViewModel} (hs : s.Idle) : s.running = 0 := by
  rw [HomeViewModel.running, hs.diskTask, hs.networkTasks]
  rfl

theorem Idle.guarded {s : HomeViewModel} (hs : s.Idle) : s.Guarded :=
  ⟨hs.running_eq ▸ Nat.zero_le 1, fun _ => hs.running_eq⟩

/-- A call runs nothing itself. -/
theorem call_frame (s : HomeViewModel) (c : HomeCall) :
    (s.call c).pending = s.pending ∧ (s.call c).diskTask = s.diskTask ∧
      (s.call c).networkTasks = s.networkTasks := by
  cases c with
  | toggleAdBlocking =>
    rw [call, toggleAdBlocking]
    split <;> exact ⟨rfl, rfl, rfl⟩
  | update =>
    rw [call, update]
    split <;> exact ⟨rfl, rfl, rfl⟩
  | sync =>
    rw [call, sync]
    split <;> exact ⟨rfl, rfl, rfl⟩
  | enableAllSources => exact ⟨rfl, rfl, rfl⟩

/-! ### The flag covers the tasks -/

theorem takeDisk_cases {s t : HomeViewModel} (h : stepHome s .takeDisk = some t) :
    s.diskTask = none ∧ ∃ c rest, s.diskQueue = c :: rest ∧
      t = { s with diskQueue := rest, diskTask := some (takeDisk c) } := by
  rw [stepHome] at h
  split at h
  next c rest hnone hqueue => exact ⟨hnone, c, rest, hqueue, (Option.some.inj h).symm⟩
  next => cases h

theorem takeNetwork_cases {s t : HomeViewModel} (h : stepHome s .takeNetwork = some t) :
    ∃ c rest, s.networkQueue = c :: rest ∧
      t = { s with networkQueue := rest, networkTasks := s.networkTasks ++ [(c, .submitted)] } := by
  rw [stepHome] at h
  split at h
  next c rest hqueue =>
    obtain ⟨-, rfl⟩ := by simpa using h
    exact ⟨c, rest, hqueue, rfl⟩
  next => cases h

theorem Idle.step {s t : HomeViewModel} {a : HomeAction} (hs : s.Idle) (hok : NoGuardedTask s a)
    (h : stepHome s a = some t) : t.Idle := by
  cases a with
  | call c =>
    obtain rfl := Option.some.inj h
    obtain ⟨hpending, hdisk, hnetwork⟩ := s.call_frame c
    refine ⟨hpending.trans hs.pending, ?_, hnetwork.trans hs.networkTasks⟩
    rw [hdisk]
    exact hs.diskTask
  | setPending => simp [stepHome, LiveData.setPosted, hs.pending] at h
  | takeDisk =>
    obtain ⟨-, c, rest, hqueue, rfl⟩ := takeDisk_cases h
    cases c with
    | toggle => exact absurd (congrArg List.head? hqueue) hok
    | enableAllSources => exact ⟨hs.pending, rfl, hs.networkTasks⟩
  | disk enabled =>
    obtain ⟨task, htask, rfl⟩ := Option.map_eq_some_iff.mp h
    have hnot := hs.diskTask
    rw [htask] at hnot
    cases task with
    | toggle state => cases hnot
    | enableAllSources =>
      refine ⟨hs.pending, ?_, hs.networkTasks⟩
      cases enabled <;> rfl
    | syncGuard =>
      refine ⟨hs.pending, ?_, hs.networkTasks⟩
      simp [diskStep, hs.pending, DiskTask.isToggle]
    | syncExecute => exact ⟨hs.pending, rfl, hs.networkTasks⟩
  | takeNetwork => exact hok.elim
  | network n =>
    rw [stepHome, hs.networkTasks] at h
    cases h

/-- The first guarded task to begin runs while `pending` is still false. -/
theorem Idle.noGuardedTask {s t : HomeViewModel} {a : HomeAction} (hs : s.Idle)
    (h : stepHome s a = some t) (ht : t.Guarded) : NoGuardedTask s a := by
  cases a with
  | takeDisk =>
    obtain ⟨-, c, rest, hqueue, rfl⟩ := takeDisk_cases h
    rw [NoGuardedTask, hqueue]
    intro hhead
    obtain rfl := Option.some.inj hhead
    have hcovered := ht.covered (congrArg LiveData.value hs.pending)
    simp [HomeViewModel.running, takeDisk, DiskTask.isToggle] at hcovered
  | takeNetwork =>
    obtain ⟨c, rest, -, rfl⟩ := takeNetwork_cases h
    have hcovered := ht.covered (congrArg LiveData.value hs.pending)
    simp [HomeViewModel.running] at hcovered
  | _ => trivial

/-! ### Calls made alone -/

/-- The network tasks queued, running or about to be handed over. -/
def networkCount (s : HomeViewModel) : ℕ :=
  s.networkQueue.length + s.networkTasks.length + (DiskTask.isSyncExecute s.diskTask).toNat

/-- The toggles queued or running. -/
def toggleCount (s : HomeViewModel) : ℕ :=
  s.diskQueue.count .toggle + (DiskTask.isToggle s.diskTask).toNat

end HomeViewModel

/-- A call that finds `pending` false is made while no task it could overlap with is queued or
running: none at all, or none but toggles for another toggle, which share one thread. -/
def CallsAlone (s : HomeViewModel) : HomeAction → Prop
  | .call .toggleAdBlocking => s.pending.value = false → s.networkCount = 0
  | .call .update | .call .sync =>
    s.pending.value = false → s.networkCount = 0 ∧ s.toggleCount = 0
  | .disk _ =>
    s.diskTask = some .syncGuard → s.pending.value = false →
      s.networkCount = 0 ∧ s.toggleCount = 0
  | _ => True

instance (s : HomeViewModel) (a : HomeAction) : Decidable (CallsAlone s a) := by
  unfold CallsAlone
  split <;> infer_instance

namespace HomeViewModel

/-- There is one network task at most, and none beside toggles. -/
structure Apart (s : HomeViewModel) : Prop where
  network : s.networkCount ≤ 1
  apart : s.networkCount = 0 ∨ s.toggleCount = 0

theorem Apart.of_le {s t : HomeViewModel} (hs : s.Apart) (hn : t.networkCount ≤ s.networkCount)
    (ht : t.toggleCount ≤ s.toggleCount) : t.Apart := by
  refine ⟨Nat.le_trans hn hs.network, ?_⟩
  rcases hs.apart with h | h
  · exact .inl (by omega)
  · exact .inr (by omega)

theorem Apart.running_le {s : HomeViewModel} (hs : s.Apart) : s.running ≤ 1 := by
  have hnetwork := hs.network
  have hapart := hs.apart
  have htoggle := (DiskTask.isToggle s.diskTask).toNat_le
  simp only [networkCount, toggleCount] at hnetwork hapart
  rw [HomeViewModel.running]
  omega

theorem networkCount_append (s : HomeViewModel) (c : NetworkCall) :
    networkCount { s with networkQueue := s.networkQueue ++ [c] } = s.networkCount + 1 := by
  simp only [networkCount, List.length_append, List.length_singleton]
  omega

/-- The guard of `sync` on the disk thread, when it finds `pending` false. -/
theorem counts_syncGuard {s : HomeViewModel} (enabled : Bool) (htask : s.diskTask = some .syncGuard)
    (hpending : s.pending.value = false) :
    (s.diskStep enabled .syncGuard).networkCount = s.networkCount + 1 ∧
      (s.diskStep enabled .syncGuard).toggleCount = s.toggleCount := by
  constructor
  · simp [networkCount, diskStep, htask, hpending, DiskTask.isSyncExecute]
  · simp [toggleCount, diskStep, htask, hpending, DiskTask.isToggle]

/-- A network task more, where there was no task. -/
theorem apart_of_alone {s t : HomeViewModel} (hs : s.networkCount = 0 ∧ s.toggleCount = 0)
    (hn : t.networkCount = s.networkCount + 1) (ht : t.toggleCount = s.toggleCount) : t.Apart :=
  ⟨by omega, .inr (ht.trans hs.2)⟩

theorem apart_call {s : HomeViewModel} {c : HomeCall} (hs : s.Apart)
    (hok : CallsAlone s (.call c)) :
    (s.call c).Apart := by
  cases c with
  | toggleAdBlocking =>
    rw [call, toggleAdBlocking]
    split
    next => exact hs
    next hpending =>
      have hnone := hok (Bool.eq_false_iff.mpr hpending)
      refine ⟨?_, .inl hnone⟩
      exact hnone ▸ Nat.zero_le 1
  | update =>
    rw [call, update]
    split
    next => exact hs
    next hpending =>
      exact apart_of_alone (hok (Bool.eq_false_iff.mpr hpending)) (s.networkCount_append _) rfl
  | sync =>
    rw [call, sync]
    split
    next => exact hs
    next hpending =>
      exact apart_of_alone (hok (Bool.eq_false_iff.mpr hpending)) (s.networkCount_append _) rfl
  | enableAllSources =>
    refine hs.of_le (Nat.le_refl _) ?_
    simp [toggleCount, call, enableAllSources]

theorem apart_diskStep {s : HomeViewModel} {task : DiskTask} {enabled : Bool} (hs : s.Apart)
    (hok : CallsAlone s (.disk enabled)) (htask : s.diskTask = some task) :
    (s.diskStep enabled task).Apart := by
  cases task with
  | toggle state =>
    refine hs.of_le ?_ ?_
    · cases state <;> simp [networkCount, diskStep, htask, DiskTask.isSyncExecute]
    · cases state <;> simp [toggleCount, diskStep, htask, DiskTask.isToggle]
  | enableAllSources =>
    refine hs.of_le ?_ ?_
    · cases enabled <;> simp [networkCount, diskStep, htask, DiskTask.isSyncExecute]
    · cases enabled <;> simp [toggleCount, diskStep, htask, DiskTask.isToggle]
  | syncGuard =>
    cases hpending : s.pending.value with
    | true =>
      refine hs.of_le ?_ ?_
      · simp [networkCount, diskStep, htask, hpending, DiskTask.isSyncExecute]
      · simp [toggleCount, diskStep, htask, hpending, DiskTask.isToggle]
    | false =>
      obtain ⟨hn, ht⟩ := counts_syncGuard enabled htask hpending
      exact apart_of_alone (hok htask hpending) hn ht
  | syncExecute =>
    refine hs.of_le ?_ ?_
    · simp only [networkCount, diskStep, htask, DiskTask.isSyncExecute, List.length_append,
        List.length_singleton, Bool.toNat_true, Bool.toNat_false]
      omega
    · simp [toggleCount, diskStep, htask, DiskTask.isToggle]

/-- **One step** whose call is made alone keeps the tasks apart. -/
theorem apart_step {s t : HomeViewModel} {a : HomeAction} (hs : s.Apart) (hok : CallsAlone s a)
    (h : stepHome s a = some t) : t.Apart := by
  cases a with
  | call c =>
    obtain rfl := Option.some.inj h
    exact apart_call hs hok
  | setPending =>
    obtain ⟨pending, -, rfl⟩ := Option.map_eq_some_iff.mp h
    exact ⟨hs.network, hs.apart⟩
  | takeDisk =>
    obtain ⟨hnone, c, rest, hqueue, rfl⟩ := takeDisk_cases h
    refine hs.of_le ?_ ?_
    · cases c <;> simp [networkCount, takeDisk, hnone, DiskTask.isSyncExecute]
    · cases c <;> simp [toggleCount, takeDisk, hnone, hqueue, DiskTask.isToggle]
  | disk enabled =>
    obtain ⟨task, htask, rfl⟩ := Option.map_eq_some_iff.mp h
    exact apart_diskStep hs hok htask
  | takeNetwork =>
    obtain ⟨c, rest, hqueue, rfl⟩ := takeNetwork_cases h
    refine hs.of_le ?_ (Nat.le_refl _)
    simp only [networkCount, hqueue, List.length_append, List.length_cons, List.length_nil]
    omega
  | network n =>
    obtain ⟨⟨c, state⟩, htask, rfl⟩ := Option.map_eq_some_iff.mp h
    cases state with
    | submitted => exact hs.of_le (by simp [networkCount, networkStep]) (Nat.le_refl _)
    | raised =>
      refine hs.of_le ?_ (Nat.le_refl _)
      have hlength := s.networkTasks.length_eraseIdx_le n
      simp only [networkCount, networkStep]
      omega

/-! ### Calls not made alone -/

/-- Two guarded tasks may come to run at a time. -/
def MayOverlap (s : HomeViewModel) : Prop :=
  ∃ as u, ActionSystem.run stepHome s as = some u ∧ 1 < u.running

theorem mayOverlap_of_running {s : HomeViewModel} (h : 1 < s.running) : s.MayOverlap :=
  ⟨[], s, rfl, h⟩

theorem MayOverlap.of_step {s t : HomeViewModel} {a : HomeAction} (ht : t.MayOverlap)
    (h : stepHome s a = some t) : s.MayOverlap := by
  obtain ⟨as, u, hu, hrunning⟩ := ht
  exact ⟨a :: as, u, ActionSystem.run_cons_eq_some.mpr ⟨t, h, hu⟩, hrunning⟩

theorem stepHome_disk {s : HomeViewModel} {task : DiskTask} (htask : s.diskTask = some task) :
    stepHome s (.disk false) = some (s.diskStep false task) := by
  simp [stepHome, htask]

/-- The disk thread can be done with what it runs, unless that is a toggle. -/
theorem MayOverlap.of_diskTask_none {s : HomeViewModel}
    (hnot : DiskTask.isToggle s.diskTask = false)
    (hdone : ∀ networkQueue,
      MayOverlap { s with diskTask := none, networkQueue := s.networkQueue ++ networkQueue }) :
    s.MayOverlap := by
  have hempty : MayOverlap { s with diskTask := none } := by
    have hnil := hdone []
    rwa [List.append_nil] at hnil
  cases htask : s.diskTask with
  | none => rwa [← htask] at hempty
  | some task =>
    rw [htask] at hnot
    cases task with
    | toggle state => cases hnot
    | enableAllSources => exact hempty.of_step (stepHome_disk htask)
    | syncExecute => exact (hdone [.sync]).of_step (stepHome_disk htask)
    | syncGuard =>
      refine MayOverlap.of_step ?_ (stepHome_disk htask)
      rw [diskStep]
      split
      next => exact hempty
      next => exact (hdone [.sync]).of_step (a := .disk false) rfl

/-- A queued toggle comes to run beside a network task. -/
theorem mayOverlap_of_toggle {s : HomeViewModel} (hnetwork : 0 < s.networkTasks.length)
    (htoggle : 0 < s.toggleCount) : s.MayOverlap := by
  induction hqueue : s.diskQueue generalizing s with
  | nil =>
    refine mayOverlap_of_running ?_
    rw [toggleCount, hqueue, List.count_nil] at htoggle
    rw [running]
    omega
  | cons c rest ih =>
    cases hdisk : DiskTask.isToggle s.diskTask with
    | true =>
      refine mayOverlap_of_running ?_
      rw [running, hdisk, Bool.toNat_true]
      omega
    | false =>
      refine MayOverlap.of_diskTask_none hdisk fun networkQueue => ?_
      have hcount : 0 < (c :: rest).count .toggle := by
        rw [toggleCount, hqueue, hdisk] at htoggle
        exact htoggle
      have htake : stepHome
          { s with diskTask := none, networkQueue := s.networkQueue ++ networkQueue } .takeDisk =
          some { s with
            diskQueue := rest
            diskTask := some (takeDisk c)
            networkQueue := s.networkQueue ++ networkQueue } := by
        simp [stepHome, hqueue]
      refine MayOverlap.of_step ?_ htake
      cases c with
      | toggle =>
        refine mayOverlap_of_running ?_
        simp only [running, takeDisk, DiskTask.isToggle, Bool.toNat_true]
        omega
      | enableAllSources =>
        refine ih hnetwork ?_ rfl
        simpa [toggleCount, takeDisk, DiskTask.isToggle] using hcount

/-- A network thread takes the first task, unless two run already. -/
theorem MayOverlap.of_takeNetwork {s : HomeViewModel} (hqueue : 0 < s.networkQueue.length)
    (htaken : ∀ c rest, s.networkQueue = c :: rest → MayOverlap { s with
      networkQueue := rest
      networkTasks := s.networkTasks ++ [(c, .submitted)] }) : s.MayOverlap := by
  by_cases hrunning : 1 < s.running
  · exact mayOverlap_of_running hrunning
  · obtain ⟨c, rest, hcons⟩ := List.exists_cons_of_length_pos hqueue
    refine (htaken c rest hcons).of_step (a := .takeNetwork) ?_
    have hthreads : s.networkTasks.length < networkThreads := by
      rw [running] at hrunning
      rw [networkThreads]
      omega
    simp [stepHome, hcons, hthreads]

theorem mayOverlap_of_networkTask {s : HomeViewModel} (hnetwork : 0 < s.networkTasks.length)
    (h : 1 < s.networkQueue.length + s.networkTasks.length ∨ 0 < s.toggleCount) :
    s.MayOverlap := by
  rcases h with hcount | htoggle
  · by_cases htwo : 1 < s.networkTasks.length
    · exact mayOverlap_of_running (Nat.lt_of_lt_of_le htwo (Nat.le_add_right _ _))
    · refine MayOverlap.of_takeNetwork (by omega) fun c rest _ => mayOverlap_of_running ?_
      simp only [running, List.length_append, List.length_singleton]
      omega
  · exact mayOverlap_of_toggle hnetwork htoggle

/-- Two tasks that do not share the disk thread may come to run at a time. -/
theorem mayOverlap_of_counts {s : HomeViewModel} (hnetwork : 0 < s.networkCount)
    (h : 1 < s.networkCount ∨ 0 < s.toggleCount) : s.MayOverlap := by
  have hqueued : ∀ {s : HomeViewModel}, 0 < s.networkQueue.length + s.networkTasks.length →
      (1 < s.networkQueue.length + s.networkTasks.length ∨ 0 < s.toggleCount) →
      s.MayOverlap := by
    intro s hnetwork h
    by_cases hrun : 0 < s.networkTasks.length
    · exact mayOverlap_of_networkTask hrun h
    · refine MayOverlap.of_takeNetwork (by omega) fun c rest hcons => ?_
      refine mayOverlap_of_networkTask (by simp) ?_
      rw [hcons, List.length_cons] at h
      refine h.imp (fun hcount => ?_) id
      simp only [List.length_append, List.length_singleton]
      omega
  cases hdisk : DiskTask.isSyncExecute s.diskTask with
  | false =>
    simp only [networkCount, hdisk, Bool.toNat_false, Nat.add_zero] at hnetwork h
    exact hqueued hnetwork h
  | true =>
    -- the task is handed over first
    have htask : s.diskTask = some .syncExecute := by
      rw [DiskTask.isSyncExecute.eq_def] at hdisk
      split at hdisk
      next heq => exact heq
      next => cases hdisk
    have hcount :
        (s.networkQueue ++ [NetworkCall.sync]).length + s.networkTasks.length = s.networkCount := by
      simp only [networkCount, hdisk, Bool.toNat_true, List.length_append, List.length_singleton]
      omega
    have htoggle : (s.diskStep false .syncExecute).toggleCount = s.toggleCount := by
      simp [toggleCount, diskStep, htask, DiskTask.isToggle]
    refine MayOverlap.of_step (hqueued ?_ ?_) (stepHome_disk htask)
    · exact hcount ▸ hnetwork
    · exact h.imp (fun hone => hcount ▸ hone) fun hone => htoggle ▸ hone

/-- A network task more, where there was a task. -/
theorem mayOverlap_of_not_alone {s t : HomeViewModel}
    (hs : ¬ (s.networkCount = 0 ∧ s.toggleCount = 0)) (hn : t.networkCount = s.networkCount + 1)
    (ht : t.toggleCount = s.toggleCount) : t.MayOverlap :=
  mayOverlap_of_counts (by omega) (by omega)

/-- **Against the condition.** A call that is not made alone may lead to two guarded tasks that run
at a time. -/
theorem mayOverlap_of_not_callsAlone {s t : HomeViewModel} {a : HomeAction}
    (h : stepHome s a = some t) (hnot : ¬ CallsAlone s a) : t.MayOverlap := by
  cases a with
  | call c =>
    obtain rfl := Option.some.inj h
    cases c with
    | toggleAdBlocking =>
      obtain ⟨hpending, hnetwork⟩ := by simpa [CallsAlone] using hnot
      rw [call, toggleAdBlocking, hpending, if_neg Bool.false_ne_true]
      refine mayOverlap_of_counts (Nat.pos_of_ne_zero hnetwork) (.inr ?_)
      simp only [toggleCount, List.count_append, List.count_singleton_self]
      omega
    | update =>
      obtain ⟨hpending, hsome⟩ := Classical.not_imp.mp hnot
      rw [call, update, hpending, if_neg Bool.false_ne_true]
      exact mayOverlap_of_not_alone hsome (s.networkCount_append _) rfl
    | sync =>
      obtain ⟨hpending, hsome⟩ := Classical.not_imp.mp hnot
      rw [call, sync, hpending, if_neg Bool.false_ne_true]
      exact mayOverlap_of_not_alone hsome (s.networkCount_append _) rfl
    | enableAllSources => exact absurd trivial hnot
  | disk enabled =>
    obtain ⟨htask, hnot⟩ := Classical.not_imp.mp hnot
    obtain ⟨hpending, hsome⟩ := Classical.not_imp.mp hnot
    obtain ⟨task, htask', rfl⟩ := Option.map_eq_some_iff.mp h
    obtain rfl := Option.some.inj (htask.symm.trans htask')
    obtain ⟨hn, ht⟩ := counts_syncGuard enabled htask hpending
    exact mayOverlap_of_not_alone hsome hn ht
  | _ => exact absurd trivial hnot

end HomeViewModel

/-- **The tasks of the home screen.** In every state of a run at most one guarded task runs, and
none while `pending` is false, exactly when no guarded task of the run ever begins. At most one runs
as long as the calls are made alone, and a call that is not may lead to two. -/
theorem pending_guards_iff {as : List HomeAction} {u : HomeViewModel}
    (h : ActionSystem.run stepHome .create as = some u) :
    ((∀ bs, bs <+: as → ∀ t, ActionSystem.run stepHome .create bs = some t →
        t.running ≤ 1 ∧ (t.pending.value = false → t.running = 0)) ↔
      ActionSystem.StepsMeet stepHome NoGuardedTask .create as) ∧
    (ActionSystem.StepsMeet stepHome CallsAlone .create as → u.running ≤ 1) ∧
    ∀ a t, stepHome u a = some t → ¬ CallsAlone u a →
      ∃ bs v, ActionSystem.run stepHome t bs = some v ∧ 1 < v.running := by
  refine ⟨?_, fun hok => ?_, fun a t ht hnot => HomeViewModel.mayOverlap_of_not_callsAlone ht hnot⟩
  · exact ActionSystem.stepsMeet_iff_forall_prefix_of (I := HomeViewModel.Idle)
      (fun s hs => ⟨hs.guarded.exclusive, hs.guarded.covered⟩)
      (fun _ _ _ hs hok ht => hs.step hok ht)
      (fun _ _ _ hs ht hP => hs.noGuardedTask ht ⟨hP.1, hP.2⟩) ⟨rfl, rfl, rfl⟩ h
  · have hcreate : HomeViewModel.create.Apart := ⟨Nat.zero_le 1, .inl rfl⟩
    exact (ActionSystem.invariant_run_of_stepsMeet
      (fun _ _ _ hs hok ht => HomeViewModel.apart_step hs hok ht) hcreate hok h).running_le

/-- Every call is made, and the network threads are busy elsewhere. -/
def queuedOnly : List HomeAction :=
  [.call .update, .call .enableAllSources, .takeDisk, .disk true, .disk true, .disk true,
    .call .sync]

/-- A sync is called when the update has lowered the flag, and runs. -/
def oneByOne : List HomeAction :=
  [.call .update, .takeNetwork, .network 0, .setPending, .network 0, .setPending, .call .sync,
    .takeNetwork]

/-- While nothing begins the flag covers every task. Calls made one by one run one by one. And a sync
called after an update that waits can end in both running. -/
theorem pending_guards_iff_queuedOnly :
    (∃ u : HomeViewModel, ActionSystem.run stepHome .create queuedOnly = some u ∧
      ∀ bs, bs <+: queuedOnly → ∀ t, ActionSystem.run stepHome .create bs = some t →
        t.running ≤ 1 ∧ (t.pending.value = false → t.running = 0)) ∧
    (∃ u : HomeViewModel, ActionSystem.run stepHome .create oneByOne = some u ∧ u.running ≤ 1) ∧
    ∃ u t : HomeViewModel, ActionSystem.run stepHome .create [.call .update] = some u ∧
      stepHome u (.call .sync) = some t ∧
      ∃ bs v, ActionSystem.run stepHome t bs = some v ∧ 1 < v.running := by
  refine ⟨?_, ?_, ?_⟩
  · obtain ⟨u, hu⟩ : ∃ u : HomeViewModel,
        ActionSystem.run stepHome .create queuedOnly = some u := ⟨_, rfl⟩
    exact ⟨u, hu, (pending_guards_iff hu).1.mpr (by decide)⟩
  · obtain ⟨u, hu⟩ : ∃ u : HomeViewModel,
        ActionSystem.run stepHome .create oneByOne = some u := ⟨_, rfl⟩
    exact ⟨u, hu, (pending_guards_iff hu).2.1 (by decide)⟩
  · obtain ⟨u, hu⟩ : ∃ u : HomeViewModel,
        ActionSystem.run stepHome .create [.call .update] = some u := ⟨_, rfl⟩
    obtain ⟨t, ht⟩ : ∃ t, stepHome u (.call .sync) = some t := ⟨_, rfl⟩
    have hnot : ¬ CallsAlone u (.call .sync) := by
      obtain rfl := Option.some.inj hu
      decide
    exact ⟨u, t, hu, ht, (pending_guards_iff hu).2.2 _ t ht hnot⟩

/-- An update and a sync called one after the other both find `pending` false, and so does the main
thread while the first of them runs. -/
theorem not_pending_guards :
    (¬ ∀ (as : List HomeAction) (t : HomeViewModel),
      ActionSystem.run stepHome .create as = some t → t.running ≤ 1) ∧
    ¬ ∀ (as : List HomeAction) (t : HomeViewModel),
      ActionSystem.run stepHome .create as = some t → t.pending.value = false → t.running = 0 := by
  constructor
  · intro h
    have hboth := h [.call .update, .call .sync, .takeNetwork, .network 0, .takeNetwork] _ rfl
    exact absurd hboth (by decide)
  · intro h
    have hfirst := h [.call .update, .takeNetwork, .network 0] _ rfl rfl
    exact absurd hfirst (by decide)

end AdAway
